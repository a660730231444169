import PanelProbe.Percent

/-!
A file system as the list of what exists in it, each file and directory by its path from the root.
Looking up, reading and creating follow paths one component at a time and fail as a system does.
-/

set_option autoImplicit false

namespace PanelProbe.Storage

inductive Node
  | file (content : ByteArray)
  | directory

/-- What exists, by the names on the way from the root; the root itself always exists. -/
abbrev Tree := List (List String × Node)

inductive Failure
  | missing | exists | notDirectory | isDirectory | nameTooLong | invalidName | invalidText
  deriving DecidableEq, Repr

def Failure.message : Failure → String
  | .missing => "No such file or directory (os error 2)"
  | .exists => "File exists (os error 17)"
  | .notDirectory => "Not a directory (os error 20)"
  | .isDirectory => "Is a directory (os error 21)"
  | .nameTooLong => "File name too long (os error 36)"
  | .invalidName => "file name contained an unexpected NUL byte"
  | .invalidText => "stream did not contain valid UTF-8"

/-- A path taken apart: it starts at the root or at the working directory, a closing slash or dot
asks for a directory, and a closing dot for one that exists already. -/
structure Path where
  rooted : Bool
  names : List String
  closed : Bool
  dotted : Bool
  deriving DecidableEq, Repr

def Path.ofText (text : String) : Path :=
  let parts := (text.toList.splitOn '/').map String.ofList
  { rooted := text.toList.head? == some '/'
    names := parts.filter fun p => p != "" && p != "."
    closed := text.toList.getLast? == some '/' || parts.getLast? == some "."
    dotted := (parts.filter (· != "")).getLast? == some "." }

/-- A path followed by another one: a rooted one replaces it, else a slash stands between them
unless the first one ends in it or is empty. -/
def join (base rest : String) : String :=
  if rest.toList.head? == some '/' then rest
  else if base.isEmpty || base.toList.getLast? == some '/' then base ++ rest
  else base ++ "/" ++ rest

def nameLimit : Nat := 255

def pathLimit : Nat := 4096

namespace Tree

def node? (tree : Tree) (place : List String) : Option Node :=
  if place = [] then some .directory
  else tree.lookup place

def isDirectory (tree : Tree) (place : List String) : Bool :=
  match tree.node? place with
  | some .directory => true
  | _ => false

def checkName (name : String) : Except Failure Unit :=
  if nameLimit < (Percent.bytes name.toList).length then .error .nameTooLong else .ok ()

/-- Follows names from a place: every place on the way is a directory that exists. Gives the last
place, which need not exist, or fails on the way. -/
def follow (tree : Tree) : List String → List String → Except Failure (List String)
  | place, [] => .ok place
  | place, name :: rest =>
    match tree.node? place with
    | none => .error .missing
    | some (.file _) => .error .notDirectory
    | some .directory =>
      if name = ".." then tree.follow place.dropLast rest
      else do
        checkName name
        tree.follow (place ++ [name]) rest

def checkPath (path : String) : Except Failure Unit :=
  if path.toList.contains '\x00' then .error .invalidName
  else if pathLimit ≤ (Percent.bytes path.toList).length then .error .nameTooLong
  else .ok ()

def locate (tree : Tree) (cwd : List String) (path : String) : Except Failure (List String) :=
  let parts := Path.ofText path
  if path.isEmpty then .error .missing
  else do
    checkPath path
    tree.follow (if parts.rooted then [] else cwd) parts.names

def read (tree : Tree) (cwd : List String) (path : String) : Except Failure ByteArray := do
  let place ← tree.locate cwd path
  match tree.node? place with
  | none => .error .missing
  | some .directory => .error .isDirectory
  | some (.file content) =>
    if (Path.ofText path).closed then .error .notDirectory else .ok content

def readText (tree : Tree) (cwd : List String) (path : String) : Except Failure String := do
  match String.fromUTF8? (← tree.read cwd path) with
  | some text => .ok text
  | none => .error .invalidText

def pathExists (tree : Tree) (cwd : List String) (path : String) : Bool :=
  match tree.locate cwd path with
  | .ok place =>
    match tree.node? place with
    | none => false
    | some .directory => true
    | some (.file _) => !(Path.ofText path).closed
  | .error _ => false

def names (tree : Tree) (place : List String) : List String :=
  tree.filterMap fun entry =>
    if entry.1.dropLast = place then entry.1.getLast? else none

def enter (tree : Tree) (place names : List String) : Except Failure (List String) := do
  let place ← tree.follow place names
  match tree.node? place with
  | none => .error .missing
  | some (.file _) => .error .notDirectory
  | some .directory => .ok place

/-- Makes the directories that lack on the way along some names; one that exists is fine. A file
on the way is no directory as long as nothing lacked; behind the first that `lacked` each
directory is made in turn, and there the file exists in the place of one. Gives the tree and the
place reached, or the failure with what was made before it. -/
def makeAll (tree : Tree) (lacked : Bool) :
    List String → List String → Tree × Except Failure (List String)
  | place, [] =>
    if tree.isDirectory place then (tree, .ok place) else (tree, .error .exists)
  | place, name :: rest =>
    if !tree.isDirectory place then
      (tree, .error (if lacked then .exists else .notDirectory))
    else if name = ".." then tree.makeAll lacked place.dropLast rest
    else match checkName name with
      | .error e => (tree, .error e)
      | .ok () =>
        let next := place ++ [name]
        if (tree.node? next).isSome then tree.makeAll lacked next rest
        else makeAll (tree ++ [(next, .directory)]) true next rest

/-- Makes the directory at a path, with those on the way to it; the empty path is the working
directory. A directory named through its own dot is entered, not made. -/
def makeDirectory (tree : Tree) (cwd : List String) (path : String) :
    Tree × Except Failure (List String) :=
  let parts := Path.ofText path
  let start := if parts.rooted then [] else cwd
  match checkPath path with
  | .error e => (tree, .error e)
  | .ok () =>
    if !parts.dotted then tree.makeAll false start parts.names
    else match tree.enter start parts.names with
      | .error .missing =>
        match tree.makeAll false start parts.names.dropLast with
        | (tree, .ok _) => (tree, tree.enter start parts.names)
        | (tree, .error e) => (tree, .error e)
      | found => (tree, found)

def createNew (tree : Tree) (directory : List String) (name : String) (content : ByteArray) :
    Except Failure Tree := do
  checkName name
  let place := directory ++ [name]
  if (tree.node? place).isSome then .error .exists
  else .ok (tree ++ [(place, .file content)])

end Tree

end PanelProbe.Storage
