import PanelProbe.Command.Perform
import Std.Time.DateTime.Timestamp

/-!
The command line. What surrounds the command is looked up, the command is performed, and what it
does is carried out. There is no transport: every connection counts as refused.
-/

set_option autoImplicit false

namespace PanelProbe.Command

def pathText (place : List String) : String :=
  "/" ++ "/".intercalate place

def opens (path : String) : IO Bool := do
  try
    discard (IO.FS.Handle.mk path .read)
    return true
  catch _ => return false

def find? (place : List String) : IO (Option Storage.Node) := do
  let path := pathText place
  if ← opens (path ++ "/.") then return some .directory
  else if ← opens path then return some (.file (← IO.FS.readBinFile path))
  else return none

def lookUp (cwd : List String) (path : String) (tree : Storage.Tree) : IO Storage.Tree := do
  let parts := Storage.Path.ofText path
  let mut tree := tree
  let mut place := []
  for name in (if parts.rooted then parts.names else cwd ++ parts.names) do
    place := if name == ".." then place.dropLast else place ++ [name]
    if (tree.lookup place).isNone && !place.isEmpty then
      if let some node ← find? place then tree := tree ++ [(place, node)]
  return tree

/-- Looks up the names that result files cannot have any more. -/
def lookUpResults (s : Surroundings) (directory : String) : IO Storage.Tree := do
  let mut tree ← lookUp s.cwd directory s.files
  let mut attempt := 0
  repeat
    let before := tree.length
    tree ← lookUp s.cwd (Storage.join directory (Report.candidate s.started attempt)) tree
    if tree.length == before then break
    attempt := attempt + 1
  return tree

def create (before after : Storage.Tree) : IO Unit := do
  for (place, node) in after do
    if (before.lookup place).isNone then
      match node with
      | .directory => IO.FS.createDir (pathText place)
      | .file content => (← IO.FS.Handle.mk (pathText place) .writeNew).write content

def present : IO Calendar.Instant := do
  let now ← Std.Time.Timestamp.now
  return ⟨now.val.second.val, now.val.nano.val.toNat⟩

def surroundings : IO Surroundings := do
  let started ← present
  let terminal ← (← IO.getStdout).isTty
  return {
    files := []
    cwd := (Storage.Path.ofText (toString (← IO.currentDir))).names
    places := { home := ← IO.getEnv "HOME", configHome := ← IO.getEnv "XDG_CONFIG_HOME" }
    logFilter := ← IO.getEnv "RUST_LOG"
    colored := Console.isColored terminal (← IO.getEnv "CLICOLOR") (← IO.getEnv "NO_COLOR")
      (← IO.getEnv "CLICOLOR_FORCE")
    network := Http.Network.refusing
    fixture := ⟨started.seconds, started.date⟩
    started, duration := ⟨0, 0⟩, clock := fun _ => started.text }

def withFiles (s : Surroundings) (arguments : List String) :
    IO Surroundings := do
  match Arguments.parse arguments with
  | .error _ => return s
  | .ok a =>
    let path := (a.config <|> s.places.filePath?).getD "."
    let s := { s with files := ← lookUp s.cwd path s.files }
    match configuration s a with
    | .error _ => return s
    | .ok c => return { s with files := ← lookUpResults s c.resultsDirectory }

end PanelProbe.Command

open PanelProbe Command in
def main (arguments : List String) : IO UInt32 := do
  let s ← withFiles (← surroundings) arguments
  let e := perform s arguments
  for event in e.log do
    IO.eprintln (s.started.text ++ "  " ++ event.shown)
  IO.print e.printed
  create s.files e.files
  if let some line := e.complaint then IO.eprintln line
  return e.code.toUInt32
