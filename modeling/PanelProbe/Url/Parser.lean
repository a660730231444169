import PanelProbe.Text.Ascii
import PanelProbe.Text.Blank
import PanelProbe.Text.Cut
import PanelProbe.Url.Name

/-!
Reading of URLs without a base, by the rules of browsers: stray blanks are dropped, backslashes
count as slashes in the special schemes, dot segments are resolved, and every part is
percent-encoded as far as it needs to be.
-/

set_option autoImplicit false

namespace PanelProbe.Url

/-- Drops controls and spaces from both ends, and tabs and line ends everywhere. -/
def clean (text : List Char) : List Char :=
  let isEdge (c : Char) := decide (c.toNat ≤ 0x20)
  (Text.dropEnd isEdge (text.dropWhile isEdge)).filter fun c => c ≠ '\t' && c ≠ '\n' && c ≠ '\r'

def cutScheme? (text : List Char) : Option (String × List Char) :=
  match Text.cut ':' text with
  | (c :: name, some rest) =>
    if c.isAlpha && name.all (fun c => c.isAlphanum || "+-.".toList.contains c) then
      some (Text.lower (String.ofList (c :: name)), rest)
    else none
  | _ => none

def isSlash (special : Bool) (c : Char) : Bool :=
  c == '/' || (special && c == '\\')

def splitPath (special : Bool) (text : List Char) : List (List Char) :=
  text.splitOnP (isSlash special)

/-! Authorities. -/

structure Authority where
  username : List Char := []
  password : Option (List Char) := none
  host : Host
  port : Option Nat := none

/-- The host with what follows it: a colon inside brackets belongs to the host. -/
def cutPort (inside : Bool) : List Char → List Char × Option (List Char)
  | [] => ([], none)
  | c :: rest =>
    if c == ':' && !inside then ([], some rest)
    else
      let (host, port) := cutPort (c == '[' || (inside && c != ']')) rest
      (c :: host, port)

/-- Reads a port; none is kept when it is missing or the scheme's own. -/
def portOf (scheme : String) (text : List Char) : Except Fault (Option Nat) :=
  if text.isEmpty then .ok none
  else
    match Text.ofDigits? text with
    | some n =>
      if n < Nat.pow 2 16 then .ok (if defaultPort? scheme == some n then none else some n)
      else .error .port
    | none => .error .port

def cutCredentials (text : List Char) : List Char × Option (List Char) :=
  let encode := Percent.encode keptInCredentials
  let (username, password) := Text.cut ':' text
  (encode username, (password.filter (!·.isEmpty)).map encode)

/-- Reads an authority; `followed` says that the URL goes on after it. A backslash ends a port, and
what it begins is given back for the path. -/
def authorityOf (scheme : String) (followed : Bool) (text : List Char) :
    Except Fault (Authority × List Char) := do
  let (info, rest) := Text.cutLast '@' text
  let (username, password) := cutCredentials (info.getD [])
  let (hostText, portText) := cutPort false rest
  let special := isSpecial scheme
  let anonymous := username.isEmpty && password.isNone
  if hostText.isEmpty then
    if special || portText.isSome || !anonymous || (info == some [] && followed) then
      .error .emptyHost
    else .ok ({ host := .name [] }, [])
  else
    let host ← if special then Host.ofName hostText else Host.ofText hostText
    let (portText, left) := (portText.getD []).span (· ≠ '\\')
    .ok ({ username, password, host, port := ← portOf scheme portText }, left)

/-! Paths. -/

def isDots : Nat → List Char → Bool
  | 0, text => text.isEmpty
  | n + 1, '.' :: rest => isDots n rest
  | n + 1, '%' :: '2' :: 'e' :: rest => isDots n rest
  | n + 1, '%' :: '2' :: 'E' :: rest => isDots n rest
  | _ + 1, _ => false

/-- A drive: a letter and a colon or a bar, at the end or before a backslash. -/
def isDrive : List Char → Bool
  | c :: mark :: rest =>
    c.isAlpha && (mark == ':' || mark == '|') && (rest.isEmpty || rest.head? == some '\\')
  | _ => false

def shorten : List (List Char) → List (List Char)
  | [] => []
  | last :: kept => if isDrive last then last :: kept else kept

def segment (file first : Bool) (text : List Char) : List Char :=
  if file && first && isDrive text then text.take 1 ++ [':'] else Percent.encode keptInPath text

/-- Resolves dot segments; `kept` are the segments before, the last in front. A dot segment at the
end leaves an empty segment. -/
def resolveDots (file : Bool) (kept : List (List Char)) : List (List Char) → List (List Char)
  | [] => kept.reverse
  | s :: rest =>
    if isDots 1 s || isDots 2 s then
      let kept := if isDots 2 s then shorten kept else kept
      if rest.isEmpty then ([] :: kept).reverse else resolveDots file kept rest
    else resolveDots file (segment file kept.isEmpty s :: kept) rest

def segmentsOf (scheme : String) (text : List Char) : List (List Char) :=
  resolveDots (scheme == "file") [] (splitPath (isSpecial scheme) text)

def dropSlash (special : Bool) : List Char → List Char
  | [] => []
  | c :: rest => if isSlash special c then rest else c :: rest

def pathOf (scheme : String) (text : List Char) : Path :=
  if text.isEmpty then .segments (if isSpecial scheme then [[]] else [])
  else .segments (segmentsOf scheme (dropSlash (isSpecial scheme) text))

def filePath (segments : List (List Char)) : Path :=
  match segments.dropWhile List.isEmpty with
  | [] => .segments [[]]
  | names => .segments names

def fileHost (text : List Char) : Except Fault Host :=
  if text.isEmpty then .ok (.name [])
  else do
    let host ← Host.ofName text
    .ok (if host = .name "localhost".toList then .name [] else host)

/-- Reads host and path of a file. A drive is no host and takes none; without a host the slash
that begins the path makes an empty segment, so that a drive after it is not the first. -/
def fileOf (text : List Char) : Except Fault (Host × Path) := do
  let isEnd := isSlash true
  let here (text : List Char) : Except Fault (Host × Path) :=
    .ok (.name [], filePath (segmentsOf "file" text))
  match text with
  | a :: b :: rest =>
    if isEnd a && isEnd b then
      let (hostText, after) := rest.span (!isEnd ·)
      if isDrive hostText then here rest
      else
        let host ← fileHost hostText
        if host = .name [] then here after
        else
          let segments := segmentsOf "file" (dropSlash true after)
          let drive := (segments.head?.map isDrive).getD false
          .ok (if drive then .name [] else host, filePath segments)
    else here (dropSlash true text)
  | _ => here (dropSlash true text)

/-- Reads authority and path, which share what stands before the query. -/
def hierarchy (scheme : String) (more : Bool) (text : List Char) :
    Except Fault (Option Authority × Path) := do
  let special := isSpecial scheme
  let isEnd := isSlash special
  if scheme == "file" then
    let (host, path) ← fileOf text
    .ok (some { host }, path)
  else if special || ['/', '/'].isPrefixOf text then
    let rest := if special then text.dropWhile isEnd else text.drop 2
    let path := rest.dropWhile (!isEnd ·)
    let (a, left) ← authorityOf scheme (more || !path.isEmpty) (rest.takeWhile (!isEnd ·))
    .ok (some a, pathOf scheme (left ++ path))
  else
    match text with
    | '/' :: _ => .ok (none, pathOf scheme text)
    | _ => .ok (none, .plain (Percent.encode keptPlain text))

def parse (input : List Char) : Except Fault Url := do
  match cutScheme? (clean input) with
  | none => .error .noScheme
  | some (scheme, text) =>
    let (text, fragment) := Text.cut '#' text
    let (text, query) := Text.cut '?' text
    let (authority, path) ← hierarchy scheme (query.isSome || fragment.isSome) text
    .ok {
      scheme, path
      username := (authority.map Authority.username).getD []
      password := authority.bind Authority.password
      host := authority.map Authority.host
      port := authority.bind Authority.port
      query := query.map (Percent.encode (keptInQuery (isSpecial scheme)))
      fragment := fragment.map (Percent.encode keptInFragment) }

end PanelProbe.Url
