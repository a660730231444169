import PanelProbe.Toml.Scalar
import PanelProbe.Toml.Text

/-!
Reading of TOML documents, line by line: a line states an assignment or a header, or nothing, and
may end with a comment.
-/

set_option autoImplicit false

namespace PanelProbe.Toml

def dropBlank (text : List Char) : List Char :=
  text.dropWhile isBlank

def dropComment : List Char → List Char
  | '#' :: rest => rest.dropWhile isPlain
  | text => text

def afterLine? : List Char → Option (List Char)
  | [] => some []
  | '\n' :: rest => some rest
  | '\r' :: '\n' :: rest => some rest
  | _ => none

/-- Values nest less deep than this, and keys have fewer parts. -/
def depthLimit : Nat := 80

def isBare (c : Char) : Bool :=
  c.isAlphanum || c == '_' || c == '-'

def keyPart : List Char → Read
  | '"' :: rest => quoted rest
  | '\'' :: rest => literal rest
  | text =>
    match text.takeWhile isBare with
    | [] => none
    | part => some (part, text.dropWhile isBare)

/-- Reads a key of at most so many parts between points. -/
def key (parts : Nat) (text : List Char) : Option (Key × List Char) :=
  match parts with
  | 0 => none
  | parts + 1 =>
    match keyPart (dropBlank text) with
    | none => none
    | some (part, rest) =>
      let part := String.ofList part
      match dropBlank rest with
      | '.' :: rest => (key parts rest).map fun (k, rest) => (⟨part :: k.way, k.last⟩, rest)
      | rest => some (⟨[], part⟩, rest)

def assigned (text : List Char) : Option (Key × List Char) :=
  match key (depthLimit - 1) text with
  | some (k, '=' :: rest) => some (k, dropBlank rest)
  | _ => none

def dropFiller : Nat → List Char → List Char
  | 0, text => text
  | n + 1, text =>
    match dropComment (dropBlank text) with
    | '\n' :: rest | '\r' :: '\n' :: rest => dropFiller n rest
    | rest => rest

mutual

/-- Reads a value inside of containers that leave `depth` more. -/
def value (fuel depth : Nat) (text : List Char) : Option (Toml × List Char) :=
  match fuel, text with
  | 0, _ => none
  | fuel + 1, '[' :: rest =>
    match depth with
    | 0 => none
    | depth + 1 => (items fuel depth rest).map fun (xs, rest) => (.array xs, rest)
  | fuel + 1, '\x7b' :: rest =>
    match depth, dropBlank rest with
    | 0, _ => none
    | _ + 1, '\x7d' :: rest => some (.table .inline [], rest)
    | depth + 1, rest =>
      match entries fuel depth rest with
      | some (es, rest) => (ofAssignments? es).map (·, rest)
      | none => none
  | _ + 1, '"' :: rest =>
    (anyQuoted ('"' :: rest)).map fun (s, rest) => (.string (String.ofList s), rest)
  | _ + 1, '\'' :: rest =>
    (anyQuoted ('\'' :: rest)).map fun (s, rest) => (.string (String.ofList s), rest)
  | _ + 1, text => unquoted? text

/-- Reads the items of an array up to its bracket; a comma may stand behind the last. -/
def items (fuel depth : Nat) (text : List Char) : Option (List Toml × List Char) :=
  match fuel with
  | 0 => none
  | fuel + 1 =>
    match dropFiller text.length text with
    | ']' :: rest => some ([], rest)
    | text =>
      match value fuel depth text with
      | none => none
      | some (x, rest) =>
        match dropFiller rest.length rest with
        | ',' :: rest => (items fuel depth rest).map fun (xs, rest) => (x :: xs, rest)
        | ']' :: rest => some ([x], rest)
        | _ => none

def entries (fuel depth : Nat) (text : List Char) : Option (List (Key × Toml) × List Char) :=
  match fuel with
  | 0 => none
  | fuel + 1 =>
    match assigned text with
    | none => none
    | some (k, rest) =>
      match value fuel depth rest with
      | none => none
      | some (x, rest) =>
        match dropBlank rest with
        | ',' :: rest => (entries fuel depth rest).map fun (es, rest) => ((k, x) :: es, rest)
        | '\x7d' :: rest => some ([(k, x)], rest)
        | _ => none

end

def header (text : List Char) : Option (Statement × List Char) :=
  match text with
  | '[' :: rest =>
    match key (depthLimit - 1) rest with
    | some (k, ']' :: ']' :: rest) => some (.repeatedHeader k, rest)
    | _ => none
  | rest =>
    match key (depthLimit - 1) rest with
    | some (k, ']' :: rest) => some (.header k, rest)
    | _ => none

def statement (text : List Char) : Option (Statement × List Char) :=
  match text with
  | '[' :: rest => header rest
  | text =>
    match assigned text with
    | none => none
    | some (k, rest) =>
      (value rest.length (depthLimit - 1) rest).map fun (x, rest) => (.assignment k x, rest)

def lines (count : Nat) (text : List Char) : Option (List Statement) :=
  match count, dropBlank text with
  | 0, _ => none
  | _ + 1, [] => some []
  | count + 1, text =>
    let line := match dropComment text with
      | [] => some ([], [])
      | c :: rest =>
        if c == '#' || c == '\n' || c == '\r' then some ([], c :: rest)
        else (statement text).map fun (s, rest) => ([s], rest)
    match line with
    | none => none
    | some (found, rest) =>
      match afterLine? (dropComment (dropBlank rest)) with
      | none => none
      | some rest => (lines count rest).map (found ++ ·)

/-- Reads a document; a byte order mark may stand in front. -/
def parse? (text : String) : Option Members :=
  let text := match text.toList with
    | '\ufeff' :: rest => rest
    | text => text
  match lines (text.length + 1) text with
  | some statements => ofStatements? statements
  | none => none

end PanelProbe.Toml
