import PanelProbe.Text.Numeral

/-!
Quoted texts of TOML: in double quotes with escapes, in apostrophes without, and both also over
several lines between tripled marks. Every reader takes the text behind the opening mark and gives
what follows the closing one.
-/

set_option autoImplicit false

namespace PanelProbe.Toml

/-- A character that may stand in a line: any but the controls, of which only the tab is allowed. -/
def isPlain (c : Char) : Bool :=
  c == '\t' || (0x20 ≤ c.toNat && c.toNat ≠ 0x7F)

def isBlank (c : Char) : Bool :=
  c == ' ' || c == '\t'

abbrev Read := Option (List Char × List Char)

def Read.push (c : Option Char) (read : Read) : Read :=
  match c, read with
  | some c, some (text, rest) => some (c :: text, rest)
  | _, _ => none

def escaped? (c : Char) : Option Char :=
  [('b', '\x08'), ('t', '\t'), ('n', '\n'), ('f', '\x0c'), ('r', '\r'), ('"', '"'),
    ('\\', '\\')].lookup c

def codePoint? (digits : List Char) : Option Char :=
  match Text.inBase? 16 digits with
  | some code => if code.isValidChar then some (Char.ofNat code) else none
  | none => none

def quoted : List Char → Read
  | [] => none
  | '"' :: rest => some ([], rest)
  | '\\' :: 'u' :: a :: b :: c :: d :: rest => (quoted rest).push (codePoint? [a, b, c, d])
  | '\\' :: 'U' :: a :: b :: c :: d :: e :: f :: g :: h :: rest =>
    (quoted rest).push (codePoint? [a, b, c, d, e, f, g, h])
  | '\\' :: c :: rest => (quoted rest).push (escaped? c)
  | c :: rest => if isPlain c then (quoted rest).push (some c) else none

def literal : List Char → Read
  | [] => none
  | '\'' :: rest => some ([], rest)
  | c :: rest => if isPlain c then (literal rest).push (some c) else none

/-- Where the reader of several lines is: in the text, behind a backslash that a line's end must
follow, or in the blanks and line ends such a backslash swallows. -/
inductive Joint
  | text
  | due
  | swallowing
  deriving DecidableEq

def Joint.lineEnd (joint : Joint) (read : Read) : Read :=
  if joint = .text then read.push (some '\n') else read

def Joint.next (joint : Joint) : Joint :=
  if joint = .text then .text else .swallowing

def Joint.guard (joint : Joint) (read : Read) : Read :=
  if joint = .due then none else read

/-- Reads up to three double quotes; up to two more belong to the text. -/
def quotedLines (joint : Joint) : List Char → Read
  | [] => none
  | '\n' :: rest => joint.lineEnd (quotedLines joint.next rest)
  | '\r' :: '\n' :: rest => joint.lineEnd (quotedLines joint.next rest)
  | '"' :: '"' :: '"' :: '"' :: '"' :: rest => joint.guard (some (['"', '"'], rest))
  | '"' :: '"' :: '"' :: '"' :: rest => joint.guard (some (['"'], rest))
  | '"' :: '"' :: '"' :: rest => joint.guard (some ([], rest))
  | '\\' :: '\n' :: rest => joint.guard (quotedLines .swallowing rest)
  | '\\' :: '\r' :: '\n' :: rest => joint.guard (quotedLines .swallowing rest)
  | '\\' :: 'u' :: a :: b :: c :: d :: rest =>
    joint.guard ((quotedLines .text rest).push (codePoint? [a, b, c, d]))
  | '\\' :: 'U' :: a :: b :: c :: d :: e :: f :: g :: h :: rest =>
    joint.guard ((quotedLines .text rest).push (codePoint? [a, b, c, d, e, f, g, h]))
  | '\\' :: c :: rest =>
    joint.guard (if isBlank c then quotedLines .due rest
      else (quotedLines .text rest).push (escaped? c))
  | c :: rest =>
    if isBlank c && joint ≠ .text then quotedLines joint rest
    else joint.guard (if isPlain c then (quotedLines .text rest).push (some c) else none)

def literalLines : List Char → Read
  | [] => none
  | '\'' :: '\'' :: '\'' :: '\'' :: '\'' :: rest => some (['\'', '\''], rest)
  | '\'' :: '\'' :: '\'' :: '\'' :: rest => some (['\''], rest)
  | '\'' :: '\'' :: '\'' :: rest => some ([], rest)
  | '\n' :: rest => (literalLines rest).push (some '\n')
  | '\r' :: '\n' :: rest => (literalLines rest).push (some '\n')
  | c :: rest => if isPlain c then (literalLines rest).push (some c) else none

def dropLineEnd : List Char → List Char
  | '\n' :: rest | '\r' :: '\n' :: rest => rest
  | text => text

def anyQuoted : List Char → Read
  | '"' :: '"' :: '"' :: rest => quotedLines .text (dropLineEnd rest)
  | '"' :: rest => quoted rest
  | '\'' :: '\'' :: '\'' :: rest => literalLines (dropLineEnd rest)
  | '\'' :: rest => literal rest
  | _ => none

end PanelProbe.Toml
