import PanelProbe.Json.Number

/-!
The tokens of a JSON text, their spelling, and the scanner that splits a text into them one
character at a time.
-/

set_option autoImplicit false

namespace PanelProbe.Json

inductive Token
  | null
  | bool (value : Bool)
  | number (value : Number)
  | string (value : String)
  | openArray | closeArray | openObject | closeObject | comma | colon
  deriving DecidableEq, Repr

def hexDigit (n : Nat) : Char :=
  if n < 10 then Char.ofNat ('0'.toNat + n) else Char.ofNat ('a'.toNat + n - 10)

/-- A character of a string as it is written: quote, backslash and control characters are
escaped. -/
def escapeChar (c : Char) : List Char :=
  if c = '"' then ['\\', '"']
  else if c = '\\' then ['\\', '\\']
  else if c = '\x08' then ['\\', 'b']
  else if c = '\x0c' then ['\\', 'f']
  else if c = '\n' then ['\\', 'n']
  else if c = '\r' then ['\\', 'r']
  else if c = '\t' then ['\\', 't']
  else if c.toNat < 0x20 then
    ['\\', 'u', '0', '0', hexDigit (c.toNat / 16), hexDigit (c.toNat % 16)]
  else [c]

def quoted (text : String) : List Char :=
  '"' :: text.toList.flatMap escapeChar ++ ['"']

namespace Token

def spelling : Token → List Char
  | .null => ['n', 'u', 'l', 'l']
  | .bool true => ['t', 'r', 'u', 'e']
  | .bool false => ['f', 'a', 'l', 's', 'e']
  | .number n => n.chars
  | .string s => quoted s
  | .openArray => ['[']
  | .closeArray => [']']
  | .openObject => ['\x7b']
  | .closeObject => ['\x7d']
  | .comma => [',']
  | .colon => [':']

def ofMark? (c : Char) : Option Token :=
  if c = '[' then some .openArray
  else if c = ']' then some .closeArray
  else if c = '\x7b' then some .openObject
  else if c = '\x7d' then some .closeObject
  else if c = ',' then some .comma
  else if c = ':' then some .colon
  else none

def ofWord? (word : List Char) : Option Token :=
  if word = ['n', 'u', 'l', 'l'] then some .null
  else if word = ['t', 'r', 'u', 'e'] then some (.bool true)
  else if word = ['f', 'a', 'l', 's', 'e'] then some (.bool false)
  else (Number.ofChars? word).map .number

end Token

def isSpace (c : Char) : Bool :=
  c == ' ' || c == '\n' || c == '\t' || c == '\r'

def isWordChar (c : Char) : Bool :=
  c.isAlphanum || c == '+' || c == '-' || c == '.'

def hexValue? (c : Char) : Option Nat :=
  if c.isDigit then some (c.toNat - '0'.toNat)
  else if 'a' ≤ c ∧ c ≤ 'f' then some (c.toNat - 'a'.toNat + 10)
  else if 'A' ≤ c ∧ c ≤ 'F' then some (c.toNat - 'A'.toNat + 10)
  else none

def simpleEscape? (c : Char) : Option Char :=
  if c = '"' ∨ c = '\\' ∨ c = '/' then some c
  else if c = 'b' then some '\x08'
  else if c = 'f' then some '\x0c'
  else if c = 'n' then some '\n'
  else if c = 'r' then some '\r'
  else if c = 't' then some '\t'
  else none

/-- Where the scanner stands; characters of an unfinished token are held newest first, and a
leading surrogate waits for its trailing one. -/
inductive Place
  | between
  | word (seen : List Char)
  | text (seen : List Char)
  | escape (seen : List Char)
  | unicode (seen : List Char) (lead : Option Nat) (left code : Nat)
  | trail (seen : List Char) (lead : Nat)
  | trailMark (seen : List Char) (lead : Nat)
  deriving DecidableEq, Repr

/-- The scanner: its place and the tokens found, newest first. -/
structure Scan where
  place : Place
  found : List Token
  deriving DecidableEq, Repr

namespace Scan

def outside (found : List Token) (c : Char) : Option Scan :=
  if isSpace c then some ⟨.between, found⟩
  else match Token.ofMark? c with
    | some mark => some ⟨.between, mark :: found⟩
    | none =>
      if c = '"' then some ⟨.text [], found⟩
      else if isWordChar c then some ⟨.word [c], found⟩
      else none

/-- The place after the last digit of a `\u` escape: a leading surrogate needs a trailing one
right after it, and a trailing one stands nowhere else. -/
def unit? (seen : List Char) (lead : Option Nat) (code : Nat) : Option Place :=
  match lead with
  | some high =>
    if 0xDC00 ≤ code ∧ code ≤ 0xDFFF then
      some (.text (Char.ofNat (0x10000 + (high - 0xD800) * 0x400 + (code - 0xDC00)) :: seen))
    else none
  | none =>
    if 0xD800 ≤ code ∧ code ≤ 0xDBFF then some (.trail seen code)
    else if 0xDC00 ≤ code ∧ code ≤ 0xDFFF then none
    else some (.text (Char.ofNat code :: seen))

def next (s : Scan) (c : Char) : Option Scan :=
  match s.place with
  | .between => outside s.found c
  | .word seen =>
    if isWordChar c then some ⟨.word (c :: seen), s.found⟩
    else (Token.ofWord? seen.reverse).bind fun t => outside (t :: s.found) c
  | .text seen =>
    if c = '"' then some ⟨.between, .string (String.ofList seen.reverse) :: s.found⟩
    else if c = '\\' then some ⟨.escape seen, s.found⟩
    else if c.toNat < 0x20 then none
    else some ⟨.text (c :: seen), s.found⟩
  | .escape seen =>
    if c = 'u' then some ⟨.unicode seen none 4 0, s.found⟩
    else (simpleEscape? c).map fun c => ⟨.text (c :: seen), s.found⟩
  | .unicode seen lead left code =>
    (hexValue? c).bind fun digit =>
      let code := code * 16 + digit
      if left ≤ 1 then (unit? seen lead code).map fun place => ⟨place, s.found⟩
      else some ⟨.unicode seen lead (left - 1) code, s.found⟩
  | .trail seen lead => if c = '\\' then some ⟨.trailMark seen lead, s.found⟩ else none
  | .trailMark seen lead =>
    if c = 'u' then some ⟨.unicode seen (some lead) 4 0, s.found⟩ else none

def finish (s : Scan) : Option (List Token) :=
  match s.place with
  | .between => some s.found.reverse
  | .word seen => (Token.ofWord? seen.reverse).map fun t => (t :: s.found).reverse
  | _ => none

def start : Scan := ⟨.between, []⟩

def run (s : Scan) (text : List Char) : Option Scan := text.foldlM next s

end Scan

def tokens? (text : List Char) : Option (List Token) :=
  (Scan.start.run text).bind Scan.finish

end PanelProbe.Json
