import PanelProbe.Json.Number
import PanelProbe.Text.Numeral
import PanelProbe.Toml.Basic

/-!
Unquoted values of TOML: truth values, numbers and moments. A value is a word of the characters
that such values have; only a date may go on, with a time, behind one space.
-/

set_option autoImplicit false

namespace PanelProbe.Toml

def isWordChar (c : Char) : Bool :=
  c.isAlphanum || "_+-.:".toList.contains c

/-- Digits with single underscores between them, the underscores left out. -/
def ungrouped? (isDigit : Char → Bool) (text : List Char) : Option (List Char) :=
  let groups := text.splitOn '_'
  if groups.all fun g => !g.isEmpty && g.all isDigit then some groups.flatten else none

def whole? (text : List Char) : Option (List Char) :=
  if text.length > 1 && text.head? == some '0' then none else ungrouped? Char.isDigit text

def cutSign : List Char → Bool × List Char
  | '-' :: rest => (true, rest)
  | '+' :: rest => (false, rest)
  | text => (false, text)

def based? (base : Nat) (text : List Char) : Option Int :=
  ((ungrouped? (Text.isDigitIn base) text).bind (Text.inBase? base)).map Int.ofNat

def integer? (text : List Char) : Option Int :=
  let value := match text with
    | '0' :: 'x' :: digits => based? 16 digits
    | '0' :: 'o' :: digits => based? 8 digits
    | '0' :: 'b' :: digits => based? 2 digits
    | _ =>
      let (negative, digits) := cutSign text
      (whole? digits).map fun ds =>
        let n := Int.ofNat (Nat.ofDigitChars 10 ds 0)
        if negative then -n else n
  value.filter fun n => -Int.ofNat (Nat.pow 2 63) ≤ n ∧ n < Int.ofNat (Nat.pow 2 63)

/-- The exponent of a float as JSON writes it, from the text behind the whole part and fraction. -/
def exponent? : List Char → Option (List Char)
  | [] => some []
  | mark :: rest =>
    if mark == 'e' || mark == 'E' then
      let (negative, digits) := cutSign rest
      (ungrouped? Char.isDigit digits).map fun ds =>
        'e' :: (if negative then ['-'] else []) ++ ds
    else none

def magnitude? (text : List Char) : Option (List Char) :=
  let isBreak (c : Char) := c == '.' || c == 'e' || c == 'E'
  let behind := text.dropWhile (!isBreak ·)
  match whole? (text.takeWhile (!isBreak ·)), behind with
  | some front, '.' :: rest =>
    let isMark (c : Char) := c == 'e' || c == 'E'
    match ungrouped? Char.isDigit (rest.takeWhile (!isMark ·)),
        exponent? (rest.dropWhile (!isMark ·)) with
    | some fraction, some exponent => some (front ++ '.' :: fraction ++ exponent)
    | _, _ => none
  | some front, _ :: _ => (exponent? behind).map (front ++ ·)
  | _, _ => none

/-- The word is a float; a positive one that rounds to no double is none. -/
def isFloat (text : List Char) : Bool :=
  let (negative, digits) := cutSign text
  digits == "inf".toList || digits == "nan".toList ||
    match magnitude? digits with
    | some number => negative || (NumberLiteral.ofChars? number).any (·.isFinite)
    | none => false

def field? (width low high : Nat) (text : List Char) : Option Nat :=
  if text.length = width then (Text.ofDigits? text).filter fun n => low ≤ n && n ≤ high
  else none

def monthLength (year month : Nat) : Nat :=
  if month = 2 then
    if year % 4 = 0 ∧ (year % 100 ≠ 0 ∨ year % 400 = 0) then 29 else 28
  else if month = 4 ∨ month = 6 ∨ month = 9 ∨ month = 11 then 30
  else 31

def isDate (text : List Char) : Bool :=
  match text.splitOn '-' with
  | [y, m, d] =>
    match field? 4 0 9999 y, field? 2 1 12 m, field? 2 1 31 d with
    | some y, some m, some d => d ≤ monthLength y m
    | _, _, _ => false
  | _ => false

def isClock (text : List Char) : Bool :=
  match text.splitOn ':' with
  | [h, m] => (field? 2 0 23 h).isSome && (field? 2 0 59 m).isSome
  | _ => false

def isTime (text : List Char) : Bool :=
  let second := text.drop 6
  isClock (text.take 5) && text[5]? == some ':' && (field? 2 0 60 (second.take 2)).isSome &&
    match second.drop 2 with
    | [] => true
    | mark :: fraction => mark == '.' && !fraction.isEmpty && fraction.all Char.isDigit

def isOffsetTime (text : List Char) : Bool :=
  let isMark (c : Char) := "zZ+-".toList.contains c
  isTime (text.takeWhile (!isMark ·)) &&
    match text.dropWhile (!isMark ·) with
    | [] => true
    | mark :: rest => if mark == 'z' || mark == 'Z' then rest.isEmpty else isClock rest

def isDateTime (text : List Char) : Bool :=
  isDate (text.take 10) && (text[10]? == some 'T' || text[10]? == some 't') &&
    isOffsetTime (text.drop 11)

def word? (text : List Char) : Option Toml :=
  if text == "true".toList then some (.boolean true)
  else if text == "false".toList then some (.boolean false)
  else if isDate text || isTime text || isDateTime text then some .moment
  else
    match integer? text with
    | some n => some (.integer n)
    | none => if isFloat text then some .float else none

def unquoted? (text : List Char) : Option (Toml × List Char) :=
  let word := text.takeWhile isWordChar
  let rest := text.dropWhile isWordChar
  match rest with
  | ' ' :: more =>
    if isDate word && isOffsetTime (more.takeWhile isWordChar) then
      some (.moment, more.dropWhile isWordChar)
    else (word? word).map (·, rest)
  | _ => (word? word).map (·, rest)

end PanelProbe.Toml
