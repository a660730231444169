/-!
Numerals: the decimal text of a natural number or an integer, and the reading of digits in any
base up to sixteen and of unsigned 64-bit words.
-/

set_option autoImplicit false

namespace PanelProbe.Text

def digits (n : Nat) : List Char :=
  Nat.toDigits 10 n

def integer (i : Int) : List Char :=
  if i < 0 then '-' :: digits i.natAbs else digits i.natAbs

/-- The digits padded with zeros on the left to at least `width` characters. -/
def padded (width n : Nat) : List Char :=
  List.replicate (width - (digits n).length) '0' ++ digits n

def ofDigits? (text : List Char) : Option Nat :=
  if !text.isEmpty && text.all Char.isDigit then some (Nat.ofDigitChars 10 text 0) else none

def hexValue? (c : Char) : Option Nat :=
  if c.isDigit then some (c.toNat - '0'.toNat)
  else if 'A' ≤ c ∧ c ≤ 'F' then some (c.toNat - 'A'.toNat + 10)
  else if 'a' ≤ c ∧ c ≤ 'f' then some (c.toNat - 'a'.toNat + 10)
  else none

def isDigitIn (base : Nat) (c : Char) : Bool :=
  match hexValue? c with
  | some d => d < base
  | none => false

def inBase? (base : Nat) (text : List Char) : Option Nat :=
  if text.all (isDigitIn base) then
    some (text.foldl (fun n c => n * base + (hexValue? c).getD 0) 0)
  else none

def wordBound : Nat := Nat.pow 2 64

/-- Reads an unsigned 64-bit word: digits with an optional plus sign in front, leading zeros
allowed, nothing else around them. -/
def word? (text : List Char) : Option Nat :=
  let run := match text with
    | '+' :: rest => rest
    | other => other
  (ofDigits? run).filter (· < wordBound)

end PanelProbe.Text
