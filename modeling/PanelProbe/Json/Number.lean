import PanelProbe.Binary64.Decimal
import PanelProbe.Json.Basic

/-!
Number literals of JSON: their grammar, the number each one stands for, and the text of a number.
Integers that fit a 64-bit word stay exact. Any other literal becomes a double through its first
digits that fit a word, scaled by a power of ten.
-/

set_option autoImplicit false

namespace PanelProbe

/-- A literal taken apart: the exponent holds its sign and its digits. -/
structure NumberLiteral where
  negative : Bool
  whole : List Char
  fraction : Option (List Char)
  exponent : Option (Bool × List Char)
  deriving DecidableEq, Repr

namespace NumberLiteral

def digits? (text : List Char) : Option (List Char × List Char) :=
  match text.takeWhile Char.isDigit with
  | [] => none
  | run => some (run, text.dropWhile Char.isDigit)

def exponent? : List Char → Option (Option (Bool × List Char))
  | [] => some none
  | mark :: rest =>
    if mark == 'e' || mark == 'E' then
      let (negative, run) := match rest with
        | '-' :: run => (true, run)
        | '+' :: run => (false, run)
        | run => (false, run)
      match digits? run with
      | some (run, []) => some (some (negative, run))
      | _ => none
    else none

def ofChars? (text : List Char) : Option NumberLiteral := do
  let (negative, text) := match text with
    | '-' :: rest => (true, rest)
    | rest => (false, rest)
  let (whole, rest) ← digits? text
  if whole.length != 1 && whole.head? == some '0' then none
  match rest with
  | '.' :: rest =>
    let (fraction, rest) ← digits? rest
    some ⟨negative, whole, some fraction, ← exponent? rest⟩
  | rest => some ⟨negative, whole, none, ← exponent? rest⟩

/-- Appends digits to a word as long as the result is a word; also gives how many were taken. -/
def absorb : Nat → List Char → Nat × Nat
  | word, [] => (word, 0)
  | word, c :: rest =>
    let next := 10 * word + (c.toNat - '0'.toNat)
    if next < Text.wordBound then
      let (word, taken) := absorb next rest
      (word, taken + 1)
    else (word, 0)

def greatestScale : Nat := 308

/-- Divides by a power of ten in steps. Three steps take any word to zero, so that many suffice. -/
def scaleDown : Nat → Binary64 → Nat → Option Binary64
  | 0, x, _ => some x
  | steps + 1, x, power =>
    if power ≤ greatestScale then do x.div? (← Binary64.ofNat? (Nat.pow 10 power))
    else if x.isZero then some x
    else do
      let x ← x.div? (← Binary64.ofNat? (Nat.pow 10 greatestScale))
      scaleDown steps x (power - greatestScale)

def scale? (word : Nat) (power : Int) : Option Binary64 := do
  let x ← Binary64.ofNat? word
  if x.isZero then some x
  else if power < 0 then scaleDown 4 x power.natAbs
  else if greatestScale < power.natAbs then none
  else x.mul? (← Binary64.ofNat? (Nat.pow 10 power.natAbs))

def exponentValue (literal : NumberLiteral) : Int :=
  match literal.exponent with
  | none => 0
  | some (negative, run) =>
    let value : Int := Nat.ofDigitChars 10 run 0
    if negative then -value else value

/-- The double a literal stands for, through its leading digits; nothing when it overflows. -/
def real? (literal : NumberLiteral) : Option Binary64 := do
  let (word, taken) := absorb 0 literal.whole
  let dropped : Int := literal.whole.length - taken
  let (word, taken) := absorb word (literal.fraction.getD [])
  let x ← scale? word (dropped - taken + literal.exponentValue)
  some (if literal.negative then x.neg else x)

/-- The literal rounds to a finite double. Only a literal of 309 digits before the point is close to
the largest double; shorter ones are below it, longer ones above. -/
def isFinite (literal : NumberLiteral) : Bool :=
  let fraction := literal.fraction.getD []
  let digits := (literal.whole ++ fraction).dropWhile (· == '0')
  let power := literal.exponentValue - fraction.length
  let value := Nat.ofDigitChars 10 digits 0
  let places := digits.length + power
  digits.isEmpty || places < 309 || (places == 309 &&
    (Binary64.ofRatio false (value * Nat.pow 10 power.toNat) (Nat.pow 10 (-power).toNat)).isSome)

/-- The integer a literal without fraction and exponent stands for, when it fits a word; negative
zero does not. -/
def integer? (literal : NumberLiteral) : Option Int :=
  let value := Nat.ofDigitChars 10 literal.whole 0
  if literal.fraction.isSome || literal.exponent.isSome then none
  else if literal.negative then
    if value = 0 ∨ Nat.pow 2 63 < value then none else some (-value)
  else if value < Text.wordBound then some value else none

def number? (literal : NumberLiteral) : Option Number :=
  match literal.integer? with
  | some value => some (.integer value)
  | none => literal.real?.map .real

end NumberLiteral

namespace Number

/-- Doubles stay positional from `1e-5` to below `1e16`; an exponent shows its sign. -/
def layout : Binary64.Layout := ⟨-4, 16, ['e', '+']⟩

def charsWith (doubles : Binary64.Layout) : Number → List Char
  | .integer value => Text.integer value
  | .real value => value.text doubles

def chars (n : Number) : List Char := n.charsWith layout

def ofChars? (text : List Char) : Option Number :=
  (NumberLiteral.ofChars? text).bind NumberLiteral.number?

end Number

end PanelProbe
