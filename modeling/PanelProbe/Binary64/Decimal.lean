import PanelProbe.Binary64.Basic
import PanelProbe.Text.Numeral

/-!
Decimal texts of doubles: the fewest digits that read back, laid out positionally or with an
exponent, and a fixed number of places.
-/

set_option autoImplicit false

namespace PanelProbe.Binary64

/-- Digits `d` and a power of ten `k` standing for `d * 10 ^ k`. -/
structure Scientific where
  digits : Nat
  power : Int
  deriving DecidableEq, Repr

def Scientific.compareRatio (s : Scientific) (num den : Nat) : Ordering :=
  if s.power < 0 then compare (s.digits * den) (num * Nat.pow 10 s.power.natAbs)
  else compare (s.digits * Nat.pow 10 s.power.natAbs * den) num

/-- The numerators over `4 * denominator` of the ends of the interval of reals that round to a
positive double: half a unit to either side, a quarter below a power of two. -/
def roundingEnds (x : Binary64) : Nat × Nat :=
  let unit := if x.exponent < 0 then 1 else Nat.pow 2 x.exponent.natAbs
  let below := if x.mantissa == Nat.pow 2 52 && leastExponent < x.exponent then unit else 2 * unit
  (4 * x.numerator - below, 4 * x.numerator + 2 * unit)

/-- A decimal reads back as the double when it lies in its interval; the ends belong to it when
the mantissa is even. -/
def readsBack (x : Binary64) (s : Scientific) : Bool :=
  let (low, high) := roundingEnds x
  let den := 4 * x.denominator
  match s.compareRatio low den, s.compareRatio high den with
  | .gt, .lt => true
  | .eq, _ => x.mantissa % 2 == 0
  | _, .eq => x.mantissa % 2 == 0
  | _, _ => false

/-- The power `p` with `10 ^ p ≤ x < 10 ^ (p + 1)`, for a positive double. -/
def decimalPower (x : Binary64) : Int :=
  let bits : Int := (x.mantissa.log2 : Int) + x.exponent
  let guess := (bits * 30103) / 100000
  if (Scientific.mk 1 (guess + 1)).compareRatio x.numerator x.denominator != .gt then guess + 1
  else if (Scientific.mk 1 guess).compareRatio x.numerator x.denominator == .gt then guess - 1
  else guess

def floorAt (num den : Nat) (power : Int) : Nat :=
  if power < 0 then num * Nat.pow 10 power.natAbs / den
  else num / (den * Nat.pow 10 power.natAbs)

def nearer (x : Binary64) (low high : Scientific) : Scientific :=
  match (Scientific.mk (2 * low.digits + 1) low.power).compareRatio
      (2 * x.numerator) x.denominator with
  | .lt => high
  | .gt => low
  | .eq => if low.digits % 2 == 0 then low else high

/-- The decimal with `count` digits that reads back and is nearest to `x`, if there is one. -/
def withDigits? (x : Binary64) (power : Int) (count : Nat) : Option Scientific :=
  let grid := power - (count : Int) + 1
  let floor := floorAt x.numerator x.denominator grid
  let low : Scientific := ⟨floor, grid⟩
  let high : Scientific := ⟨floor + 1, grid⟩
  match x.readsBack low, x.readsBack high with
  | true, true => some (x.nearer low high)
  | true, false => some low
  | false, true => some high
  | false, false => none

def Scientific.strip : Nat → Scientific → Scientific
  | 0, s => s
  | fuel + 1, s =>
    if s.digits != 0 && s.digits % 10 == 0 then strip fuel ⟨s.digits / 10, s.power + 1⟩ else s

/-- The decimal with the fewest digits that reads back as a positive double, and of those the
nearest; seventeen digits always do. -/
def shortest (x : Binary64) : Scientific :=
  let power := x.decimalPower
  match (List.range 17).findSome? fun n => x.withDigits? power (n + 1) with
  | some s => s.strip 17
  | none => ⟨x.mantissa, x.exponent⟩

/-- How shortest decimals are written: the range of decimal points that stay positional, and the
mark between digits and exponent when it is not negative. -/
structure Layout where
  leastPoint : Int
  greatestPoint : Int
  positiveMark : List Char

private def zeros (count : Int) : List Char := List.replicate count.toNat '0'

/-- Writes digits and power of ten by a layout; the positional form always has a fraction. -/
def Layout.write (layout : Layout) (s : Scientific) : List Char :=
  let text := Text.digits s.digits
  let point : Int := text.length + s.power
  if 0 ≤ s.power && point ≤ layout.greatestPoint then
    text ++ zeros s.power ++ ['.', '0']
  else if 0 < point && point ≤ layout.greatestPoint then
    text.take point.toNat ++ '.' :: text.drop point.toNat
  else if layout.leastPoint ≤ point && point ≤ 0 then
    '0' :: '.' :: zeros (-point) ++ text
  else
    let mark := if point - 1 < 0 then ['e', '-'] else layout.positiveMark
    let mantissa := match text with
      | [d] => [d]
      | d :: rest => d :: '.' :: rest
      | [] => []
    mantissa ++ mark ++ Text.digits (point - 1).natAbs

def text (layout : Layout) (x : Binary64) : List Char :=
  let magnitude := if x.isZero then ['0', '.', '0'] else layout.write x.shortest
  if x.negative then '-' :: magnitude else magnitude

/-- The magnitude with exactly `places` digits after the point, rounded to nearest, a tie to
even. -/
def fixed (places : Nat) (x : Binary64) : List Char :=
  let unit := Nat.pow 10 places
  let scaled := roundDiv (x.numerator * unit) x.denominator
  let whole := Text.digits (scaled / unit)
  let magnitude :=
    if places = 0 then whole else whole ++ '.' :: Text.padded places (scaled % unit)
  if x.negative then '-' :: magnitude else magnitude

end PanelProbe.Binary64
