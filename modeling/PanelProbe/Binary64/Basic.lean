/-!
Finite IEEE 754 double-precision numbers as exact dyadic fractions. Every operation computes the
exact result over the natural numbers and rounds it once, to nearest with ties to even.
-/

set_option autoImplicit false

namespace PanelProbe

/-- A finite double: the sign, and the magnitude `mantissa * 2 ^ exponent`. -/
structure Binary64 where
  negative : Bool
  mantissa : Nat
  exponent : Int
  deriving DecidableEq, Repr

namespace Binary64

def leastExponent : Int := -1074

def greatestExponent : Int := 971

def zero : Binary64 := ⟨false, 0, leastExponent⟩

/-- The quotient rounded to the nearest natural number, a tie to the even one. -/
def roundDiv (num den : Nat) : Nat :=
  let quotient := num / den
  let rest := num % den
  if den < 2 * rest || (2 * rest == den && quotient % 2 == 1) then quotient + 1 else quotient

def scaled (num den : Nat) (exponent : Int) : Nat × Nat :=
  if exponent < 0 then (num * Nat.pow 2 exponent.natAbs, den)
  else (num, den * Nat.pow 2 exponent.natAbs)

/-- The exponent at which the integer part of a positive fraction has 53 bits, or the least one. -/
def exponentOf (num den : Nat) : Int :=
  let guess : Int := (num.log2 : Int) - (den.log2 : Int) - 53
  let (n, d) := scaled num den guess
  max leastExponent (if n / d < Nat.pow 2 53 then guess else guess + 1)

/-- The double nearest to `num / den`; nothing when it is too large to be finite. -/
def ofRatio (negative : Bool) (num den : Nat) : Option Binary64 :=
  if num = 0 then some ⟨negative, 0, leastExponent⟩
  else
    let exponent := exponentOf num den
    let (n, d) := scaled num den exponent
    let mantissa := roundDiv n d
    let (mantissa, exponent) :=
      if mantissa = Nat.pow 2 53 then (Nat.pow 2 52, exponent + 1) else (mantissa, exponent)
    if greatestExponent < exponent then none else some ⟨negative, mantissa, exponent⟩

def ofNat? (n : Nat) : Option Binary64 := ofRatio false n 1

def numerator (x : Binary64) : Nat :=
  if x.exponent < 0 then x.mantissa else x.mantissa * Nat.pow 2 x.exponent.natAbs

def denominator (x : Binary64) : Nat :=
  if x.exponent < 0 then Nat.pow 2 x.exponent.natAbs else 1

def isZero (x : Binary64) : Bool := x.mantissa == 0

def neg (x : Binary64) : Binary64 := { x with negative := !x.negative }

def mul? (x y : Binary64) : Option Binary64 :=
  ofRatio (x.negative != y.negative) (x.numerator * y.numerator) (x.denominator * y.denominator)

def div? (x y : Binary64) : Option Binary64 :=
  ofRatio (x.negative != y.negative) (x.numerator * y.denominator) (x.denominator * y.numerator)

def addMagnitudes? (x y : Binary64) : Option Binary64 :=
  ofRatio false (x.numerator * y.denominator + y.numerator * x.denominator)
    (x.denominator * y.denominator)

end Binary64

end PanelProbe
