import PanelProbe.Text.Cut

/-!
The coding of host name labels that are not ASCII. The ASCII characters come first; the others
follow as differences in ascending order of code point, each a number of variable length in base 36
whose digit thresholds adapt to the differences seen so far.
-/

set_option autoImplicit false

namespace PanelProbe.Punycode

def digit (d : Nat) : Char :=
  if d < 26 then Char.ofNat ('a'.toNat + d) else Char.ofNat ('0'.toNat + d - 26)

def value? (c : Char) : Option Nat :=
  if 'a' ≤ c ∧ c ≤ 'z' then some (c.toNat - 'a'.toNat)
  else if 'A' ≤ c ∧ c ≤ 'Z' then some (c.toNat - 'A'.toNat)
  else if c.isDigit then some (c.toNat - '0'.toNat + 26)
  else none

/-- A digit below the threshold of its position ends the number. -/
def threshold (bias position : Nat) : Nat :=
  if position ≤ bias then 1 else if bias + 26 ≤ position then 26 else position - bias

private theorem threshold_pos (bias position : Nat) : 0 < threshold bias position := by
  unfold threshold
  split
  · omega
  · split <;> omega

def settle (delta position : Nat) : Nat × Nat :=
  if 455 < delta then settle (delta / 35) (position + 36) else (delta, position)
termination_by delta

def adapt (delta count : Nat) (first : Bool) : Nat :=
  let scaled := if first then delta / 700 else delta / 2
  let (rest, position) := settle (scaled + scaled / count) 0
  position + 36 * rest / (rest + 38)

def number (bias position q : Nat) : List Char :=
  let t := threshold bias position
  if q < t then [digit q]
  else digit (t + (q - t) % (36 - t)) :: number bias (position + 36) ((q - t) / (36 - t))
termination_by q
decreasing_by
  have := threshold_pos bias position
  have := Nat.div_le_self (q - threshold bias position) (36 - threshold bias position)
  omega

/-- What the coder keeps: the next code point and difference, the bias, the number of characters
placed, whether nothing was written yet, and the digits in reverse. -/
structure Coder where
  next : Nat
  delta : Nat
  bias : Nat
  placed : Nat
  first : Bool
  written : List Char

def Coder.pass (code : Nat) (text : List Char) (k : Coder) : Coder :=
  let begun := { k with next := code, delta := k.delta + (code - k.next) * (k.placed + 1) }
  let ended := text.foldl (fun k c =>
    if c.toNat < code then { k with delta := k.delta + 1 }
    else if c.toNat = code then
      { k with
        written := (number k.bias 36 k.delta).reverse ++ k.written
        bias := adapt k.delta (k.placed + 1) k.first
        delta := 0, placed := k.placed + 1, first := false }
    else k) begun
  { ended with next := code + 1, delta := ended.delta + 1 }

def encode (text : List Char) : List Char :=
  let basic := text.filter (·.toNat < 0x80)
  let codes := ((text.map Char.toNat).filter (0x80 ≤ ·)).eraseDups.mergeSort
  let begun : Coder := ⟨0x80, 0, 72, basic.length, true, []⟩
  let k := codes.foldl (fun k code => k.pass code text) begun
  (if basic.isEmpty then [] else basic ++ ['-']) ++ k.written.reverse

/-- What the reader of digits keeps: the number begun, the weight and position of its next digit,
and the code point, index, bias and characters reached. -/
structure Reader where
  sum : Nat := 0
  weight : Nat := 1
  position : Nat := 36
  code : Nat := 0x80
  index : Nat := 0
  bias : Nat := 72
  placed : List Char

def bound : Nat := Nat.pow 2 32

def insertAt (index : Nat) (c : Char) (text : List Char) : List Char :=
  text.take index ++ c :: text.drop index

def Reader.read (k : Reader) (c : Char) : Option Reader := do
  let d ← value? c
  let t := threshold k.bias k.position
  let sum := k.sum + d * k.weight
  if t ≤ d then
    let weight := k.weight * (36 - t)
    if weight < bound then some { k with sum, weight, position := k.position + 36 } else none
  else
    let count := k.placed.length + 1
    let code := k.code + (k.index + sum) / count
    let index := (k.index + sum) % count
    if code.isValidChar then
      some {
        code, index := index + 1, bias := adapt sum count (k.placed.all (·.toNat < 0x80))
        placed := insertAt index (Char.ofNat code) k.placed }
    else none

/-- Reads a coded label back. A hyphen alone in front is not read. -/
def decode? (text : List Char) : Option (List Char) :=
  let (front, digits) := Text.cutLast '-' text
  if front == some [] then none
  else
    let basic := front.getD []
    if basic.any (0x80 ≤ ·.toNat) then none
    else match digits.foldlM Reader.read { placed := basic } with
    | some k => if k.position = 36 then some k.placed else none
    | none => none

end PanelProbe.Punycode
