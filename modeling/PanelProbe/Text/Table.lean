import PanelProbe.Text.Cut
import PanelProbe.Text.Numeral

/-!
Tables of characters. The words of a table stand between blanks, code points are written in
hexadecimal, and a range is written as its ends with a hyphen between them.
-/

set_option autoImplicit false

namespace PanelProbe.Text.Table

/-- Every `stride`-th code point from `first` to `last`. -/
structure Range where
  first : Nat
  last : Nat
  stride : Nat := 1
deriving DecidableEq

def Range.holds (r : Range) (code : Nat) : Bool :=
  r.first ≤ code && code ≤ r.last && (code - r.first) % r.stride == 0

def holds (ranges : List Range) (code : Nat) : Bool :=
  ranges.any (·.holds code)

/-- The code points of a range and what its first one leads to; the others lead as far beyond. -/
structure Entry where
  range : Range
  target : List Nat
deriving DecidableEq

def find? (entries : List Entry) (code : Nat) : Option (List Nat) :=
  (entries.find? (·.range.holds code)).map fun e => e.target.map (· + (code - e.range.first))

/-! Reading. -/

def words (text : String) : List (List Char) :=
  (text.toList.splitOnP Char.isWhitespace).filter (!·.isEmpty)

def code (word : List Char) : Nat :=
  (inBase? 16 word).getD 0

/-- A code point or `first-last`, with a stride after a slash when it is not one. -/
def range (word : List Char) : Range :=
  let (ends, stride) := cut '/' word
  let (first, last) := cut '-' ends
  { first := code first, last := code (last.getD first), stride := (stride.map code).getD 1 }

def ranges (text : String) : List Range :=
  (words text).map range

def codes (word : List Char) : List Nat :=
  if word.isEmpty then [] else (word.splitOn ',').map code

/-- An entry: the range, a pointer and the code points it leads to. Without range and pointer it is
the entry of the code point `next`. -/
def entry (next : Nat) (word : List Char) : Entry :=
  match cut '>' word with
  | (target, none) => ⟨{ first := next, last := next }, codes target⟩
  | (place, some target) => ⟨range place, codes target⟩

def entriesFrom (next : Nat) : List (List Char) → List Entry
  | [] => []
  | word :: rest =>
    let e := entry next word
    e :: entriesFrom (e.range.last + 1) rest

def entries (text : String) : List Entry :=
  entriesFrom 0 (words text)

end PanelProbe.Text.Table
