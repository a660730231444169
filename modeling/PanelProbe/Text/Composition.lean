import PanelProbe.Text.Composition.Table

/-!
Canonical composition. Characters are taken apart as far as they go, the marks after a character
are put in the order of their classes, and what then stands together is composed again, so that
equivalent texts become one text. Hangul syllables are taken apart by arithmetic.
-/

set_option autoImplicit false

namespace PanelProbe.Text

def firstComposed : Nat := 0xC0

/-- Code points below this one are no marks and are not composed with what stands before them. -/
def firstMark : Nat := 0x300

def syllableLetters? (code : Nat) : Option (List Nat) :=
  if 0xAC00 ≤ code && code ≤ 0xD7A3 then
    let i := code - 0xAC00
    let lead := 0x1100 + i / (21 * 28)
    let vowel := 0x1161 + i / 28 % 21
    some (if i % 28 = 0 then [lead, vowel] else [lead, vowel, 0x11A7 + i % 28])
  else none

/-- The Hangul syllable of a consonant and a vowel, or of a syllable and its last consonant. -/
def syllable? (a b : Nat) : Option Nat :=
  if 0x1100 ≤ a && a ≤ 0x1112 && 0x1161 ≤ b && b ≤ 0x1175 then
    some (0xAC00 + ((a - 0x1100) * 21 + (b - 0x1161)) * 28)
  else if 0xAC00 ≤ a && a ≤ 0xD7A3 && (a - 0xAC00) % 28 = 0 && 0x11A8 ≤ b && b ≤ 0x11C2 then
    some (a + (b - 0x11A7))
  else none

/-- Takes a character apart in at most `depth` steps; after a step only the first part can be taken
apart further. -/
def partsWithin : Nat → Nat → List Nat
  | 0, code => [code]
  | depth + 1, code =>
    match syllableLetters? code with
    | some letters => letters
    | none =>
      match Table.find? decompositions code with
      | some (first :: rest) => partsWithin depth first ++ rest
      | _ => [code]

/-- The parts of a character. No character takes more than four steps. -/
def parts (code : Nat) : List Nat :=
  if code < firstComposed then [code] else partsWithin 4 code

def markClass (code : Nat) : Nat :=
  if code < firstMark then 0
  else ((markClasses.find? fun (_, ranges) => Table.holds ranges code).map Prod.fst).getD 0

/-- Puts a part before others, behind the marks of lower classes at their front. -/
def place (part : Nat × Nat) : List (Nat × Nat) → List (Nat × Nat)
  | [] => [part]
  | next :: rest =>
    if 0 < next.1 && next.1 < part.1 then next :: place part rest else part :: next :: rest

def partsOf (text : List Char) : List (Nat × Nat) :=
  ((text.flatMap fun c => parts c.toNat).map fun code => (markClass code, code)).foldr place []

def compositions : List (List Nat × Nat) :=
  (decompositions.filter fun e => e.target.length == 2 && !Table.holds uncomposed e.range.first).map
    fun e => (e.target, e.range.first)

def pair? (a b : Nat) : Option Nat :=
  if b < firstMark then none
  else
    match syllable? a b with
    | some code => some code
    | none => (compositions.find? fun e => e.1 == [a, b]).map Prod.snd

/-- Composes what follows `base`; `kept` are the marks between that stay, the last in front. A mark
reaches its base past marks of lower classes only. -/
def composeFrom (base : Nat) (kept : List (Nat × Nat)) : List (Nat × Nat) → List Nat
  | [] => base :: kept.reverse.map Prod.snd
  | (k, code) :: rest =>
    let reaches := kept.head?.all (·.1 < k)
    match if reaches then pair? base code else none with
    | some whole => composeFrom whole kept rest
    | none =>
      if k = 0 then base :: kept.reverse.map Prod.snd ++ composeFrom code [] rest
      else composeFrom base ((k, code) :: kept) rest

/-- Composes; marks without a base stay. -/
def compose : List (Nat × Nat) → List Nat
  | [] => []
  | (k, code) :: rest => if k = 0 then composeFrom code [] rest else code :: compose rest

/-- The composed form of a text. No character before the first mark changes a text without marks. -/
def composed (text : List Char) : List Char :=
  if text.all (·.toNat < firstMark) then text else (compose (partsOf text)).map Char.ofNat

end PanelProbe.Text
