import PanelProbe.Text.Composition
import PanelProbe.Text.Direction
import PanelProbe.Text.Folding
import PanelProbe.Text.Joining
import PanelProbe.Url.Punycode

/-!
The labels of host names. A label beyond ASCII is written in its ASCII coding; one that is given in
that coding must stand for a label that could have been given itself.
-/

set_option autoImplicit false

namespace PanelProbe.Url

/-- ASCII characters that end or structure a URL, and controls. -/
def isForbidden (c : Char) : Bool :=
  c.toNat ≤ 0x20 || c.toNat == 0x7F || "#%/:<>?@[\\]^|".toList.contains c

def isAscii (text : List Char) : Bool :=
  text.all (·.toNat < 0x80)

def codedMark : List Char :=
  ['x', 'n', '-', '-']

def longestLabel : Nat := 1000

def longestCoding : Nat := 2000

def joinsPast (joins : Char → Bool) (text : List Char) : Bool :=
  ((text.dropWhile fun c => !joins c && Text.isTransparent c).head?.map joins).getD false

/-- The last character is a mark that silences the vowel of its letter. -/
def isSilenced (before : List Char) : Bool :=
  (before.head?.map fun c => Text.markClass c.toNat == 9).getD false

/-- Joiners stand behind a mark that silences the vowel, and the one that separates also between
letters that would join without it; `before` are the characters before, the last in front. -/
def joinersFit (before : List Char) : List Char → Bool
  | [] => true
  | c :: rest =>
    (c != '\u200c' && c != '\u200d' || isSilenced before ||
        c == '\u200c' && joinsPast Text.joinsAfter before && joinsPast Text.joinsBefore rest) &&
      joinersFit (c :: before) rest

/-- A folded label can be part of a name: no character is forbidden, and beyond ASCII it begins
with no mark, its joiners fit and it is not too long. -/
def isLabel (text : List Char) : Bool :=
  text.all (!isForbidden ·) &&
    (isAscii text ||
      (!(text.head?.map Text.isMark).getD false && joinersFit [] text &&
        text.length ≤ longestLabel))

def isFolded (text : List Char) : Bool :=
  text.all (fun c => Text.fold? c == some [c]) && Text.composed text == text

structure Label where
  text : List Char
  ascii : List Char
deriving DecidableEq

def Label.ofCoding? (digits : List Char) : Option Label :=
  if digits.isEmpty || digits.getLast? == some '-' || longestCoding < digits.length then none
  else do
    let text ← Punycode.decode? digits
    if isFolded text && isLabel text then some ⟨text, codedMark ++ digits⟩ else none

def Label.ofFolded? (text : List Char) : Option Label :=
  if codedMark.isPrefixOf text then Label.ofCoding? (text.drop codedMark.length)
  else if !isLabel text then none
  else if isAscii text then some ⟨text, text⟩
  else some ⟨text, codedMark ++ Punycode.encode text⟩

/-- The characters of a label run in the direction of its first one. What runs from the right holds
no letter from the left and digits of one kind only, and neither ends in a sign. -/
def runsOneWay (directions : List Text.Direction) : Bool :=
  let body := (directions.reverse.dropWhile (· == .mark)).reverse
  let last := body.getLast?
  match directions.head? with
  | none => true
  | some .left =>
    body.all (fun d => d != .right && d != .arabicDigit) &&
      (last == some .left || last == some .digit)
  | some .right =>
    !body.contains .left && !(body.contains .digit && body.contains .arabicDigit) &&
      last != some .neutral
  | _ => false

/-- Once one label of a name runs from the right, each must run in one direction. -/
def agreeInDirection (labels : List Label) : Bool :=
  let directions := labels.map (·.text.map Text.direction)
  !directions.any (·.any fun d => d == .right || d == .arabicDigit) || directions.all runsOneWay

end PanelProbe.Url
