/-!
Well-formed patterns: characters, sets, groups, alternatives, repetitions and escapes, without
anything that looks around or back.
-/

set_option autoImplicit false

namespace PanelProbe.Text

inductive PatternState where
  | start
  | item
  | opened
  | header
  /-- In so many sets; a bracket that would close the innermost one is in it as long as nothing, or
  only the caret that `inverts` it, stands before. -/
  | set (count : Nat) (inverts empty : Bool)
  /-- Behind a backslash, in so many sets. -/
  | escaped (count : Nat)
deriving DecidableEq

def isEscape (c : Char) : Bool :=
  if c.isAlphanum then "dDsSwWpPnrtfvaAzxuU".toList.contains c
  else c.toNat < 0x80 && c != '<' && c != '>'

/-- Reads one character; `depth` groups are open. -/
def PatternState.read (state : PatternState) (depth : Nat) (c : Char) :
    Option (Nat × PatternState) :=
  match state, c with
  | .escaped 0, _ => if isEscape c then some (depth, .item) else none
  | .escaped count, _ => if isEscape c then some (depth, .set count false false) else none
  | .set count inverts true, '^' => some (depth, .set count true !inverts)
  | .set count _ false, ']' =>
    some (depth, if count ≤ 1 then .item else .set (count - 1) false false)
  | .set count _ _, '[' => some (depth, .set (count + 1) false true)
  | .set count _ _, '\\' => some (depth, .escaped count)
  | .set count _ _, _ => some (depth, .set count false false)
  | .header, ':' | .header, '>' => some (depth, .start)
  | .header, ')' => some (depth - 1, .start)
  | .header, _ =>
    if c.isAlphanum || "<-_".toList.contains c then some (depth, .header) else none
  | .opened, '?' => some (depth, .header)
  | _, '\\' => some (depth, .escaped 0)
  | _, '(' => some (depth + 1, .opened)
  | _, ')' => if depth = 0 then none else some (depth - 1, .item)
  | _, '[' => some (depth, .set 1 false true)
  | _, '|' => some (depth, .start)
  | .item, '*' | .item, '+' | .item, '?' => some (depth, .item)
  | _, '*' | _, '+' | _, '?' | _, '\x7b' => none
  | _, _ => some (depth, .item)

def isPattern (text : List Char) : Bool :=
  match text.foldlM (fun (depth, state) c => state.read depth c) (0, PatternState.start) with
  | some (0, .start) | some (0, .item) => true
  | _ => false

end PanelProbe.Text
