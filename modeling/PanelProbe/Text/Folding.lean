import PanelProbe.Text.Folding.Table

/-!
Folding of the characters of host names: letters go to lower case and variants of a character to
its plain spelling, so that names that differ only in these are one name. Some characters vanish,
and some are in no name.
-/

set_option autoImplicit false

namespace PanelProbe.Text

/-- What a character folds to; nothing when no name holds it. -/
def fold? (c : Char) : Option (List Char) :=
  if c.toNat < 0x80 then some [c.toLower]
  else
    match Table.find? spellings c.toNat with
    | some spelling => some (spelling.map Char.ofNat)
    | none => if Table.holds unfolded c.toNat then none else some [c]

theorem fold?_ascii (c : Char) (h : c.toNat < 0x80) : fold? c = some [c.toLower] := by
  simp [fold?, h]

end PanelProbe.Text
