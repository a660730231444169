import PanelProbe.Text.Mark.Table

/-!
Marks that combine with the character before them.
-/

set_option autoImplicit false

namespace PanelProbe.Text

def isNonspacing (c : Char) : Bool :=
  0x80 ≤ c.toNat && Table.holds nonspacingMarks c.toNat

def isMark (c : Char) : Bool :=
  isNonspacing c || (0x80 ≤ c.toNat && Table.holds spacingMarks c.toNat)

end PanelProbe.Text
