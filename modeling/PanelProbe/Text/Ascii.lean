/-!
Letter case over the ASCII letters alone; every other character is its own lower and upper case.
-/

set_option autoImplicit false

namespace PanelProbe.Text

def lower (text : String) : String :=
  String.ofList (text.toList.map Char.toLower)

def upper (text : String) : String :=
  String.ofList (text.toList.map Char.toUpper)

def sameIgnoringCase (a b : String) : Bool :=
  lower a == lower b

end PanelProbe.Text
