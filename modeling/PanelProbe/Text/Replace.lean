/-!
Occurrences of a pattern in a text, and their replacement from left to right.
-/

set_option autoImplicit false

namespace PanelProbe.Text

def occursIn (pattern : List Char) : List Char → Bool
  | [] => pattern.isEmpty
  | c :: rest => pattern.isPrefixOf (c :: rest) || occursIn pattern rest

/-- Replaces the occurrences met from left to right; `skip` characters still belong to the
occurrence that was replaced last. -/
def replaceFrom (pattern value : List Char) : Nat → List Char → List Char
  | _, [] => []
  | skip + 1, _ :: rest => replaceFrom pattern value skip rest
  | 0, c :: rest =>
    if pattern.isPrefixOf (c :: rest) then
      value ++ replaceFrom pattern value (pattern.length - 1) rest
    else c :: replaceFrom pattern value 0 rest

/-- Every occurrence of a nonempty pattern becomes `value`; what was inserted is not searched
again. -/
def replace (pattern value text : List Char) : List Char :=
  replaceFrom pattern value 0 text

def endsWith (pattern text : List Char) : Bool :=
  pattern.isSuffixOf text

end PanelProbe.Text
