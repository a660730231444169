import PanelProbe.Json.Basic
import PanelProbe.Text.Numeral

/-!
Dotted addresses into a value: each segment is a key of an object or an index into an array.
-/

set_option autoImplicit false

namespace PanelProbe.Json

def segments (address : String) : List (List Char) :=
  address.toList.splitOn '.'

/-- One step down: a key in an object, an index in an array, nothing below a scalar. -/
def child? (v : Json) (segment : List Char) : Option Json :=
  match v with
  | .object members => members.lookup (String.ofList segment)
  | .array items => (Text.word? segment).bind fun i => items[i]?
  | _ => none

def at? (v : Json) (address : String) : Option Json :=
  (segments address).foldlM child? v

/-- The first nonempty string among the values at some addresses. -/
def firstText? (v : Json) (addresses : List String) : Option String :=
  (addresses.filterMap fun a => (v.at? a).bind text?).find? fun s => !s.isEmpty

/-- The first value other than `null` at some addresses. -/
def firstValue? (v : Json) (addresses : List String) : Option Json :=
  (addresses.filterMap v.at?).find? fun found => !found.isNull

end PanelProbe.Json
