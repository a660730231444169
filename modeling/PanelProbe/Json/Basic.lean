import PanelProbe.Binary64.Basic

/-!
JSON values. An object is the list of its members in the order in which they are written; reading
a text gives each key once, in the order of the keys.
-/

set_option autoImplicit false

namespace PanelProbe

/-- A number is an integer that fits a signed or an unsigned 64-bit word, or a double. -/
inductive Number
  | integer (value : Int)
  | real (value : Binary64)
  deriving DecidableEq, Repr

inductive Json
  | null
  | bool (value : Bool)
  | number (value : Number)
  | string (value : String)
  | array (items : List Json)
  | object (members : List (String × Json))
  deriving Repr

namespace Json

abbrev Members := List (String × Json)

/-- Puts a member into members sorted by key; a member with the same key gives way. -/
def Members.insert (key : String) (value : Json) : Members → Members
  | [] => [(key, value)]
  | (k, v) :: rest =>
    if key < k then (key, value) :: (k, v) :: rest
    else if key == k then (key, value) :: rest
    else (k, v) :: Members.insert key value rest

/-- The members sorted by key, the last of equal keys kept. -/
def Members.ofList (pairs : List (String × Json)) : Members :=
  pairs.foldl (fun members p => Members.insert p.1 p.2 members) []

def ofMembers (pairs : List (String × Json)) : Json := .object (Members.ofList pairs)

def int (value : Int) : Json := .number (.integer value)

def text? : Json → Option String
  | .string s => some s
  | _ => none

def isNull : Json → Bool
  | .null => true
  | _ => false

end Json

end PanelProbe
