import PanelProbe.Json.Number
import PanelProbe.Percent

/-!
Pairs of names and values in a query: spaces become plus signs, and every byte that is no letter,
digit or one of four marks is percent-encoded. A JSON payload stands for such pairs if it is an
object of scalars.
-/

set_option autoImplicit false

namespace PanelProbe.Http.Form

def isKept (c : Char) : Bool :=
  c.isAlphanum || c == '*' || c == '-' || c == '.' || c == '_'

def component (text : String) : List Char :=
  (Percent.bytes text.toList).flatMap fun b =>
    if b == 0x20 then ['+'] else Percent.encodeByte isKept b

def pair (p : String × String) : List Char :=
  component p.1 ++ '=' :: component p.2

/-- Numbers beyond the plain range have no sign in front of a positive exponent. -/
def realLayout : Binary64.Layout :=
  { Number.layout with positiveMark := ['e'] }

def scalar? : Json → Option String
  | .string s => some s
  | .bool b => some (if b then "true" else "false")
  | .number n => some (String.ofList (n.charsWith realLayout))
  | _ => none

/-- The pairs a payload stands for: none for `null` and the empty array, one for each member of an
object of scalars; any other payload is no query. -/
def pairs? : Json → Option (List (String × String))
  | .null | .array [] => some []
  | .object members => members.mapM fun (name, value) => (scalar? value).map (name, ·)
  | _ => none

def append (query : Option (List Char)) (pairs : List (String × String)) : Option (List Char) :=
  let before := match query with
    | none | some [] => []
    | some text => [text]
  match ['&'].intercalate (before ++ pairs.map pair) with
  | [] => none
  | joined => some joined

end PanelProbe.Http.Form
