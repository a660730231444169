import PanelProbe.Json.Parser
import PanelProbe.Text.Blank

/-!
What comes of a request: a response with its status and body, or a failure to get one.
-/

set_option autoImplicit false

namespace PanelProbe.Http

inductive Body
  | json (value : Json)
  | raw (text : String)
  | empty

/-- A blank text is an empty body, a JSON text its value, any other text itself. -/
def Body.parse (text : String) : Body :=
  if (Text.trim text.toList).isEmpty then .empty
  else match Json.parse? text with
    | some value => .json value
    | none => .raw text

inductive Outcome
  | response (status : Nat) (body : Body)
  | failure (cause : String)

def Outcome.json? : Outcome → Option Json
  | .response _ (.json value) => some value
  | _ => none

end PanelProbe.Http
