import PanelProbe.Http.Request

/-!
The headers of the requests that calls become. A call without headers of its own has the content
type, and a token if it is authorized and one is held.
-/

set_option autoImplicit false

namespace PanelProbe.Http

def Request.authorizations (request : Request) : List (String × String) :=
  request.headers.filter fun h => Text.sameIgnoringCase h.1 "Authorization"

def bearer (token : Option String) : List (String × String) :=
  (token.map fun t => ("Authorization", "Bearer " ++ t)).toList

theorem headers_resolve {call : Call} (plain : call.headers = []) (bases : Bases)
    (token : Option String) :
    (call.resolve bases token).headers = ("Content-Type", "application/json") ::
      bearer (if call.authorized then token else none) := by
  have apart : Text.sameIgnoringCase "Content-Type" "Authorization" = false := by decide
  simp only [Call.resolve, Call.writtenHeaders, plain]
  cases call.authorized with
  | false => rfl
  | true =>
    cases token with
    | none => rfl
    | some t => simp [setHeader, apart, bearer]

theorem authorizations_resolve {call : Call} (plain : call.headers = []) (bases : Bases)
    (token : Option String) :
    (call.resolve bases token).authorizations =
      bearer (if call.authorized then token else none) := by
  have apart : Text.sameIgnoringCase "Content-Type" "Authorization" = false := by decide
  have same : Text.sameIgnoringCase "Authorization" "Authorization" = true := by decide
  rw [Request.authorizations, headers_resolve plain, List.filter_cons]
  cases (if call.authorized then token else none) <;> simp [bearer, apart, same]

end PanelProbe.Http
