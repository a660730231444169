import PanelProbe.Http.Message
import PanelProbe.Http.Outcome

/-!
Networks between client and server: what becomes of each message, and the outcome the client makes
of it.
-/

set_option autoImplicit false

namespace PanelProbe.Http

inductive Delivery
  | refused
  | late
  /-- The connection ended before an answer. -/
  | lost
  /-- The answer's body ended early. -/
  | cut
  | answered (status : Nat) (text : String)

abbrev Network := Message → Delivery

def Network.refusing : Network := fun _ => .refused

def Delivery.outcome (url : Url) : Delivery → Outcome
  | .refused => .failure s!"connection failed: {unsent}"
  | .late => .failure s!"request timed out: {unsent}"
  | .lost => .failure unsent
  | .cut => .failure "failed to read response body: error decoding response body"
  | .answered status text => .response status (.parse text)
where
  unsent : String := s!"error sending request for url ({String.ofList url.text})"

/-- Performs a request; what keeps it from being sent is a failure like any other. -/
def Network.perform (network : Network) (request : Request) : Outcome :=
  match request.message with
  | .ok message => (network message).outcome message.url
  | .error refusal => .failure refusal.message

end PanelProbe.Http
