import PanelProbe.Http.Request
import PanelProbe.Json.Address
import PanelProbe.Session

/-!
Scenarios as data: steps with the request they make, the status they expect and what they keep of
the reply, grouped into phases that may need identifiers to run at all.
-/

set_option autoImplicit false

namespace PanelProbe

inductive Payload
  | none
  | body (value : Json)
  | refreshToken

inductive Capture
  | nothing
  | tokens
  | accessToken
  | createdId (kind : ResourceKind)
  | firstListedId (kind : ResourceKind)
  deriving DecidableEq, Repr

namespace Capture

def accessAddresses : List String := ["access_token", "data.access_token"]

def refreshAddresses : List String := ["refresh_token", "data.refresh_token"]

def createdAddresses : List String := ["data.id", "id"]

def firstListedAddress : String := "data.0.id"

/-- The session after a body with this JSON value, or nothing when the body lacks what is to be
kept. An access token is required and a refresh token optional; an empty listing is fine. -/
def keep? (capture : Capture) (body : Json) (s : Session) : Option Session :=
  match capture with
  | .nothing => some s
  | .tokens | .accessToken =>
    (body.firstText? accessAddresses).map fun access =>
      match body.firstText? refreshAddresses with
      | some refresh => { s with access := some access, refresh := some refresh }
      | none => { s with access := some access }
  | .createdId kind =>
    ((body.firstValue? createdAddresses).bind ResourceId.ofJson?).map fun id =>
      s.withId kind (some id)
  | .firstListedId kind =>
    match (body.at? firstListedAddress).bind ResourceId.ofJson? with
    | some id => some (s.withId kind (some id))
    | none => some s

def name : Capture → String
  | .nothing => "Nothing"
  | .tokens => "Tokens"
  | .accessToken => "AccessToken"
  | .createdId kind => "CreatedId(" ++ kind.title ++ ")"
  | .firstListedId kind => "FirstListedId(" ++ kind.title ++ ")"

end Capture

/-- One request with the status it should get. The path and the detail of success may mention
identifiers by their placeholders. -/
structure Step where
  name : String
  method : Http.Method
  path : String
  expect : Nat := 200
  scope : Http.Scope := .api
  payload : Payload := .none
  authorized : Bool := true
  capture : Capture := .nothing
  detail : String := "Status: " ++ toString expect

def Step.required (step : Step) : List ResourceKind :=
  ResourceKind.all.filter fun kind =>
    Text.occursIn kind.placeholder.toList step.path.toList ||
      Text.occursIn kind.placeholder.toList step.detail.toList

/-- A group of steps, left out as a whole when an identifier it is gated on is not held. -/
structure Phase where
  name : String
  steps : List Step
  gate : List ResourceKind := []

def Phase.missing? (phase : Phase) (s : Session) : Option ResourceKind :=
  phase.gate.find? fun kind => (s.id? kind).isNone

def Step.missing? (step : Step) (s : Session) : Option ResourceKind :=
  step.required.find? fun kind => (s.id? kind).isNone

def refreshBody (token : String) : Json :=
  .object [("refresh_token", .string token)]

end PanelProbe
