import PanelProbe.Run.State
import PanelProbe.Scenario.Step

/-!
Running one step: it is left out when an identifier is missing, else its request is sent and one
entry recorded, and on success its capture is applied.
-/

set_option autoImplicit false

namespace PanelProbe.Run

def refreshMissing : Log.Event where
  level := .warn
  speaker := .scenario
  message := "no refresh token held; refresh step cannot be sent"

def captureMissing (step : Step) : Log.Event where
  level := .warn
  speaker := .runner
  message := "response lacks expected field"
  fields := [("step", step.name), ("capture", step.capture.name)]

/-- The body of a request for a new access token, or a warning that no refresh token is held. -/
def refreshPayload (s : State) : Option Json × State :=
  match s.session.refresh with
  | some token => (some (refreshBody token), s)
  | none => (none, s.log refreshMissing)

def callOf (step : Step) (payload : Option Json) (s : Session) : Http.Call where
  method := step.method
  path := s.renderPath step.path
  scope := step.scope
  payload := payload
  authorized := step.authorized

def capture (step : Step) (result : Http.Outcome) (s : State) : State :=
  if step.capture = .nothing then s
  else match result.json?.bind fun body => step.capture.keep? body s.session with
    | some session => { s with session := session }
    | none => s.log (captureMissing step)

def settle (setting : Setting) (step : Step) (result : Http.Outcome) (s : State) : State :=
  match result with
  | .response status _ =>
    if status = step.expect then
      capture step result (s.record setting step.name .pass (s.session.render step.detail))
    else s.record setting step.name .fail ("Status: " ++ toString status)
  | .failure cause => s.record setting step.name .fail ("No response: " ++ cause)

def request (setting : Setting) (step : Step) (payload : Option Json) (s : State) : Progress :=
  match send setting (callOf step payload s.session) s with
  | (.outcome result, s) => ⟨settle setting step result s, none⟩
  | (.crash message, s) => ⟨s, some message⟩

def step (setting : Setting) (step : Step) (s : State) : Progress :=
  match step.missing? s.session with
  | some kind => ⟨s.record setting step.name .fail ("no id available for " ++ kind.name), none⟩
  | none =>
    match step.payload with
    | .none => request setting step none s
    | .body value => request setting step (some value) s
    | .refreshToken =>
      match refreshPayload s with
      | (some body, s) => request setting step (some body) s
      | (none, s) => ⟨s.record setting step.name .fail "no refresh token available", none⟩

def steps (setting : Setting) : List Step → State → Progress
  | [], s => ⟨s, none⟩
  | first :: rest, s =>
    match step setting first s with
    | ⟨s, none⟩ => steps setting rest s
    | crashed => crashed

end PanelProbe.Run
