import PanelProbe.Http.Outcome
import PanelProbe.Http.Request
import PanelProbe.Ledger
import PanelProbe.Log.Event
import PanelProbe.Session

/-!
The state of a run and what it runs against: a server that answers each request, knowing those
before it, or breaks the run off.
-/

set_option autoImplicit false

namespace PanelProbe.Run

inductive Reply
  | outcome (result : Http.Outcome)
  | crash (message : String)

/-- A server replies to a request in view of the requests before it. -/
abbrev Server := List Http.Request → Http.Request → Reply

/-- What stays the same during a run. The clock gives the stamp of the entry with a given number
of entries before it. -/
structure Setting where
  server : Server
  bases : Http.Bases
  verbose : Bool := false
  colored : Bool := false
  clock : Nat → String

/-- What changes during a run: session and ledger, the requests sent so far, and what was printed
and logged. -/
structure State where
  session : Session := {}
  ledger : Ledger := []
  requests : List Http.Request := []
  console : String := ""
  events : List Log.Event := []

namespace State

def log (s : State) (event : Log.Event) : State :=
  { s with events := s.events ++ [event] }

def record (setting : Setting) (name : String) (status : Status) (details : String)
    (s : State) : State :=
  let entry : Entry := ⟨name, status, details, setting.clock s.ledger.length⟩
  { s with
    ledger := s.ledger ++ [entry]
    console := s.console ++ Console.echo setting.colored setting.verbose entry }

end State

def sending (request : Http.Request) : Log.Event where
  level := .debug
  speaker := .executor
  message := "sending request"
  fields := [("method", request.method.name), ("url", request.url)]

def received : Http.Outcome → Log.Event
  | .response status _ =>
    { level := .debug, speaker := .executor, message := "received response"
      fields := [("status", toString status)] }
  | .failure cause =>
    { level := .debug, speaker := .executor, message := "transport failure"
      fields := [("cause", cause)] }

/-- Sends a call with the token that is held; the request counts as sent whatever the reply. -/
def send (setting : Setting) (call : Http.Call) (s : State) : Reply × State :=
  let request := call.resolve setting.bases s.session.access
  let reply := setting.server s.requests request
  let s := { s.log (sending request) with requests := s.requests ++ [request] }
  match reply with
  | .outcome result => (reply, s.log (received result))
  | .crash _ => (reply, s)

/-- Where an activity has led: the state, and the message of the crash that ended it early. -/
structure Progress where
  state : State
  crash : Option String := none

end PanelProbe.Run
