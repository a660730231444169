import Mathlib.Data.List.Basic
import PanelProbe.Run.State

/-!
The part of a state that decides what a run does next, and what logging, recording and sending do
to it and to the ledger.
-/

set_option autoImplicit false

namespace PanelProbe

/-- An entry without the time of its recording. -/
structure Row where
  name : String
  status : Status
  details : String
  deriving DecidableEq, Repr

def Row.entry (row : Row) (stamp : String) : Entry :=
  ⟨row.name, row.status, row.details, stamp⟩

/-- The row for the outcome of a request that should get a response with the status `expect`. -/
def judged (name : String) (expect : Nat) (details : String) : Http.Outcome → Row
  | .response status _ =>
    if status = expect then ⟨name, .pass, details⟩
    else ⟨name, .fail, "Status: " ++ toString status⟩
  | .failure cause => ⟨name, .fail, "No response: " ++ cause⟩

@[simp] theorem name_judged (name : String) (expect : Nat) (details : String)
    (result : Http.Outcome) : (judged name expect details result).name = name := by
  cases result with
  | response status body => by_cases h : status = expect <;> simp [judged, h]
  | failure cause => rfl

theorem judged_pass_iff {name : String} {expect : Nat} {details : String}
    {result : Http.Outcome} :
    (judged name expect details result).status = .pass ↔
      ∃ body, result = .response expect body := by
  cases result with
  | response status body => by_cases h : status = expect <;> simp [judged, h]
  | failure cause => simp [judged]

namespace Run

/-- The entries of rows recorded one after the other behind `before` others. -/
def stamped (clock : Nat → String) : Nat → List Row → Ledger
  | _, [] => []
  | before, row :: rest => row.entry (clock before) :: stamped clock (before + 1) rest

@[simp] theorem length_stamped (clock : Nat → String) (before : Nat) (rows : List Row) :
    (stamped clock before rows).length = rows.length := by
  induction rows generalizing before with
  | nil => rfl
  | cons row rest ih => simp only [stamped, List.length_cons, ih]

theorem stamped_append (clock : Nat → String) (before : Nat) (first second : List Row) :
    stamped clock before (first ++ second) =
      stamped clock before first ++ stamped clock (before + first.length) second := by
  induction first generalizing before with
  | nil => rfl
  | cons row rest ih =>
    simp only [List.cons_append, stamped, List.length_cons, ih]
    rw [Nat.add_right_comm, Nat.add_assoc]

/-- What the next step of a run meets: the session, and the requests sent before. -/
structure View where
  session : Session := {}
  requests : List Http.Request := []

def State.view (s : State) : View := ⟨s.session, s.requests⟩

namespace State

@[simp] theorem view_log (s : State) (event : Log.Event) : (s.log event).view = s.view := rfl

@[simp] theorem view_record (setting : Setting) (name : String) (status : Status)
    (details : String) (s : State) : (s.record setting name status details).view = s.view := rfl

theorem ledger_record (setting : Setting) (name : String) (status : Status) (details : String)
    (s : State) : (s.record setting name status details).ledger =
      s.ledger ++ stamped setting.clock s.ledger.length [⟨name, status, details⟩] := rfl

end State

def Reply.crash? : Reply → Option String
  | .outcome _ => none
  | .crash message => some message

def Server.Answers (server : Server)
    (answer : List Http.Request → Http.Request → Http.Outcome) : Prop :=
  ∀ earlier request, server earlier request = .outcome (answer earlier request)

def Setting.answering (setting : Setting)
    (answer : List Http.Request → Http.Request → Http.Outcome) : Setting :=
  { setting with server := fun earlier request => .outcome (answer earlier request) }

theorem answers_answering (setting : Setting)
    (answer : List Http.Request → Http.Request → Http.Outcome) :
    (setting.answering answer).server.Answers answer :=
  fun _ _ => rfl

theorem reply_send (setting : Setting) (call : Http.Call) (s : State) :
    (send setting call s).1 =
      setting.server s.requests (call.resolve setting.bases s.session.access) := by
  unfold send
  dsimp only
  split <;> simp_all

theorem view_send (setting : Setting) (call : Http.Call) (s : State) :
    (send setting call s).2.view =
      ⟨s.session, s.requests ++ [call.resolve setting.bases s.session.access]⟩ := by
  unfold send
  dsimp only
  split <;> rfl

@[simp] theorem ledger_send (setting : Setting) (call : Http.Call) (s : State) :
    (send setting call s).2.ledger = s.ledger := by
  unfold send
  dsimp only
  split <;> rfl

end Run

end PanelProbe
