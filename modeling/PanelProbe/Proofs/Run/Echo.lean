import PanelProbe.Proofs.Run.View
import PanelProbe.Run.Basic

/-!
What a run prints: the echoes of the rows that it records, in their order, and nothing else.
-/

set_option autoImplicit false

namespace PanelProbe

/-- An entry without the time of its recording. -/
def Entry.row (e : Entry) : Row :=
  ⟨e.name, e.status, e.details⟩

namespace Run

/-- What recording some rows prints; the time of recording is not shown. -/
def echoes (setting : Setting) (rows : List Row) : String :=
  String.join (rows.map fun row => Console.echo setting.colored setting.verbose (row.entry ""))

theorem map_row_stamped (clock : Nat → String) (before : Nat) (rows : List Row) :
    (stamped clock before rows).map Entry.row = rows := by
  induction rows generalizing before with
  | nil => rfl
  | cons row rest ih => simp only [stamped, List.map_cons, ih, Entry.row, Row.entry]

def Echoed (setting : Setting) (s : State) : Prop :=
  s.console = echoes setting (s.ledger.map Entry.row)

namespace Echoed

variable {setting : Setting} {s : State}

theorem log (h : Echoed setting s) (event : Log.Event) : Echoed setting (s.log event) := h

theorem withSession (h : Echoed setting s) (session : Session) :
    Echoed setting { s with session := session } := h

theorem record (h : Echoed setting s) (name : String) (status : Status) (details : String) :
    Echoed setting (s.record setting name status details) := by
  have printed : s.console = echoes setting (s.ledger.map Entry.row) := h
  have one : echoes setting [⟨name, status, details⟩] = Console.echo setting.colored
      setting.verbose ⟨name, status, details, setting.clock s.ledger.length⟩ := by
    simp only [echoes, List.map_cons, List.map_nil, String.join_cons, String.join_nil,
      String.append_empty]
    rfl
  simp only [Echoed, State.record, printed, ← one, echoes, List.map_append, String.join_append]
  rfl

theorem send (h : Echoed setting s) (call : Http.Call) :
    Echoed setting (send setting call s).2 := by
  unfold Run.send
  dsimp only
  split
  · exact h
  · exact h

theorem capture (h : Echoed setting s) (step : Step) (result : Http.Outcome) :
    Echoed setting (capture step result s) := by
  unfold Run.capture
  split
  · exact h
  · split
    · exact h.withSession _
    · exact h.log _

theorem settle (h : Echoed setting s) (step : Step) (result : Http.Outcome) :
    Echoed setting (settle setting step result s) := by
  cases result with
  | response status body =>
    simp only [Run.settle]
    split
    · exact (h.record _ _ _).capture step _
    · exact h.record _ _ _
  | failure cause => exact h.record _ _ _

theorem request (h : Echoed setting s) (step : Step) (payload : Option Json) :
    Echoed setting (request setting step payload s).state := by
  have sent := h.send (callOf step payload s.session)
  unfold Run.request
  generalize Run.send setting (callOf step payload s.session) s = both at sent ⊢
  obtain ⟨reply, after⟩ := both
  cases reply with
  | outcome result => exact sent.settle step result
  | crash message => exact sent

theorem step (h : Echoed setting s) (st : Step) : Echoed setting (step setting st s).state := by
  unfold Run.step
  cases st.missing? s.session with
  | some kind => exact h.record _ _ _
  | none =>
    cases st.payload with
    | none => exact h.request st none
    | body value => exact h.request st (some value)
    | refreshToken =>
      simp only [refreshPayload]
      cases s.session.refresh with
      | none => exact (h.log _).record _ _ _
      | some token => exact h.request st _

theorem followed {p : Progress} {next : State → Progress} (one : Echoed setting p.state)
    (more : ∀ {after : State}, Echoed setting after → Echoed setting (next after).state) :
    Echoed setting (match p with
      | ⟨after, none⟩ => next after
      | crashed => crashed).state := by
  obtain ⟨after, ended⟩ := p
  cases ended with
  | none => exact more one
  | some message => exact one

theorem steps (h : Echoed setting s) (list : List Step) :
    Echoed setting (steps setting list s).state := by
  induction list generalizing s with
  | nil => exact h
  | cons first rest ih => exact (h.step first).followed ih

theorem phase (h : Echoed setting s) (p : Phase) : Echoed setting (phase setting p s).state := by
  unfold Run.phase
  cases p.missing? s.session with
  | some kind => exact h.log _
  | none => exact (h.log _).steps p.steps

theorem phases (h : Echoed setting s) (list : List Phase) :
    Echoed setting (phases setting list s).state := by
  induction list generalizing s with
  | nil => exact h
  | cons first rest ih => exact (h.phase first).followed ih

theorem settleDeletion (h : Echoed setting s) (kind : ResourceKind) (id : ResourceId)
    (result : Http.Outcome) : Echoed setting (settleDeletion setting kind id result s) := by
  cases result with
  | response status body =>
    simp only [Run.settleDeletion]
    split
    · exact h.record _ _ _
    · exact (h.log _).record _ _ _
  | failure cause => exact (h.log _).record _ _ _

theorem delete (h : Echoed setting s) (kind : ResourceKind) :
    Echoed setting (delete setting kind s).state := by
  unfold Run.delete
  cases s.session.id? kind with
  | none => exact h
  | some id =>
    have sent := (h.withSession (s.session.withId kind none)).send (deletion kind id)
    dsimp only
    generalize Run.send setting (deletion kind id)
      { s with session := s.session.withId kind none } = both at sent ⊢
    obtain ⟨reply, after⟩ := both
    cases reply with
    | outcome result => exact sent.settleDeletion kind id result
    | crash message => exact sent

theorem deleteAll (h : Echoed setting s) (kinds : List ResourceKind) :
    Echoed setting (deleteAll setting kinds s).state := by
  induction kinds generalizing s with
  | nil => exact h
  | cons kind rest ih => exact (h.delete kind).followed ih

end Echoed

theorem echoed_run (setting : Setting) (list : List Phase) :
    Echoed setting (run setting list).state := by
  have begun : Echoed setting (start setting) := rfl
  have ended : Echoed setting (phases setting list (start setting)).state := begun.phases list
  unfold run conclude
  dsimp only
  split
  · exact ((ended.log _).log _).deleteAll ResourceKind.all
  · exact (ended.log _).deleteAll ResourceKind.all

end Run

end PanelProbe
