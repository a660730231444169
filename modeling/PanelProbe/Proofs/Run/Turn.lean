import PanelProbe.Proofs.Run.View
import PanelProbe.Proofs.Scenario.Capture
import PanelProbe.Run.Step

/-!
Turns: one step together with what it met and what became of it. A turn says which request was
sent, which row was recorded and what the session is afterwards; `makes_step` says that running the
step does just that.
-/

set_option autoImplicit false

namespace PanelProbe.Run

/-- What becomes of a step: it lacks an identifier or a refresh token, or its request is sent. -/
inductive Course
  | lacking (kind : ResourceKind)
  | tokenless
  | sent (request : Http.Request) (reply : Reply)

def lackingRow (step : Step) (kind : ResourceKind) : Row :=
  ⟨step.name, .fail, "no id available for " ++ kind.name⟩

def tokenlessRow (step : Step) : Row :=
  ⟨step.name, .fail, "no refresh token available"⟩

/-- A step, the view it met, and what became of it. -/
structure Turn where
  step : Step
  view : View
  course : Course

namespace Turn

def request? (t : Turn) : Option Http.Request :=
  match t.course with
  | .sent request _ => some request
  | _ => none

def crash? (t : Turn) : Option String :=
  match t.course with
  | .sent _ reply => reply.crash?
  | _ => none

def body? (t : Turn) : Option Json :=
  match t.course with
  | .sent _ (.outcome (.response status (.json body))) =>
    if status = t.step.expect then some body else none
  | _ => none

def stored? (kind : ResourceKind) (t : Turn) : Option ResourceId :=
  t.body?.bind (t.step.capture.id? kind)

def access? (t : Turn) : Option String :=
  t.body?.bind t.step.capture.access?

def refresh? (t : Turn) : Option String :=
  t.body?.bind t.step.capture.refresh?

def after (t : Turn) : Session :=
  match t.body? with
  | some body => t.step.capture.kept body t.view.session
  | none => t.view.session

def next (t : Turn) : View :=
  ⟨t.after, t.view.requests ++ t.request?.toList⟩

def row? (t : Turn) : Option Row :=
  match t.course with
  | .lacking kind => some (lackingRow t.step kind)
  | .tokenless => some (tokenlessRow t.step)
  | .sent _ (.outcome result) =>
    some (judged t.step.name t.step.expect (t.view.session.render t.step.detail) result)
  | .sent _ (.crash _) => none

theorem id?_after (t : Turn) (kind : ResourceKind) :
    t.after.id? kind = (t.stored? kind).or (t.view.session.id? kind) := by
  simp only [after, stored?]
  cases t.body? with
  | none => rfl
  | some body => exact Capture.id?_kept _ _ _ _

theorem access_after (t : Turn) : t.after.access = t.access?.or t.view.session.access := by
  simp only [after, access?]
  cases t.body? with
  | none => rfl
  | some body => exact Capture.access_kept _ _ _

theorem refresh_after (t : Turn) : t.after.refresh = t.refresh?.or t.view.session.refresh := by
  simp only [after, refresh?]
  cases t.body? with
  | none => rfl
  | some body => exact Capture.refresh_kept _ _ _

theorem row?_isSome {t : Turn} (h : t.crash? = none) : ∃ row, t.row? = some row := by
  obtain ⟨step, view, course⟩ := t
  cases course with
  | lacking kind => exact ⟨_, rfl⟩
  | tokenless => exact ⟨_, rfl⟩
  | sent request reply =>
    cases reply with
    | outcome result => exact ⟨_, rfl⟩
    | crash message => cases h

theorem course_of_crash {t : Turn} {message : String} (h : t.crash? = some message) :
    ∃ request, t.course = .sent request (.crash message) := by
  obtain ⟨step, view, course⟩ := t
  cases course with
  | lacking kind => cases h
  | tokenless => cases h
  | sent request reply =>
    cases reply with
    | outcome result => cases h
    | crash text =>
      cases h
      exact ⟨request, rfl⟩

theorem course_of_stored {t : Turn} {kind : ResourceKind} {id : ResourceId}
    (h : t.stored? kind = some id) :
    ∃ request body, t.course = .sent request (.outcome (.response t.step.expect (.json body))) ∧
      t.step.capture.id? kind body = some id := by
  obtain ⟨body, found, stored⟩ := Option.bind_eq_some_iff.1 h
  obtain ⟨step, view, course⟩ := t
  cases course with
  | lacking k => cases found
  | tokenless => cases found
  | sent request reply =>
    simp only [body?] at found
    split at found
    · rename_i status json equal
      obtain ⟨rfl, same⟩ := Option.ite_none_right_eq_some.1 found
      cases equal
      cases same
      exact ⟨request, _, rfl, stored⟩
    · cases found

end Turn

/-- The payload of a step's request; a refresh needs the token that is held. -/
def Payload.given? (s : Session) : Payload → Option (Option Json)
  | .none => some none
  | .body value => some (some value)
  | .refreshToken => s.refresh.map fun token => some (refreshBody token)

def turn (setting : Setting) (step : Step) (v : View) : Turn where
  step := step
  view := v
  course :=
    match step.missing? v.session with
    | some kind => .lacking kind
    | none =>
      match Payload.given? v.session step.payload with
      | none => .tokenless
      | some payload =>
        let request := (callOf step payload v.session).resolve setting.bases v.session.access
        .sent request (setting.server v.requests request)

section Course

variable (setting : Setting) {step : Step} {v : View}

theorem course_lacking {kind : ResourceKind} (missing : step.missing? v.session = some kind) :
    (turn setting step v).course = .lacking kind := by
  simp only [turn, missing]

theorem course_tokenless (missing : step.missing? v.session = none)
    (given : Payload.given? v.session step.payload = none) :
    (turn setting step v).course = .tokenless := by
  simp only [turn, missing, given]

theorem course_sent {payload : Option Json} (missing : step.missing? v.session = none)
    (given : Payload.given? v.session step.payload = some payload) :
    ∃ request, (turn setting step v).course = .sent request (setting.server v.requests request) ∧
      request.method = step.method ∧
      request.url = setting.bases.of step.scope ++ v.session.renderPath step.path := by
  simp only [turn, missing, given]
  exact ⟨_, rfl, rfl, rfl⟩

end Course

theorem given?_eq_none_iff {s : Session} {payload : Payload} :
    Payload.given? s payload = none ↔ payload = .refreshToken ∧ s.refresh = none := by
  cases payload <;> simp [Payload.given?]

theorem sent_turn {setting : Setting} {step : Step} {v : View} {request : Http.Request}
    (h : (turn setting step v).request? = some request) :
    (turn setting step v).course = .sent request (setting.server v.requests request) ∧
      request.method = step.method ∧
      request.url = setting.bases.of step.scope ++ v.session.renderPath step.path := by
  cases missing : step.missing? v.session with
  | some kind =>
    rw [Turn.request?, course_lacking setting missing] at h
    cases h
  | none =>
    cases given : Payload.given? v.session step.payload with
    | none =>
      rw [Turn.request?, course_tokenless setting missing given] at h
      cases h
    | some payload =>
      obtain ⟨asked, course, method, url⟩ := course_sent setting missing given
      rw [Turn.request?, course] at h
      obtain rfl : asked = request := Option.some.inj h
      exact ⟨course, method, url⟩

theorem resolved_turn {setting : Setting} {step : Step} {v : View} {request : Http.Request}
    (h : (turn setting step v).request? = some request) :
    ∃ payload, Payload.given? v.session step.payload = some payload ∧
      request = (callOf step payload v.session).resolve setting.bases v.session.access := by
  cases missing : step.missing? v.session with
  | some kind =>
    rw [Turn.request?, course_lacking setting missing] at h
    cases h
  | none =>
    cases given : Payload.given? v.session step.payload with
    | none =>
      rw [Turn.request?, course_tokenless setting missing given] at h
      cases h
    | some payload =>
      simp only [Turn.request?, turn, missing, given, Option.some.injEq] at h
      exact ⟨payload, rfl, h.symm⟩

theorem crash_turn {setting : Setting} {step : Step} {v : View} {message : String}
    (h : (turn setting step v).crash? = some message) :
    ∃ request, (turn setting step v).request? = some request ∧
      setting.server v.requests request = .crash message := by
  obtain ⟨request, course⟩ := Turn.course_of_crash h
  have sent : (turn setting step v).request? = some request := by
    rw [Turn.request?, course]
  obtain ⟨replied, -, -⟩ := sent_turn sent
  rw [course] at replied
  injection replied with _ reply
  exact ⟨request, sent, reply.symm⟩

def View.through (v : View) (turns : List Turn) : View :=
  turns.foldl (fun _ t => t.next) v

@[simp] theorem View.through_nil (v : View) : v.through [] = v := rfl

@[simp] theorem View.through_cons (v : View) (t : Turn) (rest : List Turn) :
    v.through (t :: rest) = t.next.through rest := rfl

theorem View.through_append (v : View) (first second : List Turn) :
    v.through (first ++ second) = (v.through first).through second :=
  List.foldl_append

/-- An activity that led from a state to a progress amounts to some turns. -/
structure Makes (setting : Setting) (s : State) (turns : List Turn) (p : Progress) : Prop where
  view : p.state.view = s.view.through turns
  ledger : p.state.ledger =
    s.ledger ++ stamped setting.clock s.ledger.length (turns.filterMap Turn.row?)
  crash : p.crash = turns.findSome? Turn.crash?

theorem Makes.nil (setting : Setting) (s : State) : Makes setting s [] ⟨s, none⟩ where
  view := rfl
  ledger := (List.append_nil _).symm
  crash := rfl

theorem Makes.append {setting : Setting} {s : State} {first second : List Turn}
    {p q : Progress} (hp : Makes setting s first p) (done : p.crash = none)
    (hq : Makes setting p.state second q) : Makes setting s (first ++ second) q where
  view := by rw [hq.view, hp.view, View.through_append]
  ledger := by
    rw [hq.ledger, hp.ledger, List.filterMap_append, stamped_append, List.append_assoc,
      List.length_append, length_stamped]
  crash := by
    rw [hq.crash, List.findSome?_append, ← hp.crash, done, Option.none_or]

theorem Makes.of_log {setting : Setting} {s : State} {event : Log.Event} {turns : List Turn}
    {p : Progress} (h : Makes setting (s.log event) turns p) : Makes setting s turns p where
  view := h.view
  ledger := h.ledger
  crash := h.crash

@[simp] theorem ledger_capture (step : Step) (result : Http.Outcome) (s : State) :
    (capture step result s).ledger = s.ledger := by
  unfold capture
  split
  · rfl
  · split <;> rfl

private theorem view_capture (step : Step) (result : Http.Outcome) (s : State) :
    (capture step result s).view =
      ⟨(result.json?.map fun body => step.capture.kept body s.session).getD s.session,
        s.requests⟩ := by
  unfold capture
  split
  · rename_i idle
    rw [idle]
    cases result.json? <;> rfl
  · cases result.json? with
    | none => rfl
    | some body =>
      simp only [Option.bind_some, Option.map_some, Option.getD_some, Capture.kept]
      cases step.capture.keep? body s.session <;> rfl

private theorem ledger_settle (setting : Setting) (step : Step) (result : Http.Outcome)
    (s : State) :
    (settle setting step result s).ledger = s.ledger ++ stamped setting.clock s.ledger.length
      [judged step.name step.expect (s.session.render step.detail) result] := by
  cases result with
  | response status body =>
    by_cases h : status = step.expect
    · simp only [settle, judged, if_pos h, ledger_capture, State.ledger_record]
    · simp only [settle, judged, if_neg h, State.ledger_record]
  | failure cause => rfl

private theorem view_settle (setting : Setting) (step : Step) (result : Http.Outcome) (s : State)
    (request : Http.Request) (requests : List Http.Request) :
    (settle setting step result s).view =
      ⟨Turn.after ⟨step, ⟨s.session, requests⟩, .sent request (.outcome result)⟩, s.requests⟩ := by
  cases result with
  | response status body =>
    by_cases h : status = step.expect
    · simp only [settle, if_pos h, view_capture]
      cases body <;> simp [Turn.after, Turn.body?, Http.Outcome.json?, State.record, h]
    · simp only [settle, if_neg h]
      cases body <;> simp [Turn.after, Turn.body?, State.view, State.record, h]
  | failure cause => rfl

private theorem makes_request (setting : Setting) (step : Step) (payload : Option Json)
    (s : State) :
    let request := (callOf step payload s.session).resolve setting.bases s.session.access
    Makes setting s [⟨step, s.view, .sent request (setting.server s.requests request)⟩]
      (Run.request setting step payload s) := by
  intro request
  have reply := reply_send setting (callOf step payload s.session) s
  have view := view_send setting (callOf step payload s.session) s
  have ledger := ledger_send setting (callOf step payload s.session) s
  unfold Run.request
  -- What sending leaves is known by these three alone; its log is of no interest.
  generalize send setting (callOf step payload s.session) s = both at reply view ledger ⊢
  obtain ⟨result, sent⟩ := both
  change result = setting.server s.requests request at reply
  rw [← reply]
  obtain ⟨session, requests⟩ := View.mk.inj view
  change sent.session = s.session at session
  change sent.requests = s.requests ++ [request] at requests
  change sent.ledger = s.ledger at ledger
  cases result with
  | outcome result =>
    refine ⟨?_, ?_, rfl⟩
    · rw [view_settle setting step result sent request s.requests, session, requests]
      rfl
    · rw [ledger_settle, ledger, session]
      rfl
  | crash message => exact ⟨view, ledger.trans (List.append_nil _).symm, rfl⟩

private theorem makes_record (setting : Setting) (t : Turn) (s : State) (row : Row)
    (view : t.view = s.view) (idle : t.request? = none) (kept : t.after = s.session)
    (recorded : t.row? = some row) (calm : t.crash? = none) :
    Makes setting s [t] ⟨s.record setting row.name row.status row.details, none⟩ where
  view := by simp [Turn.next, kept, idle, view, State.view, State.record]
  ledger := by simp [recorded, State.ledger_record]
  crash := by simp [calm]

theorem makes_step (setting : Setting) (st : Step) (s : State) :
    Makes setting s [turn setting st s.view] (step setting st s) := by
  cases missing : st.missing? s.session with
  | some kind =>
    simp only [step, turn, State.view, missing]
    exact makes_record setting ⟨st, s.view, .lacking kind⟩ s (lackingRow st kind) rfl rfl rfl rfl
      rfl
  | none =>
    simp only [step, turn, State.view, missing]
    cases st.payload with
    | none => exact makes_request setting st none s
    | body value => exact makes_request setting st (some value) s
    | refreshToken =>
      cases token : s.session.refresh with
      | none =>
        simp only [refreshPayload, Payload.given?, token, Option.map_none]
        exact (makes_record setting ⟨st, s.view, .tokenless⟩ (s.log refreshMissing)
          (tokenlessRow st) rfl rfl rfl rfl rfl).of_log
      | some text =>
        simp only [refreshPayload, Payload.given?, token, Option.map_some]
        exact makes_request setting st (some (refreshBody text)) s

end PanelProbe.Run
