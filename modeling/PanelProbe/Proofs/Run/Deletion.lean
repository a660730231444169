import PanelProbe.Proofs.Http.Headers
import PanelProbe.Proofs.Run.View
import PanelProbe.Proofs.Session.Slot
import PanelProbe.Run.Cleanup

/-!
Deletions one after the other: each held resource is let go and its deletion sent, whatever came of
the deletions before, until a reply breaks them off. `removes_deleteAll` says which requests are
sent, which rows are recorded and what is still held afterwards.
-/

set_option autoImplicit false

namespace PanelProbe.Run

abbrev Target := ResourceKind × ResourceId

def deletionRequest (bases : Http.Bases) (access : Option String) (target : Target) :
    Http.Request where
  method := .delete
  url := bases.api ++ (target.1.collection ++ "/" ++ target.2.segment)
  headers := ("Content-Type", "application/json") ::
    (access.map fun token => ("Authorization", "Bearer " ++ token)).toList
  query := none
  json := none

def deletionRow (target : Target) (result : Http.Outcome) : Row :=
  judged ("Cleanup: Delete " ++ target.1.title) 200
    ("Deleted " ++ target.1.name ++ " " ++ target.2.text) result

theorem resolve_deletion (bases : Http.Bases) (access : Option String) (kind : ResourceKind)
    (id : ResourceId) :
    (deletion kind id).resolve bases access = deletionRequest bases access (kind, id) := by
  have headers : ((deletion kind id).resolve bases access).headers =
      ("Content-Type", "application/json") :: Http.bearer access :=
    Http.headers_resolve rfl bases access
  exact congrArg (fun written : List (String × String) =>
    { deletionRequest bases access (kind, id) with headers := written }) headers

theorem header?_deletionRequest (bases : Http.Bases) (access : Option String) (target : Target) :
    (deletionRequest bases access target).header? "Authorization" =
      access.map ("Bearer " ++ ·) := by
  have apart : Text.sameIgnoringCase "Content-Type" "Authorization" = false := by decide
  have same : Text.sameIgnoringCase "Authorization" "Authorization" = true := by decide
  cases access <;> simp [Http.Request.header?, deletionRequest, apart, same]

def Reply.outcome? : Reply → Option Http.Outcome
  | .outcome result => some result
  | .crash _ => none

/-- The replies to requests sent one after the other behind earlier ones, up to the first crash. -/
def Server.replies (server : Server) : List Http.Request → List Http.Request → List Reply
  | _, [] => []
  | earlier, request :: rest =>
    match server earlier request with
    | .outcome result => .outcome result :: Server.replies server (earlier ++ [request]) rest
    | .crash message => [.crash message]

def outcomes (answer : List Http.Request → Http.Request → Http.Outcome) :
    List Http.Request → List Http.Request → List Http.Outcome
  | _, [] => []
  | earlier, request :: rest =>
    answer earlier request :: outcomes answer (earlier ++ [request]) rest

theorem replies_of_answers {server : Server}
    {answer : List Http.Request → Http.Request → Http.Outcome} (answers : server.Answers answer)
    (earlier requests : List Http.Request) :
    server.replies earlier requests = (outcomes answer earlier requests).map .outcome := by
  induction requests generalizing earlier with
  | nil => rfl
  | cons request rest ih =>
    simp only [Server.replies, answers earlier request, outcomes, List.map_cons, ih]

def deletionRows (targets : List Target) (replies : List Reply) : List Row :=
  (targets.zip replies).filterMap fun d => d.2.outcome?.map (deletionRow d.1)

/-- Deletions of some resources, as far as there are replies, led from a state to a progress. -/
structure Removes (setting : Setting) (s : State) (targets : List Target) (replies : List Reply)
    (p : Progress) : Prop where
  requests : p.state.requests = s.requests ++
    (targets.take replies.length).map (deletionRequest setting.bases s.session.access)
  ledger : p.state.ledger =
    s.ledger ++ stamped setting.clock s.ledger.length (deletionRows targets replies)
  session : p.state.session = s.session.without (targets.take replies.length)
  crash : p.crash = replies.findSome? Reply.crash?

@[simp] theorem view_settleDeletion (setting : Setting) (kind : ResourceKind) (id : ResourceId)
    (result : Http.Outcome) (s : State) :
    (settleDeletion setting kind id result s).view = s.view := by
  cases result with
  | response status body => by_cases h : status = deletedStatus <;> simp [settleDeletion, h]
  | failure cause => rfl

private theorem ledger_settleDeletion (setting : Setting) (kind : ResourceKind) (id : ResourceId)
    (result : Http.Outcome) (s : State) :
    (settleDeletion setting kind id result s).ledger =
      s.ledger ++ stamped setting.clock s.ledger.length [deletionRow (kind, id) result] := by
  cases result with
  | response status body =>
    by_cases h : status = deletedStatus
    · subst h
      rfl
    · simp only [settleDeletion, if_neg h, State.ledger_record, deletionRow, judged,
        show ¬status = 200 from h, if_false]
      rfl
  | failure cause => rfl

private theorem delete_of_none {setting : Setting} {kind : ResourceKind} {s : State}
    (h : s.session.id? kind = none) : delete setting kind s = ⟨s, none⟩ := by
  simp [delete, h]

theorem removes_delete (setting : Setting) {kind : ResourceKind} {s : State} {id : ResourceId}
    (h : s.session.id? kind = some id) :
    Removes setting s [(kind, id)]
      [setting.server s.requests (deletionRequest setting.bases s.session.access (kind, id))]
      (delete setting kind s) := by
  have reply := reply_send setting (deletion kind id)
    { s with session := s.session.withId kind none }
  have view := view_send setting (deletion kind id)
    { s with session := s.session.withId kind none }
  have ledger := ledger_send setting (deletion kind id)
    { s with session := s.session.withId kind none }
  simp only [Session.access_withId, resolve_deletion] at reply view
  unfold delete
  rw [h]
  dsimp only
  generalize send setting (deletion kind id)
    { s with session := s.session.withId kind none } = both at reply view ledger ⊢
  obtain ⟨result, sent⟩ := both
  dsimp only at reply view ledger
  rw [← reply]
  obtain ⟨session, requests⟩ := View.mk.inj view
  cases result with
  | outcome result =>
    have same := view_settleDeletion setting kind id result sent
    obtain ⟨kept, asked⟩ := View.mk.inj same
    refine ⟨asked.trans requests, ?_, kept.trans session, rfl⟩
    rw [ledger_settleDeletion, ledger]
    rfl
  | crash message => exact ⟨requests, ledger.trans (List.append_nil _).symm, session, rfl⟩

theorem Removes.cons {setting : Setting} {s : State} {target : Target} {result : Http.Outcome}
    {rest : List Target} {replies : List Reply} {p q : Progress}
    (hp : Removes setting s [target] [.outcome result] p)
    (hq : Removes setting p.state rest replies q) :
    Removes setting s (target :: rest) (.outcome result :: replies) q := by
  have access : p.state.session.access = s.session.access := by
    rw [hp.session]
    exact Session.access_withId _ _ _
  refine ⟨?_, ?_, ?_, ?_⟩
  · rw [hq.requests, hp.requests, access]
    simp
  · rw [hq.ledger, hp.ledger, List.append_assoc, List.length_append, length_stamped,
      ← stamped_append]
    rfl
  · rw [hq.session, hp.session]
    rfl
  · rw [hq.crash]
    rfl

/-- Deleting what is held of some kinds: one request for each, in their order, until one crashes. -/
theorem removes_deleteAll (setting : Setting) (kinds : List ResourceKind) (distinct : kinds.Nodup)
    (s : State) :
    Removes setting s (s.session.held kinds)
      (setting.server.replies s.requests
        ((s.session.held kinds).map (deletionRequest setting.bases s.session.access)))
      (deleteAll setting kinds s) := by
  -- A deletion empties its own slot only, so the kinds behind it hold what they held before.
  induction kinds generalizing s with
  | nil => exact ⟨(List.append_nil _).symm, (List.append_nil _).symm, rfl, rfl⟩
  | cons kind rest ih =>
    obtain ⟨fresh, distinct⟩ := List.nodup_cons.1 distinct
    cases slot : s.session.id? kind with
    | none =>
      rw [Session.held_cons_of_none slot]
      simp only [deleteAll, delete_of_none slot]
      exact ih distinct s
    | some id =>
      have one := removes_delete setting slot
      rw [Session.held_cons_of_some slot, List.map_cons]
      simp only [deleteAll, Server.replies]
      have crash := one.crash
      cases answer : setting.server s.requests
          (deletionRequest setting.bases s.session.access (kind, id)) with
      | outcome result =>
        rw [answer] at one crash
        generalize delete setting kind s = p at one crash ⊢
        obtain ⟨state, ended⟩ := p
        change ended = none at crash
        subst crash
        have session : state.session = s.session.withId kind none := one.session
        have requests : state.requests =
            s.requests ++ [deletionRequest setting.bases s.session.access (kind, id)] :=
          one.requests
        have more := ih distinct state
        rw [session, requests, Session.access_withId,
          Session.held_withId_of_not_mem fresh] at more
        exact one.cons more
      | crash message =>
        rw [answer] at one crash
        generalize delete setting kind s = p at one crash ⊢
        obtain ⟨state, ended⟩ := p
        change ended = some message at crash
        subst crash
        refine ⟨one.requests, ?_, one.session, rfl⟩
        rw [deletionRows, List.zip_cons_cons, List.zip_nil_right]
        exact one.ledger

def deletionsDue (setting : Setting) (s : State) : List Http.Request :=
  (s.session.held ResourceKind.all).map (deletionRequest setting.bases s.session.access)

theorem removes_cleanup (setting : Setting) (s : State) :
    Removes setting s (s.session.held ResourceKind.all)
      (setting.server.replies s.requests (deletionsDue setting s)) (cleanup setting s) := by
  have all := removes_deleteAll setting ResourceKind.all (by decide)
    (s.log { level := .info, speaker := .cleanup, message := "Cleaning up test data..." })
  exact ⟨all.requests, all.ledger, all.session, all.crash⟩

theorem findSome?_outcomes (results : List Http.Outcome) :
    (results.map Reply.outcome).findSome? Reply.crash? = none := by
  induction results with
  | nil => rfl
  | cons result rest ih => exact ih

theorem length_replies {server : Server} {earlier requests : List Http.Request}
    {results : List Http.Outcome} (h : server.replies earlier requests = results.map .outcome) :
    results.length = requests.length := by
  induction requests generalizing earlier results with
  | nil =>
    cases results with
    | nil => rfl
    | cons result rest => cases h
  | cons request rest ih =>
    simp only [Server.replies] at h
    cases answer : server earlier request with
    | crash message =>
      rw [answer] at h
      cases results <;> simp at h
    | outcome result =>
      rw [answer] at h
      cases results with
      | nil => cases h
      | cons first more =>
        rw [List.map_cons] at h
        rw [List.length_cons, List.length_cons, ih (List.cons.inj h).2]

theorem deletionRows_outcomes (targets : List Target) (results : List Http.Outcome) :
    deletionRows targets (results.map .outcome) = List.zipWith deletionRow targets results := by
  induction targets generalizing results with
  | nil => rfl
  | cons target rest ih =>
    cases results with
    | nil => rfl
    | cons result more =>
      simp only [List.map_cons, List.zipWith_cons_cons, ← ih more]
      rfl

theorem cleanup_answered {setting : Setting} {s : State} {results : List Http.Outcome}
    (answered : setting.server.replies s.requests (deletionsDue setting s) =
      results.map .outcome) :
    (cleanup setting s).state.requests = s.requests ++ deletionsDue setting s ∧
    (cleanup setting s).state.ledger = s.ledger ++ stamped setting.clock s.ledger.length
      (List.zipWith deletionRow (s.session.held ResourceKind.all) results) ∧
    (cleanup setting s).state.session =
      { access := s.session.access, refresh := s.session.refresh } ∧
    (cleanup setting s).crash = none := by
  obtain ⟨requests, ledger, session, crash⟩ := removes_cleanup setting s
  have length : results.length = (s.session.held ResourceKind.all).length := by
    rw [length_replies answered, deletionsDue, List.length_map]
  rw [answered] at requests ledger session crash
  rw [List.length_map, length, List.take_length] at requests session
  refine ⟨requests, ?_, ?_, ?_⟩
  · rw [ledger, deletionRows_outcomes]
  · rw [session, Session.without_held]
  · rw [crash, findSome?_outcomes]

end PanelProbe.Run
