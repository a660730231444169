import PanelProbe.Proofs.Run.Deletion
import PanelProbe.Proofs.Run.History
import PanelProbe.Scenario.Canonical

/-!
Cleaning up on every exit: whether the phases end or crash, what is held then is deleted, and a
crash is passed on behind the last deletion.
-/

set_option autoImplicit false

namespace PanelProbe.Run

theorem cleanup_conclude (setting : Setting) (p : Progress) :
    ∃ s : State, s.view = p.state.view ∧ s.ledger = p.state.ledger ∧
      (conclude setting p).state = (cleanup setting s).state ∧
      (conclude setting p).crash = ((cleanup setting s).crash <|> p.crash) := by
  obtain ⟨state, crash⟩ := p
  cases crash with
  | none => exact ⟨state, rfl, rfl, rfl, rfl⟩
  | some message => exact ⟨state.log aborted, rfl, rfl, rfl, rfl⟩

private theorem phases_crash {setting : Setting} {list : List Phase} {message : String}
    (h : (phases setting list (start setting)).crash = some message) :
    ∃ earlier request,
      (phases setting list (start setting)).state.requests = earlier ++ [request] ∧
      setting.server earlier request = .crash message := by
  have made := makes_history setting list
  have follows := follows_history setting list
  rw [made.crash] at h
  obtain ⟨before, t, equal, crash⟩ := blocks_crash h
  change history setting list = before ++ [t] at equal
  rw [equal] at follows made
  have last : t = turn setting t.step (View.through {} before) := follows.eq_turn
  rw [last] at crash
  obtain ⟨request, sent, reply⟩ := crash_turn crash
  rw [← last] at sent
  have requests : (phases setting list (start setting)).state.requests =
      (View.through {} before).requests ++ t.request?.toList := by
    have view := congrArg View.requests made.view
    rw [View.through_append, View.through_cons, View.through_nil] at view
    have met : t.view = View.through {} before := by rw [last]; rfl
    rw [← met]
    exact view
  exact ⟨_, request, by rw [requests, sent]; rfl, reply⟩

def cleanupName : ResourceKind → String
  | .user => "Cleanup: Delete User"
  | .node => "Cleanup: Delete Node"
  | .plan => "Cleanup: Delete Plan"

def resourceUrl (api : String) : Target → String
  | (.user, id) => api ++ "/admin/users/" ++ id.segment
  | (.node, id) => api ++ "/admin/nodes/" ++ id.segment
  | (.plan, id) => api ++ "/admin/plans/" ++ id.segment

/-- What is held: the user before the node before the plan. -/
def heldTargets (s : Session) : List Target :=
  (s.user.map (ResourceKind.user, ·)).toList ++ (s.node.map (ResourceKind.node, ·)).toList ++
    (s.plan.map (ResourceKind.plan, ·)).toList

private theorem held_all (s : Session) : s.held ResourceKind.all = heldTargets s := by
  obtain ⟨access, refresh, user, node, plan⟩ := s
  cases user <;> cases node <;> cases plan <;> rfl

private theorem url_deletionRequest (bases : Http.Bases) (access : Option String)
    (target : Target) :
    (deletionRequest bases access target).url = resourceUrl bases.api target := by
  obtain ⟨kind, id⟩ := target
  cases kind <;> exact String.append_assoc.symm

/-- The entry of a deletion has the deletion's name and passes with the status 200 alone. -/
def RecordsDeletion (d : Target × Http.Outcome) (entry : Entry) : Prop :=
  entry.name = cleanupName d.1.1 ∧ (entry.status = .pass ↔ ∃ body, d.2 = .response 200 body)

private theorem records_stamped (clock : Nat → String) (before : Nat) (targets : List Target)
    (results : List Http.Outcome) :
    List.Forall₂ RecordsDeletion (targets.zip results)
      (stamped clock before (List.zipWith deletionRow targets results)) := by
  induction targets generalizing before results with
  | nil => exact .nil
  | cons target rest ih =>
    cases results with
    | nil => exact .nil
    | cons result more =>
      refine .cons ⟨?_, judged_pass_iff⟩ (ih (before + 1) more)
      refine (name_judged _ _ _ _).trans ?_
      cases target.1 <;> rfl

/-- However the phases of a run end, normally or by a crash, one deletion is sent for each kind that
is held then, the user's before the node's before the plan's and with the token that is held; each
records whether it got the status 200, nothing but the tokens is held afterwards, and a crash of the
phases, which is the reply to their last request, is passed on. -/
theorem run_deletes_held (setting : Setting) (list : List Phase) (results : List Http.Outcome)
    (answered :
      let ended := (phases setting list (start setting)).state
      setting.server.replies ended.requests (deletionsDue setting ended) =
        results.map .outcome) :
    let ended := phases setting list (start setting)
    let s := ended.state.session
    let targets := heldTargets s
    let final := run setting list
    final.state.requests =
      ended.state.requests ++ targets.map (deletionRequest setting.bases s.access) ∧
    (∀ target,
      (deletionRequest setting.bases s.access target).url = resourceUrl setting.bases.api target ∧
      (deletionRequest setting.bases s.access target).header? "Authorization" =
        s.access.map ("Bearer " ++ ·)) ∧
    (∃ entries, final.state.ledger = ended.state.ledger ++ entries ∧
      results.length = targets.length ∧
      List.Forall₂ RecordsDeletion (targets.zip results) entries) ∧
    final.state.session = { access := s.access, refresh := s.refresh } ∧
    final.crash = ended.crash ∧
    ∀ message, ended.crash = some message → ∃ earlier request,
      ended.state.requests = earlier ++ [request] ∧
      setting.server earlier request = .crash message := by
  intro ended s targets final
  have order : s.held ResourceKind.all = targets := held_all s
  obtain ⟨state, view, ledger, concluded, crash⟩ := cleanup_conclude setting ended
  obtain ⟨session, requests⟩ := View.mk.inj view
  have due : deletionsDue setting state = deletionsDue setting ended.state := by
    rw [deletionsDue, session]
    rfl
  have answered' : setting.server.replies state.requests (deletionsDue setting state) =
      results.map .outcome := by
    rw [requests, due]
    exact answered
  obtain ⟨sent, recorded, left, calm⟩ := cleanup_answered answered'
  refine ⟨?_, fun target => ⟨url_deletionRequest setting.bases s.access target,
    header?_deletionRequest setting.bases s.access target⟩, ?_, ?_, ?_, fun _ => phases_crash⟩
  · show (conclude setting ended).state.requests = _
    rw [concluded, sent, requests, due, deletionsDue, order]
  · refine ⟨_, ?_, ?_, records_stamped setting.clock state.ledger.length targets results⟩
    · show (conclude setting ended).state.ledger = _
      rw [concluded, recorded, session, ledger, ← order]
    · rw [length_replies answered, ← order]
      exact List.length_map _
  · show (conclude setting ended).state.session = _
    rw [concluded, left, session]
  · show (conclude setting ended).crash = _
    rw [crash, calm]
    rfl

/-- A server that gives out the token `t`, the user 11 and the node `n/7`, crashes when plans are
listed, and refuses to delete users. -/
def fragile : Setting where
  server := fun _ request =>
    if request.url = "http://api.test/api/v1/admin/users/11" then .outcome (.response 500 .empty)
    else if request.method = .delete then .outcome (.response 200 .empty)
    else if request.url = "http://api.test/api/v1/admin/plans" then .crash "server exploded"
    else if request.url = "http://api.test/api/v1/admin/users" then
      .outcome (.response 201 (.json (.ofMembers [("id", .int 11)])))
    else if request.url = "http://api.test/api/v1/admin/nodes" then
      .outcome (.response 201 (.json (.ofMembers [("id", .string "n/7")])))
    else .outcome (.response 201 (.json (.ofMembers [("access_token", .string "t")])))
  bases := ⟨"http://api.test", "http://api.test/api/v1"⟩
  clock := fun _ => ""

def brokenOff : List Phase :=
  let f : Fixture := ⟨1700000000, ⟨2024, 3, 5⟩⟩
  [Scenario.authentication f {}, Scenario.users f, Scenario.nodes f, Scenario.plans f]

/-- Behind the crash the user is deleted and, though that is refused, the node. -/
theorem run_deletes_both_behind_crash :
    let ended := phases fragile brokenOff (start fragile)
    let final := run fragile brokenOff
    ended.crash = some "server exploded" ∧
    fragile.server.replies ended.state.requests (deletionsDue fragile ended.state) =
      [.response 500 .empty, .response 200 .empty].map .outcome ∧
    (∃ first second, final.state.requests = ended.state.requests ++ [first, second] ∧
      first.url = "http://api.test/api/v1/admin/users/11" ∧
      second.url = "http://api.test/api/v1/admin/nodes/n%2F7") ∧
    (∃ first second, final.state.ledger = ended.state.ledger ++ [first, second] ∧
      first.name = "Cleanup: Delete User" ∧ first.status ≠ .pass ∧
      second.name = "Cleanup: Delete Node" ∧ second.status = .pass) ∧
    final.crash = some "server exploded" := by
  have met : (phases fragile brokenOff (start fragile)).state.session =
        { access := some "t", user := some ⟨"11"⟩, node := some ⟨"n/7"⟩ } ∧
      (phases fragile brokenOff (start fragile)).crash = some "server exploded" := by
    decide +kernel
  have deleted := run_deletes_held fragile brokenOff [.response 500 .empty, .response 200 .empty]
  dsimp only at deleted ⊢
  -- What the phases did before the crash does not matter any more.
  generalize phases fragile brokenOff (start fragile) = ended at met deleted ⊢
  obtain ⟨left, crash⟩ := met
  have due : deletionsDue fragile ended.state =
      [deletionRequest fragile.bases (some "t") (.user, ⟨"11"⟩),
        deletionRequest fragile.bases (some "t") (.node, ⟨"n/7"⟩)] := by
    rw [deletionsDue, left]
    rfl
  have answered : fragile.server.replies ended.state.requests (deletionsDue fragile ended.state) =
      [.response 500 .empty, .response 200 .empty].map .outcome := by
    rw [due]
    rfl
  have targets : heldTargets ended.state.session = [(.user, ⟨"11"⟩), (.node, ⟨"n/7"⟩)] := by
    rw [left]
    rfl
  obtain ⟨sent, formed, ⟨entries, recorded, -, rows⟩, -, passed, -⟩ := deleted answered
  rw [targets] at sent rows
  refine ⟨crash, answered, ⟨_, _, sent, ?_, ?_⟩, ?_, passed.trans crash⟩
  · exact (formed (.user, ⟨"11"⟩)).1.trans (by decide +kernel)
  · exact (formed (.node, ⟨"n/7"⟩)).1.trans (by decide +kernel)
  · obtain _ | ⟨refused, _ | ⟨accepted, _ | _⟩⟩ := rows
    refine ⟨_, _, recorded, refused.1, fun pass => ?_, accepted.1, accepted.2.2 ⟨_, rfl⟩⟩
    obtain ⟨body, other⟩ := refused.2.1 pass
    cases other

end PanelProbe.Run
