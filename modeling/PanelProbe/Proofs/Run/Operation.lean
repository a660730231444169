import PanelProbe.Proofs.Run.Echo
import PanelProbe.Proofs.Run.Interruption
import PanelProbe.Proofs.Run.Turn

/-!
Operations on a run in any order, each on the state that the one before left, also when a crash
broke it off. Between two deletions of a kind an identifier of that kind was stored, and the ledger
only grows.
-/

set_option autoImplicit false

namespace PanelProbe.Run

inductive Operation
  | step (step : Step)
  | cleanup
  | setId (kind : ResourceKind) (id : ResourceId)
  | takeId (kind : ResourceKind)
  | capture (rule : Capture) (body : Json)
  | send (call : Http.Call)
  | record (name : String) (status : Status) (details : String)

namespace Operation

def perform (setting : Setting) (s : State) : Operation → Progress
  | .step st => Run.step setting st s
  | .cleanup => Run.cleanup setting s
  | .setId kind id => ⟨{ s with session := s.session.withId kind (some id) }, none⟩
  | .takeId kind => ⟨{ s with session := s.session.withId kind none }, none⟩
  | .capture rule body =>
    ⟨{ s with session := (rule.keep? body s.session).getD s.session }, none⟩
  | .send call =>
    let sent := Run.send setting call s
    ⟨sent.2, sent.1.crash?⟩
  | .record name status details => ⟨s.record setting name status details, none⟩

def stored? (setting : Setting) (kind : ResourceKind) (s : State) : Operation → Option ResourceId
  | .step st => (turn setting st s.view).stored? kind
  | .setId k id => if k = kind then some id else none
  | .capture rule body => rule.id? kind body
  | .cleanup | .takeId _ | .send _ | .record _ _ _ => none

end Operation

/-- Operations one after the other; what a crash leaves is what the next one meets. -/
def performAll (setting : Setting) (ops : List Operation) (s : State) : State :=
  ops.foldl (fun s op => (op.perform setting s).state) s

def storedAll (setting : Setting) (kind : ResourceKind) : List Operation → State → List ResourceId
  | [], _ => []
  | op :: rest, s =>
    (op.stored? setting kind s).toList ++
      storedAll setting kind rest (op.perform setting s).state

section

variable {setting : Setting} {kind : ResourceKind} {s : State}

private theorem id?_cleanup_of_none (empty : s.session.id? kind = none) :
    (cleanup setting s).state.session.id? kind = none := by
  rw [(removes_cleanup setting s).session, Session.id?_without, empty, ite_self]

private theorem id?_perform_of_none (op : Operation) (empty : s.session.id? kind = none) :
    (op.perform setting s).state.session.id? kind = op.stored? setting kind s := by
  -- Only a step, a capture and a plain write can store; a step does as its turn says.
  cases op with
  | step st =>
    have view := (makes_step setting st s).view
    have session : (Run.step setting st s).state.session = (turn setting st s.view).after :=
      congrArg View.session view
    have met : (turn setting st s.view).view.session = s.session := rfl
    show (Run.step setting st s).state.session.id? kind = _
    rw [session, Turn.id?_after, met, empty, Option.or_none]
    rfl
  | cleanup => exact id?_cleanup_of_none empty
  | setId k id =>
    show (s.session.withId k (some id)).id? kind = if k = kind then some id else none
    by_cases same : k = kind
    · subst same
      simp
    · rw [if_neg same, Session.id?_withId_of_ne (Ne.symm same), empty]
  | takeId k =>
    show (s.session.withId k none).id? kind = none
    by_cases same : k = kind
    · subst same
      simp
    · rw [Session.id?_withId_of_ne (Ne.symm same), empty]
  | capture rule body =>
    show (rule.kept body s.session).id? kind = rule.id? kind body
    rw [Capture.id?_kept, empty, Option.or_none]
  | send call =>
    have session := congrArg View.session (view_send setting call s)
    show (Run.send setting call s).2.view.session.id? kind = none
    rw [session]
    exact empty
  | record name status details => exact empty

private theorem id?_performAll_of_none {ops : List Operation} (empty : s.session.id? kind = none)
    (idle : storedAll setting kind ops s = []) :
    (performAll setting ops s).session.id? kind = none := by
  induction ops generalizing s with
  | nil => exact empty
  | cons op rest ih =>
    obtain ⟨first, more⟩ := List.append_eq_nil_iff.1 idle
    have nothing : op.stored? setting kind s = none := by simpa using first
    have left : (op.perform setting s).state.session.id? kind = op.stored? setting kind s :=
      id?_perform_of_none op empty
    rw [nothing] at left
    exact ih left more

private theorem ledger_prefix_perform (setting : Setting) (s : State) (op : Operation) :
    s.ledger <+: (op.perform setting s).state.ledger := by
  cases op with
  | step st =>
    rw [Operation.perform, (makes_step setting st s).ledger]
    exact List.prefix_append _ _
  | cleanup =>
    rw [Operation.perform, (removes_cleanup setting s).ledger]
    exact List.prefix_append _ _
  | setId | takeId | capture => exact List.prefix_refl _
  | send call =>
    show s.ledger <+: (Run.send setting call s).2.ledger
    simpa only [ledger_send] using List.prefix_refl s.ledger
  | record name status details => exact List.prefix_append _ _

private theorem ledger_prefix_performAll (setting : Setting) (ops : List Operation) (s : State) :
    s.ledger <+: (performAll setting ops s).ledger := by
  induction ops generalizing s with
  | nil => exact List.prefix_refl _
  | cons op rest ih => exact (ledger_prefix_perform setting s op).trans (ih _)

private theorem performAll_append (setting : Setting) (first second : List Operation) (s : State) :
    performAll setting (first ++ second) s =
      performAll setting second (performAll setting first s) :=
  List.foldl_append

theorem Echoed.perform (h : Echoed setting s) (op : Operation) :
    Echoed setting (op.perform setting s).state := by
  cases op with
  | step st => exact h.step st
  | cleanup => exact (h.log _).deleteAll ResourceKind.all
  | setId kind id => exact h.withSession _
  | takeId kind => exact h.withSession _
  | capture rule body => exact h.withSession _
  | send call => exact h.send call
  | record name status details => exact h.record name status details

theorem Echoed.performAll (h : Echoed setting s) (ops : List Operation) :
    Echoed setting (performAll setting ops s) := by
  induction ops generalizing s with
  | nil => exact h
  | cons op rest ih => exact ih (h.perform op)

def SendsDeletion (setting : Setting) (s : State) (kind : ResourceKind) : Prop :=
  ∃ request ∈ deletionsSent setting s, ∃ id, Deletes setting.bases (kind, id) request

def targetsSent (setting : Setting) (s : State) : List Target :=
  (s.session.held ResourceKind.all).take
    (setting.server.replies s.requests (deletionsDue setting s)).length

private theorem deletionsSent_eq_map (setting : Setting) (s : State) :
    deletionsSent setting s =
      (targetsSent setting s).map (deletionRequest setting.bases s.session.access) := by
  rw [deletionsSent_eq_take, targetsSent, List.map_take]
  rfl

private theorem sendsDeletion_iff :
    SendsDeletion setting s kind ↔ kind ∈ (targetsSent setting s).map Prod.fst := by
  simp only [SendsDeletion, deletionsSent_eq_map, List.mem_map]
  constructor
  · rintro ⟨-, ⟨target, member, rfl⟩, id, deletes⟩
    exact ⟨target, member, congrArg Prod.fst (deletes_deletionRequest.1 deletes)⟩
  · rintro ⟨⟨kind, id⟩, member, rfl⟩
    exact ⟨_, ⟨_, member, rfl⟩, id, deletes_deletionRequest.2 rfl⟩

theorem SendsDeletion.held (h : SendsDeletion setting s kind) : s.session.id? kind ≠ none := by
  obtain ⟨⟨k, id⟩, member, rfl⟩ := List.mem_map.1 (sendsDeletion_iff.1 h)
  have slot := (Session.mem_held.1 (List.mem_of_mem_take member)).2
  rw [slot]
  exact Option.some_ne_none id

private theorem SendsDeletion.released (h : SendsDeletion setting s kind) :
    (cleanup setting s).state.session.id? kind = none := by
  rw [(removes_cleanup setting s).session, Session.id?_without]
  exact if_pos (sendsDeletion_iff.1 h)

private theorem pairwise_deletionsSent (setting : Setting) (s : State) :
    (deletionsSent setting s).Pairwise fun first second => ∀ kind id other,
      Deletes setting.bases (kind, id) first → ¬Deletes setting.bases (kind, other) second := by
  have distinct : ((targetsSent setting s).map Prod.fst).Nodup := by
    rw [targetsSent, List.map_take]
    exact (s.session.nodup_map_fst_held (by decide)).sublist (List.take_sublist _ _)
  rw [List.Nodup, List.pairwise_map] at distinct
  rw [deletionsSent_eq_map, List.pairwise_map]
  apply distinct.imp
  intro first second apart kind id other deletes again
  rw [deletes_deletionRequest.1 deletes, deletes_deletionRequest.1 again] at apart
  exact apart rfl

private theorem id?_cleanup_of_complete (complete : (cleanup setting s).crash = none)
    (kind : ResourceKind) : (cleanup setting s).state.session.id? kind = none := by
  rcases breaksOff_or_answersAll setting s with all | ⟨front, request, back, message, broken⟩
  · obtain ⟨results, replies⟩ := exists_outcomes_of_answersAll all
    rw [(cleanup_answered replies).2.2.1]
    cases kind <;> rfl
  · rw [broken.crash] at complete
    cases complete

private theorem cleanup_of_empty (empty : ∀ kind, s.session.id? kind = none) :
    (cleanup setting s).state.requests = s.requests ∧
      (cleanup setting s).state.ledger = s.ledger := by
  have nothing : s.session.held ResourceKind.all = [] := by
    rw [Session.held, List.filterMap_eq_nil_iff]
    intro kind member
    rw [empty kind]
    rfl
  have removed := removes_cleanup setting s
  rw [deletionsDue, nothing] at removed
  exact ⟨removed.requests.trans (List.append_nil _), removed.ledger.trans (List.append_nil _)⟩

theorem BreaksOff.reached {front back : List Http.Request} {request : Http.Request}
    {message : String} (h : BreaksOff setting s front request back message) :
    ∃ passed kind id left, ResourceKind.all = passed ++ kind :: left ∧
      Deletes setting.bases (kind, id) request ∧
      ∀ other, (cleanup setting s).state.session.id? other ≠ none → other ∈ left := by
  obtain ⟨first, rest, split, rfl, behind⟩ := List.map_eq_append_iff.1 h.due
  obtain ⟨⟨kind, id⟩, later, rfl, rfl, -⟩ := List.map_eq_cons_iff.1 behind
  obtain ⟨passed, left, kinds, before⟩ := Session.exists_kind_of_held split
  refine ⟨passed, kind, id, left, kinds, deletes_deletionRequest.2 rfl, ?_⟩
  intro other held
  have session : (cleanup setting s).state.session = s.session.without (first ++ [(kind, id)]) := by
    have parts : first ++ (kind, id) :: later = (first ++ [(kind, id)]) ++ later := by simp
    rw [h.session, split, parts, List.length_map]
    exact congrArg s.session.without (List.take_left' (by simp))
  rw [session] at held
  have member : other ∈ passed ++ kind :: left := by
    rw [← kinds]
    exact other.mem_all
  -- The kinds before held nothing or were let go, and so was the one whose deletion crashed.
  rcases List.mem_append.1 member with passing | rest
  · refine absurd (Session.id?_without_of_held ?_ passing) held
    rw [before]
    exact List.subset_append_left _ _
  · rcases List.mem_cons.1 rest with rfl | later
    · rw [Session.id?_without] at held
      simp at held
    · exact later

end

/-- Whatever is done with a run and whichever requests crash: one cleanup sends no two deletions of
a kind, and a later one only sends another if an identifier of the kind was stored in between. If
none was, a cleanup behind one that ended sends and records nothing, and one behind a cleanup that
crashed deletes only of kinds behind the one whose deletion crashed. The ledger is never
rewritten. -/
theorem deletions_apart (setting : Setting) (s : State) (before between : List Operation) :
    let first := performAll setting before s
    let done := cleanup setting first
    let second := performAll setting between done.state
    let again := cleanup setting second
    (deletionsSent setting first).Pairwise (fun one other => ∀ kind id id',
      Deletes setting.bases (kind, id) one → ¬Deletes setting.bases (kind, id') other) ∧
    (∀ kind, SendsDeletion setting first kind → SendsDeletion setting second kind →
      storedAll setting kind between done.state ≠ []) ∧
    (done.crash = none → (∀ kind, storedAll setting kind between done.state = []) →
      again.state.requests = second.requests ∧ again.state.ledger = second.ledger) ∧
    (∀ message, done.crash = some message → ∃ earlier request passed kind id left,
      deletionsSent setting first = earlier ++ [request] ∧
      setting.server (first.requests ++ earlier) request = .crash message ∧
      Deletes setting.bases (kind, id) request ∧ ResourceKind.all = passed ++ kind :: left ∧
      ∀ other, SendsDeletion setting second other →
        storedAll setting other between done.state = [] → other ∈ left) ∧
    ∀ ops more,
      (performAll setting ops s).ledger <+: (performAll setting (ops ++ more) s).ledger := by
  intro first done second again
  refine ⟨pairwise_deletionsSent setting first, ?_, ?_, ?_, ?_⟩
  · intro kind sent resent idle
    exact resent.held (id?_performAll_of_none sent.released idle)
  · intro complete idle
    apply cleanup_of_empty
    intro kind
    exact id?_performAll_of_none (id?_cleanup_of_complete complete kind) (idle kind)
  · intro message crash
    rcases breaksOff_or_answersAll setting first with all | ⟨earlier, request, back, text, broken⟩
    · obtain ⟨results, replies⟩ := exists_outcomes_of_answersAll all
      have calm : done.crash = none := (cleanup_answered replies).2.2.2
      rw [calm] at crash
      cases crash
    · have same : text = message := Option.some.inj (broken.crash.symm.trans crash)
      subst same
      obtain ⟨passed, kind, id, left, kinds, deletes, reached⟩ := broken.reached
      refine ⟨earlier, request, passed, kind, id, left, broken.sent, broken.reply, deletes, kinds,
        ?_⟩
      intro other resent idle
      apply reached
      intro empty
      exact resent.held (id?_performAll_of_none empty idle)
  · intro ops more
    rw [performAll_append]
    exact ledger_prefix_performAll setting more _

theorem user_not_deleted_again :
    (cleanup explosive laden).crash = some "server exploded" ∧
    SendsDeletion explosive laden .user ∧
    SendsDeletion explosive (cleanup explosive laden).state .node ∧
    ¬SendsDeletion explosive (cleanup explosive laden).state .user := by
  have crash : (cleanup explosive laden).crash = some "server exploded" := by decide +kernel
  have sent : SendsDeletion explosive laden .user := sendsDeletion_iff.2 (by decide +kernel)
  have node : SendsDeletion explosive (cleanup explosive laden).state .node :=
    sendsDeletion_iff.2 (by decide +kernel)
  obtain ⟨-, apart, -⟩ := deletions_apart explosive laden [] []
  refine ⟨crash, sent, node, ?_⟩
  intro again
  exact apart .user sent again rfl

end PanelProbe.Run
