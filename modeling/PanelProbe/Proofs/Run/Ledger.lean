import PanelProbe.Proofs.Run.Answered
import PanelProbe.Proofs.Session.Kind
import PanelProbe.Proofs.Text.Occurrence

/-!
The ledger of a run against a server that answers every request: which steps record an entry, which
of them are left out and why, and how the other entries and the requests belong together.
-/

set_option autoImplicit false

namespace PanelProbe

def Step.Mentions (step : Step) (kind : ResourceKind) : Prop :=
  kind.placeholder.toList <:+: step.path.toList ∨ kind.placeholder.toList <:+: step.detail.toList

instance (step : Step) (kind : ResourceKind) : Decidable (step.Mentions kind) :=
  inferInstanceAs (Decidable (_ ∨ _))

namespace Step

variable {step : Step} {s : Session} {kind : ResourceKind}

theorem mem_required : kind ∈ step.required ↔ step.Mentions kind := by
  rw [required, List.mem_filter, Bool.or_eq_true, Text.occursIn_iff_isInfix,
    Text.occursIn_iff_isInfix]
  exact and_iff_right kind.mem_all

theorem missing?_eq_some_iff :
    step.missing? s = some kind ↔
      kind.IsFirst fun k => step.Mentions k ∧ s.id? k = none := by
  rw [ResourceKind.isFirst_iff, missing?, required, List.find?_filter]
  simp only [Bool.or_eq_true, Text.occursIn_iff_isInfix, Option.isNone_iff_eq_none]
  rfl

theorem missing?_eq_none_iff :
    step.missing? s = none ↔ ∀ k, step.Mentions k → s.id? k ≠ none := by
  simp only [missing?, List.find?_eq_none, mem_required, Option.isNone_iff_eq_none, ne_eq]

end Step

namespace Run

/-- What became of a step, judged by the turns before it alone. -/
structure Lawful (answer : List Http.Request → Http.Request → Http.Outcome) (before : List Turn)
    (t : Turn) : Prop where
  /-- It is left out for want of the first kind that it mentions and that was not stored. -/
  lacking : ∀ kind, t.request? = none ∧ t.row? = some (lackingRow t.step kind) ↔
    kind.IsFirst fun k => t.step.Mentions k ∧ ¬Stored k before
  /-- Otherwise a refresh is left out when no refresh token was stored. -/
  tokenless : t.request? = none ∧ t.row? = some (tokenlessRow t.step) ↔
    (∀ k, t.step.Mentions k → Stored k before) ∧
      t.step.payload = .refreshToken ∧ ¬Refreshed before
  /-- Otherwise its request is sent behind those of the turns before, and the row judges the
  answer. -/
  sent : (∀ k, t.step.Mentions k → Stored k before) →
    (t.step.payload = .refreshToken → Refreshed before) →
    ∃ request result details, t.request? = some request ∧
      result = answer (before.filterMap Turn.request?) request ∧
      t.course = .sent request (.outcome result) ∧
      t.row? = some (judged t.step.name t.step.expect details result)

/-- The turns of a phase that begins with a session: those of its steps when all that it is gated
on is held, and none otherwise. What is held was stored before. -/
structure Gated (p : Phase) (s : Session) (before b : List Turn) : Prop where
  met : (∀ kind ∈ p.gate, s.id? kind ≠ none) → b.map Turn.step = p.steps
  unmet : (∃ kind ∈ p.gate, s.id? kind = none) → b = []
  stored : ∀ kind, s.id? kind ≠ none ↔ Stored kind before

private theorem lackingRow_inj {step : Step} {kind other : ResourceKind}
    (h : lackingRow step kind = lackingRow step other) : kind = other := by
  have details : "no id available for " ++ kind.name = "no id available for " ++ other.name :=
    congrArg Row.details h
  revert details
  cases kind <;> cases other <;> decide

private theorem lackingRow_ne_tokenlessRow (step : Step) (kind : ResourceKind) :
    lackingRow step kind ≠ tokenlessRow step := by
  intro h
  have details : "no id available for " ++ kind.name = "no refresh token available" :=
    congrArg Row.details h
  revert details
  cases kind <;> decide

namespace Lawful

variable {answer : List Http.Request → Http.Request → Http.Outcome} {before : List Turn} {t : Turn}

private theorem of_lacking {kind : ResourceKind}
    (first : kind.IsFirst fun k => t.step.Mentions k ∧ ¬Stored k before)
    (course : t.course = .lacking kind) : Lawful answer before t := by
  have idle : t.request? = none := by rw [Turn.request?, course]
  have row : t.row? = some (lackingRow t.step kind) := by rw [Turn.row?, course]
  obtain ⟨mentioned, never⟩ := first.holds
  refine ⟨fun other => ?_, ?_, fun stored _ => absurd (stored kind mentioned) never⟩
  · rw [row, Option.some.injEq]
    constructor
    · rintro ⟨-, same⟩
      rw [← lackingRow_inj same]
      exact first
    · intro found
      rw [first.unique found]
      exact ⟨idle, rfl⟩
  · rw [row, Option.some.injEq]
    constructor
    · rintro ⟨-, same⟩
      exact absurd same (lackingRow_ne_tokenlessRow _ _)
    · rintro ⟨stored, -⟩
      exact absurd (stored kind mentioned) never

private theorem of_tokenless (stored : ∀ k, t.step.Mentions k → Stored k before)
    (refresh : t.step.payload = .refreshToken) (never : ¬Refreshed before)
    (course : t.course = .tokenless) : Lawful answer before t := by
  have idle : t.request? = none := by rw [Turn.request?, course]
  have row : t.row? = some (tokenlessRow t.step) := by rw [Turn.row?, course]
  refine ⟨fun other => ?_, iff_of_true ⟨idle, row⟩ ⟨stored, refresh, never⟩,
    fun _ refreshed => absurd (refreshed refresh) never⟩
  rw [row, Option.some.injEq]
  constructor
  · rintro ⟨-, same⟩
    exact absurd same.symm (lackingRow_ne_tokenlessRow _ _)
  · intro found
    obtain ⟨mentioned, lost⟩ := found.holds
    exact absurd (stored other mentioned) lost

private theorem of_sent (stored : ∀ k, t.step.Mentions k → Stored k before)
    (refreshed : t.step.payload = .refreshToken → Refreshed before) {request : Http.Request}
    (course : t.course = .sent request
      (.outcome (answer (before.filterMap Turn.request?) request))) :
    Lawful answer before t := by
  have sent : t.request? = some request := by rw [Turn.request?, course]
  have row : t.row? = some (judged t.step.name t.step.expect
      (t.view.session.render t.step.detail)
      (answer (before.filterMap Turn.request?) request)) := by
    rw [Turn.row?, course]
  have busy : t.request? ≠ none := by
    rw [sent]
    exact Option.some_ne_none request
  refine ⟨fun other => iff_of_false (fun idle => busy idle.1) ?_,
    iff_of_false (fun idle => busy idle.1) ?_,
    fun _ _ => ⟨request, _, _, sent, rfl, course, row⟩⟩
  · intro found
    obtain ⟨mentioned, lost⟩ := found.holds
    exact lost (stored other mentioned)
  · rintro ⟨-, refresh, never⟩
    exact never (refreshed refresh)

end Lawful

/-- What becomes of a step anywhere in a history is judged by the turns before it. -/
private theorem lawful {setting : Setting}
    {answer : List Http.Request → Http.Request → Http.Outcome}
    (answers : setting.server.Answers answer) {before after : List Turn} {t : Turn}
    (h : Follows setting {} (before ++ t :: after)) : Lawful answer before t := by
  have earlier : Follows setting {} before := (follows_append.1 h).1
  have equal : t = turn setting t.step (View.through {} before) := h.eq_turn
  have token : Payload.given? (View.through {} before).session t.step.payload = none ↔
      t.step.payload = .refreshToken ∧ ¬Refreshed before := by
    rw [given?_eq_none_iff, earlier.refresh_eq_none_iff]
  have requests : (View.through {} before).requests = before.filterMap Turn.request? :=
    earlier.requests_through
  -- The cases of the model: what a session lacks is what no turn before has stored.
  cases missing : t.step.missing? (View.through {} before).session with
  | some kind =>
    have course := course_lacking setting missing
    rw [← equal] at course
    simp only [Step.missing?_eq_some_iff, earlier.id?_eq_none_iff] at missing
    exact .of_lacking missing course
  | none =>
    have stored : ∀ k, t.step.Mentions k → Stored k before := by
      simpa only [Step.missing?_eq_none_iff, ne_eq, earlier.id?_eq_none_iff, not_not] using missing
    cases given : Payload.given? (View.through {} before).session t.step.payload with
    | none =>
      have course := course_tokenless setting missing given
      rw [← equal] at course
      obtain ⟨refresh, never⟩ := token.1 given
      exact .of_tokenless stored refresh never course
    | some payload =>
      obtain ⟨request, course, -, -⟩ := course_sent setting missing given
      rw [← equal, requests, answers] at course
      refine .of_sent stored (fun refresh => ?_) course
      by_contra never
      have lost := token.2 ⟨refresh, never⟩
      rw [given] at lost
      cases lost

private theorem gated {setting : Setting} {answer : List Http.Request → Http.Request → Http.Outcome}
    (answers : setting.server.Answers answer) {list : List Phase} {i : Nat} {p : Phase}
    (h : list[i]? = some p) :
    ∃ b, (blocks setting list {})[i]? = some b ∧
      Gated p (phases setting (list.take i) (start setting)).state.session
        ((blocks setting list {}).take i).flatten b := by
  have earlier := follows_history setting (list.take i)
  have made := congrArg View.session (makes_history setting (list.take i)).view
  change (phases setting (list.take i) (start setting)).state.session =
    (View.through {} (history setting (list.take i))).session at made
  rw [history, blocks_take answers] at earlier made
  refine ⟨_, getElem?_blocks answers h {}, ?_, ?_, ?_⟩
  · intro held
    have met : p.missing? (View.through {} ((blocks setting list {}).take i).flatten).session =
        none := by
      simpa [Phase.missing?, ← made] using held
    rw [block, met]
    exact map_step_turns answers p.steps _
  · rintro ⟨kind, member, lost⟩
    cases missing : p.missing? (View.through {} ((blocks setting list {}).take i).flatten).session
      with
    | some other => rw [block, missing]
    | none =>
      have held := List.find?_eq_none.1 missing kind member
      rw [← made, lost] at held
      exact absurd rfl held
  · intro kind
    rw [made, ne_eq, earlier.id?_eq_none_iff, not_not]

/-- The ledger of a run against a server that answers every request: the turns of the phases whose
gate is met, each judged by the turns before it and recorded once, and then one deletion for each
kind that is held. -/
theorem run_ledger (setting : Setting)
    (answer : List Http.Request → Http.Request → Http.Outcome) (list : List Phase) :
    let setting := setting.answering answer
    let begun := blocks setting list {}
    let taken := begun.flatten
    let s := (phases setting list (start setting)).state.session
    let targets := s.held ResourceKind.all
    let deletions := targets.map (deletionRequest setting.bases s.access)
    let final := run setting list
    final.crash = none ∧
    begun.length = list.length ∧
    (∀ i p, list[i]? = some p → ∃ b, begun[i]? = some b ∧
      Gated p (phases setting (list.take i) (start setting)).state.session
        (begun.take i).flatten b) ∧
    (∀ before t after, taken = before ++ t :: after → Lawful answer before t) ∧
    final.state.requests = taken.filterMap Turn.request? ++ deletions ∧
    ∃ rows, taken.map Turn.row? = rows.map some ∧
      final.state.ledger = stamped setting.clock 0 (rows ++ List.zipWith deletionRow targets
        (outcomes answer (taken.filterMap Turn.request?) deletions)) := by
  intro setting begun taken s targets deletions final
  have answers : setting.server.Answers answer := answers_answering _ answer
  have follows : Follows setting {} taken := follows_history setting list
  have whole := completes answers list
  have recorded : taken.map Turn.row? = (taken.filterMap Turn.row?).map some := by
    rw [List.map_filterMap_some_eq_filter_map_isSome, List.filter_eq_self.2]
    simp only [List.mem_map, forall_exists_index, and_imp, forall_apply_eq_imp_iff₂]
    intro t member
    obtain ⟨row, found⟩ := Turn.row?_isSome (follows.calm answers t member)
    rw [found]
    rfl
  refine ⟨whole.crash, length_blocks answers list {}, ?_, ?_, whole.sent,
    taken.filterMap Turn.row?, recorded, whole.ledger⟩
  · intro i p found
    exact gated answers found
  · intro before t after split
    rw [split] at follows
    exact lawful answers follows

end Run

end PanelProbe
