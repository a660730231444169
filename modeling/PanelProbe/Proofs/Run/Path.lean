import PanelProbe.Proofs.Run.Conforming
import PanelProbe.Proofs.Run.Ledger
import PanelProbe.Proofs.Session.Template

/-!
The paths of requests. What a step's template mentions is held whenever its request is sent, so no
placeholder is left in the path, whatever identifiers the server gives.
-/

set_option autoImplicit false

namespace PanelProbe

private theorem Scenario.templates_canonical {f : Fixture} {admin : Credentials} {list : List Phase}
    (canonical : canonical? f admin = some list) :
    ∀ step ∈ list.flatMap Phase.steps, IsTemplate step.path := by
  have read : ∀ sh ∈ shapes, (∀ piece ∈ Piece.ofText sh.path.toList, piece.Sound) ∧
      sh.path.toList = Piece.written (Piece.ofText sh.path.toList) := by
    decide +kernel
  intro step member
  have shape : step.shape ∈ shapes := by
    rw [← map_shape_canonical canonical]
    exact List.mem_map_of_mem member
  exact ⟨_, read step.shape shape⟩

namespace Run

private theorem mentions_of_mem {step : Step} {pieces : List Piece} {kind : ResourceKind}
    (written : step.path.toList = Piece.written pieces) (member : .mention kind ∈ pieces) :
    step.Mentions kind := by
  obtain ⟨front, back, rfl⟩ := List.append_of_mem member
  refine .inl ⟨Piece.written front, Piece.written back, ?_⟩
  rw [written]
  simp [Piece.written, Piece.text]

private theorem braceless_renderPath {step : Step} {s : Session} (template : IsTemplate step.path)
    (complete : step.missing? s = none) : Braceless (s.renderPath step.path).toList := by
  obtain ⟨pieces, sound, text⟩ := template
  have path : step.path = String.ofList (Piece.written pieces) := by
    rw [← text, String.ofList_toList]
  have each : ∀ piece ∈ pieces, Braceless (s.filled ResourceId.segment piece).text := by
    intro piece member
    cases piece with
    | plain text => exact sound _ member
    | mention kind =>
      have held : s.id? kind ≠ none :=
        Step.missing?_eq_none_iff.1 complete kind (mentions_of_mem text member)
      obtain ⟨id, held⟩ := Option.ne_none_iff_exists'.1 held
      simp only [Session.filled, held, Piece.text]
      exact id.braceless_segment
  rw [path, s.renderPath_written sound, String.toList_ofList, Piece.written, List.flatMap_map]
  constructor
  · intro brace
    obtain ⟨piece, member, inside⟩ := List.mem_flatMap.1 brace
    exact (each piece member).1 inside
  · intro brace
    obtain ⟨piece, member, inside⟩ := List.mem_flatMap.1 brace
    exact (each piece member).2 inside

private theorem missing?_of_sent {setting : Setting} {step : Step} {v : View}
    {request : Http.Request}
    (sent : (turn setting step v).request? = some request) : step.missing? v.session = none := by
  cases missing : step.missing? v.session with
  | none => rfl
  | some kind =>
    rw [Turn.request?, course_lacking setting missing] at sent
    cases sent

private theorem braceless_deletion (kind : ResourceKind) (id : ResourceId) :
    Braceless (deletion kind id).path.toList := by
  have shelf : Braceless kind.collection.toList := by cases kind <;> decide
  have segment := id.braceless_segment
  simp [Braceless, deletion, shelf.1, shelf.2, segment.1, segment.2]

/-- No request of a run has a brace behind its base address, whatever the server gives for an
identifier. -/
theorem requests_braceless (setting : Setting) {list : List Phase}
    (templates : ∀ step ∈ list.flatMap Phase.steps, IsTemplate step.path) :
    let taken := history setting list
    ∃ deletions, (run setting list).state.requests = taken.filterMap Turn.request? ++ deletions ∧
      (∀ t ∈ taken, ∀ request, t.request? = some request →
        ∃ path, request.url = setting.bases.of t.step.scope ++ path ∧ Braceless path.toList) ∧
      ∀ request ∈ deletions,
        ∃ path, request.url = setting.bases.api ++ path ∧ Braceless path.toList := by
  intro taken
  refine ⟨_, (amounts_run setting list).requests, ?_, ?_⟩
  · intro t member request sent
    have step : t.step ∈ list.flatMap Phase.steps :=
      (map_step_history setting list).subset (List.mem_map_of_mem member)
    obtain ⟨before, after, split⟩ := List.append_of_mem member
    have follows : Follows setting {} (before ++ t :: after) := split ▸ follows_history setting list
    have equal : t = turn setting t.step (View.through {} before) := follows.eq_turn
    rw [equal] at sent
    obtain ⟨-, -, url⟩ := sent_turn sent
    exact ⟨_, url, braceless_renderPath (templates _ step) (missing?_of_sent sent)⟩
  · intro request member
    obtain ⟨⟨kind, id⟩, -, rfl⟩ := List.mem_map.1 (List.mem_of_mem_take member)
    exact ⟨_, rfl, braceless_deletion kind id⟩

theorem friendly_requests_braceless :
    (∀ step ∈ sample.flatMap Phase.steps, IsTemplate step.path) ∧
    "http://api.test/api/v1/admin/users/a%2F%7Bplan_id%7D/nodes" ∈
      (run friendly sample).state.requests.map Http.Request.url ∧
    ∃ deletions, (run friendly sample).state.requests =
        (history friendly sample).filterMap Turn.request? ++ deletions ∧
      ∀ request ∈ deletions,
        ∃ path, request.url = "http://api.test/api/v1" ++ path ∧ Braceless path.toList := by
  have templates := Scenario.templates_canonical canonical_sample
  have encoded : "http://api.test/api/v1/admin/users/a%2F%7Bplan_id%7D/nodes" ∈
      (run friendly sample).state.requests.map Http.Request.url := by decide +kernel
  obtain ⟨deletions, whole, -, braceless⟩ := requests_braceless friendly templates
  exact ⟨templates, encoded, deletions, whole, braceless⟩

end Run

end PanelProbe
