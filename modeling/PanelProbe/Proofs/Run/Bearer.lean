import PanelProbe.Proofs.Http.Headers
import PanelProbe.Proofs.Json.Address
import PanelProbe.Proofs.Run.Whole

/-!
Where the tokens come from that requests carry: a request of an authorized step, and each deletion,
carries the token that was handed out last before it, and no other request carries one.
-/

set_option autoImplicit false

namespace PanelProbe

/-- A token is the first nonempty string where a body may hold an access token. -/
def Json.ShowsToken (body : Json) (token : String) : Prop :=
  token ≠ "" ∧
    (body.at? "access_token" = some (.string token) ∨
      body.at? "data.access_token" = some (.string token) ∧
        ∀ text, body.at? "access_token" = some (.string text) → text = "")

theorem Json.showsToken_iff {body : Json} {token : String} :
    body.ShowsToken token ↔ body.firstText? Capture.accessAddresses = some token := by
  rw [Capture.accessAddresses, firstText?_cons, firstText?_cons, firstText?_nil, ShowsToken]
  constructor
  · rintro ⟨filled, first | ⟨second, blank⟩⟩
    · exact .inl ⟨first, filled⟩
    · exact .inr ⟨blank, .inl ⟨second, filled⟩⟩
  · rintro (⟨first, filled⟩ | ⟨blank, ⟨second, filled⟩ | ⟨-, never⟩⟩)
    · exact ⟨filled, .inl first⟩
    · exact ⟨filled, .inr ⟨second, blank⟩⟩
    · cases never

namespace Run

/-- A turn hands out a token: the reply has the status that its step expects, the step keeps tokens,
and the JSON body shows the token. -/
def Turn.Hands (t : Turn) (token : String) : Prop :=
  ∃ request body, t.course = .sent request (.outcome (.response t.step.expect (.json body))) ∧
    (t.step.capture = .tokens ∨ t.step.capture = .accessToken) ∧ body.ShowsToken token

/-- The token in force behind some turns: the one that was handed out last, if any was. -/
inductive InForce (ts : List Turn) : Option String → Prop
  | none (never : ∀ t ∈ ts, ∀ token, ¬t.Hands token) : InForce ts none
  | some {before after : List Turn} {t : Turn} {token : String} (split : ts = before ++ t :: after)
      (handed : t.Hands token) (last : ∀ u ∈ after, ∀ other, ¬u.Hands other) :
      InForce ts (some token)

theorem Turn.body?_eq_some_iff {t : Turn} {body : Json} :
    t.body? = some body ↔
      ∃ request, t.course = .sent request (.outcome (.response t.step.expect (.json body))) := by
  obtain ⟨step, view, course⟩ := t
  rcases course with kind | _ | ⟨request, (⟨status, value | text | _⟩ | cause) | message⟩
  case sent.outcome.response.json =>
    by_cases expected : status = step.expect
    · simp [Turn.body?, expected]
    · simp [Turn.body?, expected]
  all_goals simp [Turn.body?]

theorem Turn.access?_eq_some_iff {t : Turn} {token : String} :
    t.access? = some token ↔ t.Hands token := by
  have keeps : ∀ body, t.step.capture.access? body = some token ↔
      (t.step.capture = .tokens ∨ t.step.capture = .accessToken) ∧ body.ShowsToken token := by
    intro body
    rw [Json.showsToken_iff]
    cases t.step.capture <;> simp [Capture.access?]
  simp only [Turn.access?, Option.bind_eq_some_iff, Turn.body?_eq_some_iff, keeps, Turn.Hands]
  constructor
  · rintro ⟨body, ⟨request, course⟩, kept⟩
    exact ⟨request, body, course, kept⟩
  · rintro ⟨request, body, course, kept⟩
    exact ⟨body, ⟨request, course⟩, kept⟩

private theorem inForce_of_last (ts : List Turn) :
    InForce ts (ts.filterMap Turn.access?).getLast? := by
  have idle : ∀ u : Turn, u.access? = none → ∀ other, ¬u.Hands other := by
    intro u quiet other handed
    rw [Turn.access?_eq_some_iff.2 handed] at quiet
    cases quiet
  cases last : (ts.filterMap Turn.access?).getLast? with
  | none =>
    rw [List.getLast?_eq_none_iff, List.filterMap_eq_nil_iff] at last
    exact .none fun t member => idle t (last t member)
  | some token =>
    -- As for identifiers, what is left comes from a turn behind which every turn gives nothing.
    obtain ⟨earlier, split⟩ := List.getLast?_eq_some_iff.1 last
    obtain ⟨front, rest, rfl, -, final⟩ := List.filterMap_eq_append_iff.1 split
    obtain ⟨quiet, t, after, rfl, -, handed, none⟩ := List.filterMap_eq_cons_iff.1 final
    have whole : front ++ (quiet ++ t :: after) = (front ++ quiet) ++ t :: after := by
      rw [List.append_assoc]
    refine .some whole (Turn.access?_eq_some_iff.1 handed) ?_
    intro u member
    exact idle u (List.filterMap_eq_nil_iff.1 none u member)

private theorem Follows.inForce {setting : Setting} {ts : List Turn} (h : Follows setting {} ts) :
    InForce ts (View.through {} ts).session.access := by
  have held : (View.through {} ts).session.access = (ts.filterMap Turn.access?).getLast? := by
    rw [h.access_through, show ({} : View).session.access = none from rfl, Option.or_none]
  rw [held]
  exact inForce_of_last ts

/-- A request of an anonymous step carries no token, one of any other step the token in force before
it, and so does each deletion, in its only header of that name. -/
theorem requests_carry_token_in_force (setting : Setting) (list : List Phase) :
    let taken := history setting list
    ∃ deletions, (run setting list).state.requests = taken.filterMap Turn.request? ++ deletions ∧
      (∀ before t after request, taken = before ++ t :: after → t.request? = some request →
        ∃ token, InForce before token ∧
          request.authorizations = if t.step.authorized then Http.bearer token else []) ∧
      ∀ request ∈ deletions, request.method = .delete ∧
        ∃ token, InForce taken token ∧ request.authorizations = Http.bearer token := by
  intro taken
  have follows : Follows setting {} taken := follows_history setting list
  refine ⟨_, (amounts_run setting list).requests, ?_, ?_⟩
  · intro before t after request split sent
    rw [split] at follows
    have equal : t = turn setting t.step (View.through {} before) := follows.eq_turn
    have earlier : Follows setting {} before := (follows_append.1 follows).1
    rw [equal] at sent
    obtain ⟨payload, -, rfl⟩ := resolved_turn sent
    refine ⟨_, earlier.inForce, ?_⟩
    rw [Http.authorizations_resolve rfl]
    show Http.bearer (if t.step.authorized then _ else none) = _
    cases t.step.authorized <;> rfl
  · intro request member
    obtain ⟨⟨kind, id⟩, -, rfl⟩ := List.mem_map.1 (List.mem_of_mem_take member)
    refine ⟨rfl, _, follows.inForce, ?_⟩
    rw [← resolve_deletion, Http.authorizations_resolve rfl]
    rfl

end Run

end PanelProbe
