import PanelProbe.Proofs.Session.Slot
import PanelProbe.Scenario.Step

/-!
What a capture stores, field by field, told apart from the session it is stored in: each field is
the one that the body gives, or stays what it was.
-/

set_option autoImplicit false

namespace PanelProbe

def createdId? (body : Json) : Option ResourceId :=
  (body.firstValue? Capture.createdAddresses).bind ResourceId.ofJson?

def listedId? (body : Json) : Option ResourceId :=
  (body.at? Capture.firstListedAddress).bind ResourceId.ofJson?

namespace Capture

def id? (kind : ResourceKind) : Capture → Json → Option ResourceId
  | .createdId k, body => if k = kind then createdId? body else none
  | .firstListedId k, body => if k = kind then listedId? body else none
  | _, _ => none

def access? : Capture → Json → Option String
  | .tokens, body | .accessToken, body => body.firstText? accessAddresses
  | _, _ => none

def refresh? : Capture → Json → Option String
  | .tokens, body | .accessToken, body =>
    (body.firstText? accessAddresses).bind fun _ => body.firstText? refreshAddresses
  | _, _ => none

/-- The session after a capture; a body that lacks what is asked for leaves it as it was. -/
def kept (capture : Capture) (body : Json) (s : Session) : Session :=
  (capture.keep? body s).getD s

theorem eq_of_id? {capture : Capture} {kind : ResourceKind} {body : Json} {id : ResourceId}
    (h : capture.id? kind body = some id) :
    (capture = .createdId kind ∧ createdId? body = some id) ∨
      (capture = .firstListedId kind ∧ listedId? body = some id) := by
  cases capture with
  | nothing | tokens | accessToken => cases h
  | createdId k =>
    simp only [id?, Option.ite_none_right_eq_some] at h
    obtain ⟨rfl, found⟩ := h
    exact .inl ⟨rfl, found⟩
  | firstListedId k =>
    simp only [id?, Option.ite_none_right_eq_some] at h
    obtain ⟨rfl, found⟩ := h
    exact .inr ⟨rfl, found⟩

theorem id?_kept (capture : Capture) (body : Json) (s : Session) (kind : ResourceKind) :
    (capture.kept body s).id? kind = (capture.id? kind body).or (s.id? kind) := by
  cases capture with
  | nothing => rfl
  | tokens | accessToken =>
    simp only [kept, keep?, id?, Option.none_or]
    cases body.firstText? accessAddresses with
    | none => rfl
    | some access =>
      cases body.firstText? refreshAddresses <;> cases kind <;> rfl
  | createdId k =>
    simp only [kept, keep?, id?, createdId?]
    cases (body.firstValue? createdAddresses).bind ResourceId.ofJson? with
    | none => simp
    | some id =>
      by_cases h : k = kind
      · subst h
        simp
      · simp [h, Session.id?_withId_of_ne (Ne.symm h)]
  | firstListedId k =>
    simp only [kept, keep?, id?, listedId?]
    cases (body.at? firstListedAddress).bind ResourceId.ofJson? with
    | none => simp
    | some id =>
      by_cases h : k = kind
      · subst h
        simp
      · simp [h, Session.id?_withId_of_ne (Ne.symm h)]

theorem access_kept (capture : Capture) (body : Json) (s : Session) :
    (capture.kept body s).access = (capture.access? body).or s.access := by
  cases capture with
  | nothing => rfl
  | tokens | accessToken =>
    simp only [kept, keep?, access?]
    cases body.firstText? accessAddresses with
    | none => rfl
    | some access => cases body.firstText? refreshAddresses <;> rfl
  | createdId k =>
    simp only [kept, keep?, access?]
    cases (body.firstValue? createdAddresses).bind ResourceId.ofJson? <;> simp
  | firstListedId k =>
    simp only [kept, keep?, access?]
    cases (body.at? firstListedAddress).bind ResourceId.ofJson? <;> simp

theorem refresh_kept (capture : Capture) (body : Json) (s : Session) :
    (capture.kept body s).refresh = (capture.refresh? body).or s.refresh := by
  cases capture with
  | nothing => rfl
  | tokens | accessToken =>
    simp only [kept, keep?, refresh?]
    cases body.firstText? accessAddresses with
    | none => rfl
    | some access => cases body.firstText? refreshAddresses <;> rfl
  | createdId k =>
    simp only [kept, keep?, refresh?]
    cases (body.firstValue? createdAddresses).bind ResourceId.ofJson? <;> simp
  | firstListedId k =>
    simp only [kept, keep?, refresh?]
    cases (body.at? firstListedAddress).bind ResourceId.ofJson? <;> simp

end Capture

end PanelProbe
