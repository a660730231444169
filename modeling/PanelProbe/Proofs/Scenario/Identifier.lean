import PanelProbe.Proofs.Json.Address
import PanelProbe.Proofs.Json.Number
import PanelProbe.Proofs.Scenario.Capture

/-!
Which values are identifiers, and where the body of a reply to a creation shows one. The identifier
is found unless something else that is not `null` stands at the first place.
-/

set_option autoImplicit false

namespace PanelProbe

namespace Json

/-- A number is an identifier by its text and a string by itself, unless it is empty. -/
inductive Identifies : Json → ResourceId → Prop
  | number (n : Number) : Identifies (.number n) ⟨String.ofList n.chars⟩
  | string {text : String} (filled : text ≠ "") : Identifies (.string text) ⟨text⟩

theorem ofJson?_eq_some_iff {v : Json} {id : ResourceId} :
    ResourceId.ofJson? v = some id ↔ v.Identifies id := by
  constructor
  · intro read
    cases v with
    | null | bool | array | object => cases read
    | number n =>
      cases read
      exact .number n
    | string text =>
      by_cases blank : text = ""
      · subst blank
        cases read
      · rw [ResourceId.ofJson?, if_neg (by simpa using blank)] at read
        cases read
        exact .string blank
  · intro identifies
    cases identifies with
    | number n => rfl
    | string filled => exact if_neg (by simpa using filled)

theorem Identifies.text_ne {v : Json} {id : ResourceId} (h : v.Identifies id) : id.text ≠ "" := by
  cases h with
  | number n =>
    intro blank
    exact n.chars_ne_nil (String.ofList_eq_empty_iff.1 blank)
  | string filled => exact filled

def ShowsAt (body : Json) (address : String) (id : ResourceId) : Prop :=
  ∃ v, body.at? address = some v ∧ v.Identifies id

private theorem showsAt_iff {body : Json} {address : String} {id : ResourceId} :
    (body.at? address).bind ResourceId.ofJson? = some id ↔ body.ShowsAt address id := by
  simp only [Option.bind_eq_some_iff, ofJson?_eq_some_iff, ShowsAt]

/-- The identifier at `data.id`, or else the one at `id`. -/
def ShowsFirst (body : Json) (id : ResourceId) : Prop :=
  body.ShowsAt "data.id" id ∨ (∀ other, ¬body.ShowsAt "data.id" other) ∧ body.ShowsAt "id" id

/-- Behind a value at `data.id` that is neither `null` nor an identifier, there is one at `id`. -/
def Eclipsed (body : Json) : Prop :=
  (∃ v, body.at? "data.id" = some v ∧ v.isNull = false ∧ ∀ id, ¬v.Identifies id) ∧
    ∃ id, body.ShowsAt "id" id

end Json

open Json

theorem createdId?_of_filled {body v : Json} (found : body.at? "data.id" = some v)
    (filled : v.isNull = false) : createdId? body = ResourceId.ofJson? v := by
  rw [createdId?, Capture.createdAddresses, firstValue?_cons, found,
    Option.filter_some_pos (by rw [filled]; rfl), Option.some_or, Option.bind_some]

theorem createdId?_of_blank {body : Json} (blank : ∀ v, body.at? "data.id" = some v → v = .null) :
    createdId? body = (body.at? "id").bind ResourceId.ofJson? := by
  have skipped : (body.at? "data.id").filter (fun found => !found.isNull) = none := by
    cases here : body.at? "data.id" with
    | none => rfl
    | some v =>
      rw [blank v here]
      rfl
  rw [createdId?, Capture.createdAddresses, firstValue?_cons, skipped, Option.none_or,
    firstValue?_cons, firstValue?_nil, Option.or_none]
  cases body.at? "id" with
  | none => rfl
  | some v => cases v <;> rfl

private theorem createdId?_eq_some_iff {body : Json} (clear : ¬body.Eclipsed) {id : ResourceId} :
    createdId? body = some id ↔ body.ShowsFirst id := by
  by_cases blank : ∀ v, body.at? "data.id" = some v → v = .null
  · have absent : ∀ other, ¬body.ShowsAt "data.id" other := by
      rintro other ⟨v, found, identifies⟩
      rw [blank v found] at identifies
      cases identifies
    rw [createdId?_of_blank blank, showsAt_iff, ShowsFirst]
    exact ⟨fun shown => .inr ⟨absent, shown⟩,
      fun shown => shown.elim (fun here => absurd here (absent id)) And.right⟩
  · push Not at blank
    obtain ⟨v, found, something⟩ := blank
    have filled : v.isNull = false := by
      rwa [← Bool.not_eq_true, isNull_iff]
    have here : ∀ other, body.ShowsAt "data.id" other ↔ v.Identifies other := by
      intro other
      rw [← showsAt_iff, found, Option.bind_some, ofJson?_eq_some_iff]
    rw [createdId?_of_filled found filled, ofJson?_eq_some_iff, ShowsFirst, here]
    refine ⟨.inl, fun shown => ?_⟩
    rcases shown with shown | ⟨unfit, below⟩
    · exact shown
    · refine absurd ⟨⟨v, found, filled, ?_⟩, id, below⟩ clear
      intro other identifies
      exact unfit other ((here other).2 identifies)

private theorem createdId?_of_eclipsed {body : Json} (eclipsed : body.Eclipsed) :
    createdId? body = none := by
  obtain ⟨⟨v, found, filled, unfit⟩, -⟩ := eclipsed
  rw [createdId?_of_filled found filled, Option.eq_none_iff_forall_ne_some]
  intro id read
  exact unfit id (ofJson?_eq_some_iff.1 read)

namespace Capture

/-- A creation keeps the first identifier that its body shows, and fails if and only if the body
shows none. -/
def Catches (kind : ResourceKind) (body : Json) (s : Session) : Prop :=
  (∀ id, body.ShowsFirst id →
    (createdId kind).keep? body s = some (s.withId kind (some id))) ∧
  ((createdId kind).keep? body s = none ↔ ∀ id, ¬body.ShowsFirst id)

theorem keep?_createdId (kind : ResourceKind) (body : Json) (s : Session) :
    (createdId kind).keep? body s =
      (createdId? body).map fun id => s.withId kind (some id) := rfl

/-- A creation misses an identifier that its body shows exactly when that is eclipsed, and then it
keeps nothing. -/
theorem catches_iff_not_eclipsed (kind : ResourceKind) (body : Json) (s : Session) :
    (Catches kind body s ↔ ¬body.Eclipsed) ∧
      (body.Eclipsed → (createdId kind).keep? body s = none) := by
  have lost : body.Eclipsed → (createdId kind).keep? body s = none := by
    intro eclipsed
    rw [keep?_createdId, createdId?_of_eclipsed eclipsed, Option.map_none]
  refine ⟨⟨?_, ?_⟩, lost⟩
  · -- What is eclipsed is still the first identifier shown, since nothing at `data.id` is one.
    intro catches eclipsed
    obtain ⟨⟨v, found, -, unfit⟩, id, below⟩ := id eclipsed
    have first : body.ShowsFirst id := by
      refine .inr ⟨?_, below⟩
      rintro other ⟨w, same, identifies⟩
      obtain rfl : v = w := Option.some.inj (found.symm.trans same)
      exact unfit other identifies
    have kept := catches.1 id first
    rw [lost eclipsed] at kept
    cases kept
  · intro clear
    constructor
    · intro id first
      rw [keep?_createdId, (createdId?_eq_some_iff clear).2 first, Option.map_some]
    · rw [keep?_createdId, Option.map_eq_none_iff, Option.eq_none_iff_forall_ne_some]
      exact forall_congr' fun id => not_congr (createdId?_eq_some_iff clear)

/-- An empty string at `data.id` hides the number at `id`: the created user is missed. -/
theorem empty_string_eclipses :
    let body := Json.object [("data", .object [("id", .string "")]), ("id", .int 5)]
    body.ShowsFirst ⟨"5"⟩ ∧ (createdId .user).keep? body {} = none ∧ ¬Catches .user body {} := by
  intro body
  have outer : body.at? "data.id" = some (.string "") := rfl
  have inner : body.at? "id" = some (.int 5) := rfl
  have first : body.ShowsFirst ⟨"5"⟩ := by
    refine .inr ⟨?_, _, inner, .number (.integer 5)⟩
    rintro other ⟨v, found, identifies⟩
    rw [outer] at found
    cases found
    cases identifies with
    | string filled => exact filled rfl
  have missed : (createdId .user).keep? body {} = none := rfl
  refine ⟨first, missed, ?_⟩
  intro catches
  have kept := catches.1 _ first
  rw [missed] at kept
  cases kept

end Capture

end PanelProbe
