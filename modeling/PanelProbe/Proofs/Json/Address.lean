import PanelProbe.Json.Address

/-!
What is found at addresses: the first nonempty string stands at the first address that has one.
-/

set_option autoImplicit false

namespace PanelProbe.Json

private theorem text?_eq_some_iff {v : Json} {text : String} :
    v.text? = some text ↔ v = .string text := by
  cases v <;> simp [text?]

theorem isNull_iff {v : Json} : v.isNull = true ↔ v = .null := by
  cases v <;> simp [isNull]

theorem textAt_iff {v : Json} {address text : String} :
    (v.at? address).bind text? = some text ↔ v.at? address = some (.string text) := by
  simp only [Option.bind_eq_some_iff, text?_eq_some_iff, exists_eq_right]

theorem firstText?_nil (v : Json) : v.firstText? [] = none := rfl

theorem firstText?_cons {v : Json} {address : String} {rest : List String} {text : String} :
    v.firstText? (address :: rest) = some text ↔
      v.at? address = some (.string text) ∧ text ≠ "" ∨
        (∀ other, v.at? address = some (.string other) → other = "") ∧
          v.firstText? rest = some text := by
  cases here : (v.at? address).bind text? with
  | none =>
    have absent : ∀ other, v.at? address ≠ some (.string other) := by
      intro other same
      rw [textAt_iff.2 same] at here
      cases here
    have later : v.firstText? (address :: rest) = v.firstText? rest := by
      rw [firstText?, List.filterMap_cons_none (f := fun a => (v.at? a).bind text?) here]
      rfl
    simp [later, absent]
  | some first =>
    have place : v.at? address = some (.string first) := textAt_iff.1 here
    have tried : v.firstText? (address :: rest) =
        if first = "" then v.firstText? rest else some first := by
      rw [firstText?, List.filterMap_cons_some (f := fun a => (v.at? a).bind text?) here,
        List.find?_cons]
      by_cases blank : first = ""
      · rw [if_pos blank, blank]
        rfl
      · have filled : first.isEmpty = false := by simpa using blank
        simp [blank, filled]
    rw [tried, place]
    by_cases blank : first = ""
    · subst blank
      simp +contextual [eq_comm]
    · simp only [if_neg blank, Option.some.injEq, Json.string.injEq]
      constructor
      · rintro rfl
        exact .inl ⟨rfl, blank⟩
      · rintro (⟨same, -⟩ | ⟨blanks, -⟩)
        · exact same
        · exact absurd (blanks first rfl) blank

theorem at_of_firstText? {v : Json} {addresses : List String} {text : String}
    (h : v.firstText? addresses = some text) :
    text ≠ "" ∧ ∃ address ∈ addresses, v.at? address = some (.string text) := by
  have filled : text ≠ "" := by simpa using List.find?_some h
  obtain ⟨address, member, found⟩ := List.mem_filterMap.1 (List.mem_of_find?_eq_some h)
  exact ⟨filled, address, member, textAt_iff.1 found⟩

theorem firstText?_eq_none_iff {v : Json} {addresses : List String} :
    v.firstText? addresses = none ↔
      ∀ address ∈ addresses, ∀ text, v.at? address = some (.string text) → text = "" := by
  simp only [firstText?, List.find?_eq_none, List.mem_filterMap, textAt_iff, Bool.not_eq_true',
    Bool.not_eq_false, String.isEmpty_iff]
  constructor
  · intro blank address member text place
    exact blank text ⟨address, member, place⟩
  · rintro blank text ⟨address, member, place⟩
    exact blank address member text place

theorem firstValue?_nil (v : Json) : v.firstValue? [] = none := rfl

theorem firstValue?_cons (v : Json) (address : String) (rest : List String) :
    v.firstValue? (address :: rest) =
      ((v.at? address).filter fun found => !found.isNull).or (v.firstValue? rest) := by
  cases here : v.at? address with
  | none =>
    rw [firstValue?, List.filterMap_cons_none here]
    rfl
  | some found =>
    rw [firstValue?, List.filterMap_cons_some here, List.find?_cons]
    cases blank : found.isNull with
    | false =>
      rw [Option.filter_some_pos (by rw [blank]; rfl)]
      rfl
    | true =>
      rw [Option.filter_some_neg (by rw [blank]; decide), Option.none_or]
      rfl

/-! Members. -/

private theorem Members.lookup_insert_self (key : String) (value : Json) (members : Members) :
    (Members.insert key value members).lookup key = some value := by
  induction members with
  | nil => exact List.lookup_cons_self
  | cons p rest ih =>
    obtain ⟨k, v⟩ := p
    rw [Members.insert]
    split
    · exact List.lookup_cons_self
    · split
      · exact List.lookup_cons_self
      · rename_i apart
        rw [List.lookup_cons, Bool.eq_false_iff.2 apart]
        exact ih

private theorem Members.lookup_insert_of_ne {key name : String} (apart : name ≠ key) (value : Json)
    (members : Members) : (Members.insert key value members).lookup name = members.lookup name := by
  have other : (name == key) = false := beq_eq_false_iff_ne.2 apart
  induction members with
  | nil => rw [Members.insert, List.lookup_cons, other]
  | cons p rest ih =>
    obtain ⟨k, v⟩ := p
    rw [Members.insert]
    split
    · rw [List.lookup_cons, other]
    · split
      · rename_i replaced
        rw [List.lookup_cons, List.lookup_cons, other, ← beq_iff_eq.1 replaced, other]
      · rw [List.lookup_cons, List.lookup_cons, ih]

theorem lookup_map_snd {α β : Type} (f : α → β) (key : String) (pairs : List (String × α)) :
    (pairs.map fun p => (p.1, f p.2)).lookup key = (pairs.lookup key).map f := by
  induction pairs with
  | nil => rfl
  | cons p rest ih =>
    obtain ⟨name, value⟩ := p
    rw [List.map_cons, List.lookup_cons, List.lookup_cons]
    cases key == name with
    | true => rfl
    | false => exact ih

theorem Members.lookup_ofList (pairs : Members) (key : String) :
    (Members.ofList pairs).lookup key = pairs.reverse.lookup key := by
  have onto : ∀ members : Members,
      (pairs.foldl (fun members p => Members.insert p.1 p.2 members) members).lookup key =
        (pairs.reverse.lookup key).or (members.lookup key) := by
    induction pairs with
    | nil => exact fun members => rfl
    | cons p rest ih =>
      obtain ⟨name, value⟩ := p
      intro members
      rw [List.foldl_cons, ih, List.reverse_cons, List.lookup_append, Option.or_assoc]
      by_cases same : key = name
      · subst same
        rw [lookup_insert_self, List.lookup_cons_self, Option.some_or]
      · rw [lookup_insert_of_ne same, List.lookup_cons, beq_eq_false_iff_ne.2 same, List.lookup_nil,
          Option.none_or]
  rw [Members.ofList, onto, List.lookup_nil, Option.or_none]

theorem Members.lookup_ofList_append (front : Members) (key : String) (value : Json)
    {back : Members} (last : ∀ p ∈ back, p.1 ≠ key) :
    (Members.ofList (front ++ (key, value) :: back)).lookup key = some value := by
  have behind : back.reverse.lookup key = none := by
    rw [List.lookup_eq_none_iff]
    intro p member
    simpa using (last p (List.mem_reverse.1 member)).symm
  rw [lookup_ofList, List.reverse_append, List.reverse_cons, List.append_assoc, List.lookup_append,
    behind, Option.none_or, List.singleton_append, List.lookup_cons_self]

theorem at?_key {key : String} (whole : segments key = [key.toList]) (members : Members) :
    (object members).at? key = members.lookup key := by
  rw [at?, whole]
  simp [child?]

theorem at?_ofMembers {key : String} (whole : segments key = [key.toList]) (front : Members)
    (value : Json) {back : Members} (last : ∀ p ∈ back, p.1 ≠ key) :
    (ofMembers (front ++ (key, value) :: back)).at? key = some value := by
  rw [ofMembers, at?_key whole, Members.lookup_ofList_append front key value last]

theorem at?_keys {address outer inner : String} (parts : segments address =
    [outer.toList, inner.toList]) {members below : Members}
    (found : members.lookup outer = some (.object below)) :
    (object members).at? address = below.lookup inner := by
  rw [at?, parts]
  simp [child?, found]

end PanelProbe.Json
