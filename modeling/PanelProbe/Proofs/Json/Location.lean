import Mathlib.Data.List.Forall2
import PanelProbe.Proofs.Json.Address
import PanelProbe.Proofs.Text.Cut
import PanelProbe.Proofs.Text.Numeral

/-!
Locations in values and the addresses that name them. What is found at an address is the value at
the location it names; every location whose keys have no point is named by its own address; and
an address behind another one goes on from what is found there.
-/

set_option autoImplicit false

namespace PanelProbe.Json

inductive Branch
  | key (name : String)
  | index (i : Nat)
  deriving DecidableEq, Repr

abbrev Location := List Branch

/-- One value stands directly in another: as the first member of an object under its key, or as an
item of an array. -/
inductive Below : Json → Branch → Json → Prop
  | member (front : Members) (key : String) (value : Json) (back : Members)
      (first : ∀ p ∈ front, p.1 ≠ key) :
      Below (.object (front ++ (key, value) :: back)) (.key key) value
  | item (front : List Json) (value : Json) (back : List Json) :
      Below (.array (front ++ value :: back)) (.index front.length) value

/-- The value that stands at a location. -/
inductive Holds : Json → Location → Json → Prop
  | here (v : Json) : Holds v [] v
  | down {v w below : Json} {branch : Branch} {rest : Location} :
      Below v branch w → Holds w rest below → Holds v (branch :: rest) below

/-! Names of locations. -/

/-- The segment of an address for a branch: the key itself, the decimal digits of the index. -/
def Branch.segment : Branch → List Char
  | .key name => name.toList
  | .index i => Text.digits i

def Location.address (location : Location) : String :=
  String.ofList (['.'].intercalate (location.map Branch.segment))

/-- An index, which is an unsigned 64-bit word here, may also have zeros and then a plus sign in
front. -/
inductive Branch.SpelledAs : Branch → List Char → Prop
  | key (name : String) : SpelledAs (.key name) name.toList
  | index {i : Nat} (word : i < Text.wordBound) (width : Nat) :
      SpelledAs (.index i) (Text.padded width i)
  | signed {i : Nat} (word : i < Text.wordBound) (width : Nat) :
      SpelledAs (.index i) ('+' :: Text.padded width i)

/-- Between the points of the address the branches of the location are spelled in order. -/
def Location.NamedBy (location : Location) (address : String) : Prop :=
  ∃ parts : List (List Char), parts ≠ [] ∧ (∀ part ∈ parts, '.' ∉ part) ∧
    ['.'].intercalate parts = address.toList ∧ List.Forall₂ Branch.SpelledAs location parts

private theorem namedBy_iff {location : Location} {address : String} :
    location.NamedBy address ↔ List.Forall₂ Branch.SpelledAs location (segments address) := by
  constructor
  · rintro ⟨parts, nonempty, absent, joined, spelled⟩
    rwa [segments, Text.splitOn_eq_iff.2 ⟨nonempty, absent, joined⟩]
  · intro spelled
    obtain ⟨nonempty, absent, joined⟩ := Text.splitOn_eq_iff.1 (Eq.refl (segments address))
    exact ⟨segments address, nonempty, absent, joined, spelled⟩

private theorem spelledAs_key_iff {name : String} {segment : List Char} :
    (Branch.key name).SpelledAs segment ↔ name = String.ofList segment := by
  constructor
  · rintro ⟨⟩
    exact String.ofList_toList.symm
  · rintro rfl
    simpa using Branch.SpelledAs.key (String.ofList segment)

private theorem spelledAs_index_iff {i : Nat} {segment : List Char} :
    (Branch.index i).SpelledAs segment ↔ Text.word? segment = some i := by
  rw [Text.word?_eq_some_iff]
  constructor
  · rintro (_ | ⟨word, width⟩ | ⟨word, width⟩)
    · exact ⟨word, width, .inl rfl⟩
    · exact ⟨word, width, .inr rfl⟩
  · rintro ⟨word, width, rfl | rfl⟩
    · exact .index word width
    · exact .signed word width

/-! What is found at an address. -/

private theorem below_object_iff {members : Members} {branch : Branch} {w : Json} :
    (object members).Below branch w ↔
      ∃ key, branch = .key key ∧ members.lookup key = some w := by
  simp only [List.lookup_eq_some_iff, bne_iff_ne]
  constructor
  · intro below
    cases below with
    | member front key value back first =>
      exact ⟨key, rfl, front, back, rfl, fun p member => (first p member).symm⟩
  · rintro ⟨key, rfl, front, back, rfl, first⟩
    exact .member front key w back fun p member => (first p member).symm

private theorem below_array_iff {items : List Json} {branch : Branch} {w : Json} :
    (array items).Below branch w ↔ ∃ i, branch = .index i ∧ items[i]? = some w := by
  constructor
  · intro below
    cases below with
    | item front value back => exact ⟨front.length, rfl, by simp⟩
  · rintro ⟨i, rfl, found⟩
    obtain ⟨inside, rfl⟩ := List.getElem?_eq_some_iff.1 found
    -- An item is as far from the front as there are items before it.
    have split : items = items.take i ++ items[i] :: items.drop (i + 1) := by simp
    have front : (items.take i).length = i := List.length_take_of_le inside.le
    have below := Below.item (items.take i) items[i] (items.drop (i + 1))
    rwa [← split, front] at below

private theorem child?_eq_some_iff {v w : Json} {segment : List Char} :
    v.child? segment = some w ↔ ∃ branch, branch.SpelledAs segment ∧ v.Below branch w := by
  cases v with
  | null | bool | number | string =>
    -- Below a scalar there is nothing, on either side.
    constructor
    · rintro ⟨⟩
    · rintro ⟨branch, -, ⟨⟩⟩
  | array items =>
    simp only [child?, Option.bind_eq_some_iff, ← spelledAs_index_iff, below_array_iff]
    constructor
    · rintro ⟨i, spelled, found⟩
      exact ⟨_, spelled, i, rfl, found⟩
    · rintro ⟨_, spelled, i, rfl, found⟩
      exact ⟨i, spelled, found⟩
  | object members =>
    simp only [child?, below_object_iff]
    constructor
    · intro found
      exact ⟨_, spelledAs_key_iff.2 rfl, _, rfl, found⟩
    · rintro ⟨_, spelled, key, rfl, found⟩
      rwa [← spelledAs_key_iff.1 spelled]

private theorem foldlM_child?_eq_some_iff {v w : Json} {parts : List (List Char)} :
    parts.foldlM child? v = some w ↔
      ∃ location, List.Forall₂ Branch.SpelledAs location parts ∧ v.Holds location w := by
  -- The value that the segments start from changes with every step down.
  induction parts generalizing v with
  | nil =>
    constructor
    · intro same
      cases same
      exact ⟨[], .nil, .here _⟩
    · rintro ⟨_, ⟨⟩, ⟨⟩⟩
      rfl
  | cons part rest ih =>
    rw [List.foldlM_cons]
    constructor
    · intro found
      obtain ⟨x, step, found⟩ := Option.bind_eq_some_iff.1 found
      obtain ⟨branch, spelled, below⟩ := child?_eq_some_iff.1 step
      obtain ⟨location, others, holds⟩ := ih.1 found
      exact ⟨branch :: location, .cons spelled others, .down below holds⟩
    · rintro ⟨location, spelled, holds⟩
      cases spelled with
      | cons first others =>
        cases holds with
        | down below holds =>
          exact Option.bind_eq_some_iff.2
            ⟨_, child?_eq_some_iff.2 ⟨_, first, below⟩, ih.2 ⟨_, others, holds⟩⟩

private theorem at?_eq_some_iff {v w : Json} {address : String} :
    v.at? address = some w ↔
      ∃ location : Location, location.NamedBy address ∧ v.Holds location w := by
  simp only [at?, foldlM_child?_eq_some_iff, namedBy_iff]

private theorem at?_append (v : Json) (first second : String) :
    v.at? (first ++ "." ++ second) = (v.at? first).bind fun w => w.at? second := by
  have parts : segments (first ++ "." ++ second) = segments first ++ segments second := by
    have joined : (first ++ "." ++ second).toList = first.toList ++ '.' :: second.toList := by simp
    rw [segments, joined]
    exact List.splitOn_append_cons_self first.toList second.toList
  rw [at?, parts, List.foldlM_append]
  rfl

/-! Arrays that are not too long. -/

mutual

def longest : Json → Nat
  | .array items => max items.length (itemsLongest items)
  | .object members => membersLongest members
  | _ => 0

def itemsLongest : List Json → Nat
  | [] => 0
  | v :: rest => max (longest v) (itemsLongest rest)

def membersLongest : List (String × Json) → Nat
  | [] => 0
  | (_, v) :: rest => max (longest v) (membersLongest rest)

end

private theorem longest_le_items {items : List Json} {w : Json} (member : w ∈ items) :
    w.longest ≤ itemsLongest items := by
  induction items with
  | nil => cases member
  | cons v rest ih =>
    rw [itemsLongest]
    obtain rfl | later := List.mem_cons.1 member
    · exact le_max_left _ _
    · exact (ih later).trans (le_max_right _ _)

private theorem longest_le_members {members : Members} {p : String × Json} (member : p ∈ members) :
    p.2.longest ≤ membersLongest members := by
  induction members with
  | nil => cases member
  | cons q rest ih =>
    rw [membersLongest]
    obtain rfl | later := List.mem_cons.1 member
    · exact le_max_left _ _
    · exact (ih later).trans (le_max_right _ _)

private theorem Below.longest_le {v w : Json} {branch : Branch} (below : v.Below branch w) :
    w.longest ≤ v.longest := by
  cases below with
  | member front key value back first =>
    have inside : (key, w) ∈ front ++ (key, w) :: back := by simp
    rw [longest]
    exact longest_le_members inside
  | item front value back =>
    have inside : w ∈ front ++ w :: back := by simp
    exact (longest_le_items inside).trans (le_max_right _ _)

private theorem Below.index_lt {v w : Json} {i : Nat} (below : v.Below (.index i) w) :
    i < v.longest := by
  cases below with
  | item front value back =>
    have inside : front.length < (front ++ w :: back).length := by simp
    exact inside.trans_le (le_max_left _ _)

private theorem Holds.index_lt {v w : Json} {location : Location} {i : Nat}
    (holds : v.Holds location w) (member : .index i ∈ location) : i < v.longest := by
  induction holds with
  | here v => cases member
  | down below holds ih =>
    obtain rfl | later := List.mem_cons.1 member
    · exact below.index_lt
    · exact (ih later).trans_le below.longest_le

/-! The address of a location. -/

private theorem Branch.spelledAs_segment {branch : Branch}
    (word : ∀ i, branch = .index i → i < Text.wordBound) : branch.SpelledAs branch.segment := by
  cases branch with
  | key name => exact .key name
  | index i => simpa [Text.padded, segment] using SpelledAs.index (word i rfl) 0

theorem Branch.notMem_segment {branch : Branch}
    (plain : ∀ name, branch = .key name → '.' ∉ name.toList) : '.' ∉ branch.segment := by
  cases branch with
  | key name => exact plain name rfl
  | index i => exact Text.notMem_digits (by decide) i

private theorem Location.namedBy_address {location : Location} (nonempty : location ≠ [])
    (plain : ∀ name, .key name ∈ location → '.' ∉ name.toList)
    (words : ∀ i, .index i ∈ location → i < Text.wordBound) :
    location.NamedBy location.address := by
  refine ⟨location.map Branch.segment, by simpa using nonempty, ?_, ?_, ?_⟩
  · intro part member
    obtain ⟨branch, inside, rfl⟩ := List.mem_map.1 member
    exact Branch.notMem_segment fun name same => plain name (same ▸ inside)
  · exact String.toList_ofList.symm
  · rw [List.forall₂_map_right_iff, List.forall₂_same]
    intro branch inside
    exact Branch.spelledAs_segment fun i same => words i (same ▸ inside)

/-- Where no array is too long for indices that are words, the address of a location without points
in its keys finds the value that stands there. What any address finds stands at a location that it
names, and with a point between them two addresses are followed one after the other. -/
theorem locations_addressed (body : Json) :
    (body.longest < 2 ^ 64 → ∀ (location : Location) (v : Json), location ≠ [] →
      (∀ name, .key name ∈ location → '.' ∉ name.toList) → body.Holds location v →
      body.at? location.address = some v) ∧
    (∀ (address : String) (v : Json), body.at? address = some v ↔
      ∃ location : Location, location.NamedBy address ∧ body.Holds location v) ∧
    ∀ first second : String, body.at? (first ++ "." ++ second) =
      (body.at? first).bind fun v => v.at? second := by
  refine ⟨?_, fun address v => at?_eq_some_iff, body.at?_append⟩
  intro short location v nonempty plain holds
  have words : ∀ i, .index i ∈ location → i < Text.wordBound :=
    fun i member => (holds.index_lt member).trans short
  exact at?_eq_some_iff.2 ⟨location, location.namedBy_address nonempty plain words, holds⟩

/-- Digits as a key, an empty key, and an index with a sign and a zero in front. -/
theorem digit_key_addressed :
    let inner := Json.object [("0", .object [("", .array [.null, .int 5])])]
    let body := Json.object [("data", .array [.null, inner])]
    let location : Location := [.key "data", .index 1, .key "0", .key "", .index 1]
    body.longest < 2 ^ 64 ∧ location ≠ [] ∧
      (∀ name, .key name ∈ location → '.' ∉ name.toList) ∧ body.Holds location (.int 5) ∧
      location.address = "data.1.0..1" ∧ body.at? "data.1.0..1" = some (.int 5) ∧
      location.NamedBy "data.+01.0..1" ∧ body.at? "data.+01.0..1" = some (.int 5) := by
  intro inner body location
  have short : body.longest < 2 ^ 64 := by decide
  have nonempty : location ≠ [] := List.cons_ne_nil _ _
  have plain : ∀ name, .key name ∈ location → '.' ∉ name.toList := by
    intro name member
    simp only [location, List.mem_cons, Branch.key.injEq, reduceCtorEq, List.not_mem_nil, or_false,
      false_or] at member
    obtain rfl | rfl | rfl := member <;> decide
  have holds : body.Holds location (.int 5) :=
    .down (.member [] "data" _ [] (by simp)) (.down (.item [.null] _ [])
      (.down (.member [] "0" _ [] (by simp)) (.down (.member [] "" _ [] (by simp))
        (.down (.item [.null] _ []) (.here _)))))
  have named : location.NamedBy "data.+01.0..1" := by
    refine namedBy_iff.2 ?_
    have word : 1 < Text.wordBound := by decide
    exact .cons (.key "data") (.cons (.signed word 2) (.cons (.key "0") (.cons (.key "")
      (.cons (.index word 0) .nil))))
  obtain ⟨reached, found, -⟩ := locations_addressed body
  exact ⟨short, nonempty, plain, holds, by decide,
    reached short location (.int 5) nonempty plain holds, named,
    (found _ _).2 ⟨location, named, holds⟩⟩

end PanelProbe.Json
