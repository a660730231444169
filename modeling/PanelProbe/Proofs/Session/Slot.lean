import Mathlib.Data.List.Nodup
import PanelProbe.Session

/-!
The slots of a session: what is held for a kind after an identifier was put in or taken out, and
what is held altogether.
-/

set_option autoImplicit false

namespace PanelProbe.Session

@[simp] theorem id?_withId_self (s : Session) (kind : ResourceKind) (id : Option ResourceId) :
    (s.withId kind id).id? kind = id := by
  cases kind <;> rfl

theorem id?_withId_of_ne {kind other : ResourceKind} (h : other ≠ kind) (s : Session)
    (id : Option ResourceId) : (s.withId kind id).id? other = s.id? other := by
  cases kind <;> cases other <;> first | rfl | exact absurd rfl h

@[simp] theorem access_withId (s : Session) (kind : ResourceKind) (id : Option ResourceId) :
    (s.withId kind id).access = s.access := by
  cases kind <;> rfl

@[simp] theorem refresh_withId (s : Session) (kind : ResourceKind) (id : Option ResourceId) :
    (s.withId kind id).refresh = s.refresh := by
  cases kind <;> rfl

def held (s : Session) (kinds : List ResourceKind) : List (ResourceKind × ResourceId) :=
  kinds.filterMap fun kind => (s.id? kind).map (kind, ·)

theorem held_cons_of_none {s : Session} {kind : ResourceKind} (h : s.id? kind = none)
    (rest : List ResourceKind) : s.held (kind :: rest) = s.held rest := by
  simp [held, h]

theorem held_cons_of_some {s : Session} {kind : ResourceKind} {id : ResourceId}
    (h : s.id? kind = some id) (rest : List ResourceKind) :
    s.held (kind :: rest) = (kind, id) :: s.held rest := by
  simp [held, h]

theorem held_withId_of_not_mem {kind : ResourceKind} {kinds : List ResourceKind}
    (h : kind ∉ kinds) (s : Session) (id : Option ResourceId) :
    (s.withId kind id).held kinds = s.held kinds := by
  apply List.filterMap_congr
  intro other member
  have apart : other ≠ kind := by
    rintro rfl
    exact h member
  rw [id?_withId_of_ne apart]

theorem mem_held {s : Session} {kinds : List ResourceKind} {kind : ResourceKind}
    {id : ResourceId} : (kind, id) ∈ s.held kinds ↔ kind ∈ kinds ∧ s.id? kind = some id := by
  simp only [held, List.mem_filterMap, Option.map_eq_some_iff, Prod.mk.injEq]
  constructor
  · rintro ⟨k, member, i, found, rfl, rfl⟩
    exact ⟨member, found⟩
  · rintro ⟨member, found⟩
    exact ⟨kind, member, id, found, rfl, rfl⟩

theorem held_eq_map {s : Session} {ids : ResourceKind → ResourceId}
    (filled : ∀ kind, s.id? kind = some (ids kind)) (kinds : List ResourceKind) :
    s.held kinds = kinds.map fun kind => (kind, ids kind) := by
  rw [held, ← List.filterMap_eq_map]
  apply List.filterMap_congr
  intro kind member
  rw [filled kind]
  rfl

theorem map_fst_held (s : Session) (kinds : List ResourceKind) :
    (s.held kinds).map Prod.fst = kinds.filter fun kind => (s.id? kind).isSome := by
  induction kinds with
  | nil => rfl
  | cons kind rest ih =>
    cases slot : s.id? kind with
    | none => rw [held_cons_of_none slot, ih, List.filter_cons_of_neg (by simp [slot])]
    | some id =>
      rw [held_cons_of_some slot, List.map_cons, ih, List.filter_cons_of_pos (by simp [slot])]

theorem nodup_map_fst_held (s : Session) {kinds : List ResourceKind} (distinct : kinds.Nodup) :
    ((s.held kinds).map Prod.fst).Nodup := by
  rw [map_fst_held]
  exact distinct.filter _

theorem nodup_held (s : Session) {kinds : List ResourceKind} (distinct : kinds.Nodup) :
    (s.held kinds).Nodup :=
  (s.nodup_map_fst_held distinct).of_map _

def without (s : Session) (targets : List (ResourceKind × ResourceId)) : Session :=
  targets.foldl (fun s target => s.withId target.1 none) s

theorem without_held (s : Session) :
    s.without (s.held ResourceKind.all) = { access := s.access, refresh := s.refresh } := by
  obtain ⟨access, refresh, user, node, plan⟩ := s
  cases user <;> cases node <;> cases plan <;> rfl

theorem id?_without (s : Session) (targets : List (ResourceKind × ResourceId))
    (kind : ResourceKind) :
    (s.without targets).id? kind = if kind ∈ targets.map Prod.fst then none else s.id? kind := by
  induction targets generalizing s with
  | nil => rfl
  | cons target rest ih =>
    have step : s.without (target :: rest) = (s.withId target.1 none).without rest := rfl
    rw [step, ih, List.map_cons]
    by_cases later : kind ∈ rest.map Prod.fst
    · simp [later]
    · by_cases here : kind = target.1
      · simp [here]
      · simp [later, here, id?_withId_of_ne here]

theorem id?_without_of_held {s : Session} {kinds : List ResourceKind}
    {targets : List (ResourceKind × ResourceId)} (gone : s.held kinds ⊆ targets)
    {kind : ResourceKind} (member : kind ∈ kinds) : (s.without targets).id? kind = none := by
  rw [id?_without]
  cases slot : s.id? kind with
  | none => simp
  | some id =>
    have taken : (kind, id) ∈ targets := gone (mem_held.2 ⟨member, slot⟩)
    exact if_pos (List.mem_map.2 ⟨_, taken, rfl⟩)

theorem held_without {s : Session} {kinds : List ResourceKind} (distinct : kinds.Nodup)
    {first second : List (ResourceKind × ResourceId)} (split : s.held kinds = first ++ second) :
    (s.without first).held kinds = second := by
  obtain ⟨front, back, rfl, rfl, rfl⟩ := List.filterMap_eq_append_iff.1 split
  have gone : (s.without (s.held front)).held front = [] := by
    rw [held, List.filterMap_eq_nil_iff]
    intro kind member
    rw [id?_without_of_held (List.Subset.refl _) member]
    rfl
  have left : (s.without (s.held front)).held back = s.held back := by
    apply List.filterMap_congr
    intro kind member
    have apart : kind ∉ (s.held front).map Prod.fst := by
      rw [map_fst_held]
      intro earlier
      exact (List.nodup_append.1 distinct).2.2 kind (List.mem_of_mem_filter earlier) kind member rfl
    rw [id?_without, if_neg apart]
  have parts : (s.without (s.held front)).held (front ++ back) =
      (s.without (s.held front)).held front ++ (s.without (s.held front)).held back :=
    List.filterMap_append
  exact parts.trans (by rw [gone, left]; rfl)

theorem exists_kind_of_held {s : Session} {kinds : List ResourceKind} {kind : ResourceKind}
    {id : ResourceId} {first second : List (ResourceKind × ResourceId)}
    (split : s.held kinds = first ++ (kind, id) :: second) :
    ∃ front back, kinds = front ++ kind :: back ∧ s.held front = first := by
  obtain ⟨passed, rest, rfl, rfl, behind⟩ := List.filterMap_eq_append_iff.1 split
  obtain ⟨idle, found, back, rfl, none, here, -⟩ := List.filterMap_eq_cons_iff.1 behind
  obtain ⟨_, _, same⟩ := Option.map_eq_some_iff.1 here
  obtain rfl : found = kind := congrArg Prod.fst same
  refine ⟨passed ++ idle, back, by rw [List.append_assoc], ?_⟩
  rw [held, List.filterMap_append, List.filterMap_eq_nil_iff.2 none, List.append_nil]

end PanelProbe.Session
