import Mathlib.Tactic.TypeStar
import PanelProbe.Session

/-!
The kinds of resources: their collections lie apart, and one of them is the first in their order to
meet a condition.
-/

set_option autoImplicit false

namespace PanelProbe.ResourceKind

theorem collection_injective : Function.Injective collection := by
  intro first second
  cases first <;> cases second <;> decide

theorem collection_plain (kind : ResourceKind) : '\x7b' ∉ kind.collection.toList := by
  cases kind <;> decide

theorem length_collection (kind : ResourceKind) : kind.collection.toList.length = 12 := by
  cases kind <;> rfl

def IsFirst (condition : ResourceKind → Prop) (kind : ResourceKind) : Prop :=
  ∃ front back, all = front ++ kind :: back ∧ condition kind ∧
    ∀ k ∈ front, ¬condition k

theorem mem_all (kind : ResourceKind) : kind ∈ all := by
  cases kind <;> decide

theorem isFirst_iff {condition : ResourceKind → Prop} [DecidablePred condition]
    {kind : ResourceKind} :
    kind.IsFirst condition ↔ all.find? (fun k => decide (condition k)) = some kind := by
  simp only [IsFirst, List.find?_eq_some_iff_append, decide_eq_true_eq, Bool.not_eq_true',
    decide_eq_false_iff_not]
  constructor
  · rintro ⟨front, back, split, met, first⟩
    exact ⟨met, front, back, split, first⟩
  · rintro ⟨met, front, back, split, first⟩
    exact ⟨front, back, split, met, first⟩

theorem exists_isFirst {condition : ResourceKind → Prop} [DecidablePred condition]
    (h : ∃ kind, condition kind) : ∃ kind : ResourceKind, kind.IsFirst condition := by
  obtain ⟨kind, met⟩ := h
  cases found : all.find? fun k => decide (condition k) with
  | none =>
    have never := List.find?_eq_none.1 found kind kind.mem_all
    exact absurd (decide_eq_true met) never
  | some first => exact ⟨first, isFirst_iff.2 found⟩

theorem IsFirst.unique {condition : ResourceKind → Prop} {kind other : ResourceKind}
    (h : kind.IsFirst condition) (h' : other.IsFirst condition) : kind = other := by
  classical
  rw [isFirst_iff] at h h'
  rw [h] at h'
  exact Option.some.inj h'

theorem IsFirst.holds {condition : ResourceKind → Prop} {kind : ResourceKind}
    (h : kind.IsFirst condition) : condition kind := by
  obtain ⟨-, -, -, met, -⟩ := h
  exact met

end PanelProbe.ResourceKind
