import PanelProbe.Proofs.Session.Slot
import PanelProbe.Proofs.Text.Occurrence

/-!
Templates begin with what stands before their first placeholder, and so does every text that is
rendered from them.
-/

set_option autoImplicit false

namespace PanelProbe

theorem ResourceKind.placeholder_toList (kind : ResourceKind) :
    ∃ rest, kind.placeholder.toList = '\x7b' :: rest := by
  cases kind <;> exact ⟨_, rfl⟩

def opening (template : String) : List Char :=
  template.toList.takeWhile (· ≠ '\x7b')

namespace Session

variable (s : Session)

private theorem substitute_append {plain : List Char} (absent : '\x7b' ∉ plain)
    (value : ResourceId → String) (rest : List Char) :
    s.substitute value (String.ofList (plain ++ rest)) =
      String.ofList plain ++ s.substitute value (String.ofList rest) := by
  unfold substitute
  generalize ResourceKind.all = kinds
  induction kinds generalizing rest with
  | nil => simp
  | cons kind more ih =>
    simp only [List.foldl_cons]
    cases s.id? kind with
    | none => exact ih rest
    | some id =>
      obtain ⟨name, placeholder⟩ := kind.placeholder_toList
      simp only [placeholder, String.toList_ofList, Text.replace_append absent]
      exact ih _

theorem substitute_plain {template : String} (absent : '\x7b' ∉ template.toList)
    (value : ResourceId → String) : s.substitute value template = template := by
  have empty : s.substitute value "" = "" := by
    unfold substitute
    generalize ResourceKind.all = kinds
    induction kinds with
    | nil => rfl
    | cons kind more ih =>
      rw [List.foldl_cons]
      cases s.id? kind with
      | none => exact ih
      | some id => exact ih
  have whole := s.substitute_append absent value []
  rw [List.append_nil, String.ofList_toList] at whole
  rw [whole, String.ofList_nil, empty, String.append_empty]

theorem substitute_of_empty {s : Session} (empty : ∀ kind, s.id? kind = none)
    (value : ResourceId → String) (template : String) : s.substitute value template = template := by
  unfold substitute
  generalize ResourceKind.all = kinds
  induction kinds with
  | nil => rfl
  | cons kind more ih =>
    rw [List.foldl_cons, empty kind]
    exact ih

theorem opening_isPrefix_renderPath (template : String) :
    opening template <+: (s.renderPath template).toList := by
  have absent : '\x7b' ∉ opening template := by
    intro member
    have plain := List.all_eq_true.1 List.all_takeWhile _ member
    exact of_decide_eq_true plain rfl
  have split : template = String.ofList
      (opening template ++ template.toList.dropWhile (· ≠ '\x7b')) := by
    rw [opening, List.takeWhile_append_dropWhile, String.ofList_toList]
  rw [renderPath]
  nth_rewrite 2 [split]
  rw [s.substitute_append absent, String.toList_append, String.toList_ofList]
  exact List.prefix_append _ _

end Session

end PanelProbe
