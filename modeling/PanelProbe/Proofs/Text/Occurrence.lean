import Mathlib.Data.List.Infix
import PanelProbe.Text.Replace

/-!
Occurrences of a pattern are infixes of the text. Replacing them leaves alone what stands before the
first character that could begin one, and changes every text that has one, unless the pattern stands
for itself.
-/

set_option autoImplicit false

namespace PanelProbe.Text

theorem occursIn_iff_isInfix (pattern text : List Char) :
    occursIn pattern text = true ↔ pattern <:+: text := by
  induction text with
  | nil => simp [occursIn]
  | cons c rest ih =>
    rw [occursIn, Bool.or_eq_true, ih, List.infix_cons_iff, List.isPrefixOf_iff_prefix]

theorem isInfix_append_iff {first : Char} {plain : List Char} (absent : first ∉ plain)
    (pattern rest : List Char) :
    first :: pattern <:+: plain ++ rest ↔ first :: pattern <:+: rest := by
  induction plain with
  | nil => rfl
  | cons c more ih =>
    simp only [List.mem_cons, not_or] at absent
    obtain ⟨apart, absent⟩ := absent
    rw [List.cons_append, List.infix_cons_iff, ih absent]
    constructor
    · rintro (here | later)
      · exact absurd (List.cons_prefix_cons.1 here).1 apart
      · exact later
    · exact .inr

theorem replace_append_of_clear {pattern text rest : List Char}
    (clear : ∀ tail, tail ≠ [] → tail <:+ text → ¬pattern <+: tail ++ rest) (value : List Char) :
    replace pattern value (text ++ rest) = text ++ replace pattern value rest := by
  induction text with
  | nil => rfl
  | cons c more ih =>
    have here : pattern.isPrefixOf (c :: (more ++ rest)) = false := by
      rw [← Bool.not_eq_true, List.isPrefixOf_iff_prefix]
      exact clear _ (List.cons_ne_nil c more) (List.suffix_refl _)
    have later := ih fun tail nonempty ends =>
      clear tail nonempty (ends.trans (List.suffix_cons c more))
    unfold replace at later ⊢
    rw [List.cons_append, replaceFrom, here, later]
    rfl

theorem replace_append {first : Char} {plain : List Char} (absent : first ∉ plain)
    (pattern value rest : List Char) :
    replace (first :: pattern) value (plain ++ rest) =
      plain ++ replace (first :: pattern) value rest := by
  refine replace_append_of_clear (fun tail nonempty ends starts => ?_) value
  obtain ⟨c, more, rfl⟩ := List.exists_cons_of_ne_nil nonempty
  have same := (List.cons_prefix_cons.1 starts).1
  exact absent (same ▸ ends.subset List.mem_cons_self)

private theorem replaceFrom_append (pattern value passed rest : List Char) :
    replaceFrom pattern value passed.length (passed ++ rest) = replace pattern value rest := by
  induction passed with
  | nil => rfl
  | cons c more ih => exact ih

theorem replace_pattern_append (first : Char) (pattern value rest : List Char) :
    replace (first :: pattern) value (first :: pattern ++ rest) =
      value ++ replace (first :: pattern) value rest := by
  have here : (first :: pattern).isPrefixOf (first :: (pattern ++ rest)) = true :=
    List.isPrefixOf_iff_prefix.2 (List.prefix_append (first :: pattern) rest)
  have behind := replaceFrom_append (first :: pattern) value pattern rest
  rw [List.cons_append, replace, replaceFrom, if_pos here]
  exact congrArg (value ++ ·) behind

theorem replace_self (first : Char) (pattern text : List Char) :
    replace (first :: pattern) (first :: pattern) text = text := by
  have left : ∀ skip, replaceFrom (first :: pattern) (first :: pattern) skip text =
      text.drop skip := by
    induction text with
    | nil => intro skip; simp [replaceFrom]
    | cons c rest ih =>
      intro skip
      cases skip with
      | succ skip => exact ih skip
      | zero =>
        rw [replaceFrom, ih, ih, List.drop_zero, List.drop_zero]
        split
        · rename_i here
          obtain ⟨behind, whole⟩ := List.isPrefixOf_iff_prefix.1 here
          obtain ⟨rfl, rfl⟩ := List.cons.inj whole
          simp
        · rfl
  exact left 0

private theorem exists_length_replaceFrom (first : Char) (pattern value : List Char) (skip : Nat)
    (text : List Char) : ∃ count,
      (replaceFrom (first :: pattern) value skip text).length + count * (first :: pattern).length =
        text.length - skip + count * value.length := by
  induction text generalizing skip with
  | nil => exact ⟨0, by simp [replaceFrom]⟩
  | cons c rest ih =>
    cases skip with
    | succ skip =>
      obtain ⟨count, lengths⟩ := ih skip
      refine ⟨count, ?_⟩
      rw [replaceFrom, lengths, List.length_cons, Nat.add_sub_add_right]
    | zero =>
      rw [replaceFrom]
      split
      · rename_i here
        obtain ⟨count, lengths⟩ := ih pattern.length
        have fits := (List.isPrefixOf_iff_prefix.1 here).length_le
        refine ⟨count + 1, ?_⟩
        simp only [List.length_append, List.length_cons, Nat.add_sub_cancel, Nat.add_mul,
          Nat.one_mul] at lengths fits ⊢
        omega
      · obtain ⟨count, lengths⟩ := ih 0
        refine ⟨count, ?_⟩
        simp only [List.length_cons] at lengths ⊢
        omega

private theorem exists_replaced {first : Char} {pattern text : List Char}
    (occurs : first :: pattern <:+: text) (value : List Char) :
    ∃ before behind, text = before ++ (first :: pattern ++ behind) ∧
      replace (first :: pattern) value text =
        before ++ (value ++ replace (first :: pattern) value behind) := by
  induction text with
  | nil => cases List.infix_nil.1 occurs
  | cons c rest ih =>
    by_cases here : first :: pattern <+: c :: rest
    · obtain ⟨behind, whole⟩ := here
      rw [← whole]
      exact ⟨[], behind, rfl, replace_pattern_append first pattern value behind⟩
    · obtain ⟨before, behind, whole, replaced⟩ :=
        ih ((List.infix_cons_iff.1 occurs).resolve_left here)
      have passed : (first :: pattern).isPrefixOf (c :: rest) = false := by
        rwa [← Bool.not_eq_true, List.isPrefixOf_iff_prefix]
      refine ⟨c :: before, behind, by rw [whole]; rfl, ?_⟩
      unfold replace at replaced ⊢
      rw [replaceFrom, passed, replaced]
      rfl

theorem replace_eq_self_iff {first : Char} {pattern value text : List Char} :
    replace (first :: pattern) value text = text ↔
      value = first :: pattern ∨ ¬first :: pattern <:+: text := by
  constructor
  · intro unchanged
    by_contra! changes
    obtain ⟨other, occurs⟩ := changes
    obtain ⟨before, behind, whole, replaced⟩ := exists_replaced occurs value
    rw [unchanged, whole, List.append_cancel_left_eq] at replaced
    -- What stands behind cannot make up for a value of another length.
    have whole := congrArg List.length replaced
    obtain ⟨count, rest⟩ := exists_length_replaceFrom first pattern value 0 behind
    have same : (count + 1) * value.length = (count + 1) * (first :: pattern).length := by
      unfold replace at whole
      rw [List.length_append, List.length_append] at whole
      rw [Nat.add_mul, Nat.add_mul]
      omega
    have same := Nat.eq_of_mul_eq_mul_left count.succ_pos same
    exact other (List.append_inj_left replaced same.symm).symm
  · rintro (rfl | absent)
    · exact replace_self first pattern text
    · have clear : ∀ tail, tail ≠ [] → tail <:+ text → ¬first :: pattern <+: tail ++ [] := by
        intro tail _ ends starts
        rw [List.append_nil] at starts
        exact absent (starts.isInfix.trans ends.isInfix)
      have whole := replace_append_of_clear clear value
      rw [List.append_nil] at whole
      rw [whole]
      exact List.append_nil text

/-- The values can make up the pattern: one of them holds it, or one ends with its front and one
begins with its back, whatever stands between them. -/
def Forms (values : List (List Char)) (pattern : List Char) : Prop :=
  (∃ value ∈ values, pattern <:+: value) ∨
    ∃ front middle back, pattern = front ++ middle ++ back ∧ front ≠ [] ∧ back ≠ [] ∧
      (∃ value ∈ values, front <:+ value) ∧ ∃ value ∈ values, back <+: value

theorem Forms.mono {values more : List (List Char)} {pattern : List Char}
    (formed : Forms values pattern) (subset : values ⊆ more) : Forms more pattern := by
  obtain ⟨value, member, inside⟩ | ⟨front, middle, back, split, first, last,
    ⟨value, member, ends⟩, other, found, begins⟩ := formed
  · exact .inl ⟨value, subset member, inside⟩
  · exact .inr ⟨front, middle, back, split, first, last, ⟨value, subset member, ends⟩, other,
      subset found, begins⟩

end PanelProbe.Text
