import Mathlib.Data.List.Basic
import Mathlib.Data.List.TakeWhile
import PanelProbe.Text.Blank
import PanelProbe.Text.Cut

/-!
Texts with another one behind them: what a scan, a cut or the dropping of an end makes of the first
text does not change. The parts between the marks of a text are told from all other lists of texts.
-/

set_option autoImplicit false

namespace PanelProbe.Text

variable {p : Char → Bool} {mark : Char} {text more : List Char}

theorem dropWhile_append_cons (stops : p mark = false) :
    (text ++ mark :: more).dropWhile p = text.dropWhile p ++ mark :: more := by
  induction text with
  | nil => rw [List.nil_append, List.dropWhile_cons, stops]; rfl
  | cons c rest ih =>
    rw [List.cons_append, List.dropWhile_cons, List.dropWhile_cons, ih]
    split <;> rfl

theorem takeWhile_append_cons (stops : p mark = false) :
    (text ++ mark :: more).takeWhile p = text.takeWhile p := by
  induction text with
  | nil => rw [List.nil_append, List.takeWhile_cons, stops]; rfl
  | cons c rest ih =>
    rw [List.cons_append, List.takeWhile_cons, List.takeWhile_cons, ih]

theorem dropEnd_append (nonempty : more ≠ []) (kept : ∀ c ∈ more.getLast?, p c = false) :
    dropEnd p (text ++ more) = text ++ more := by
  obtain rfl | ⟨front, last, rfl⟩ := List.eq_nil_or_concat' more
  · exact absurd rfl nonempty
  · have stays : p last = false := kept last (by simp)
    simp [dropEnd, stays]

theorem dropEnd_of_getLast? (kept : ∀ c ∈ text.getLast?, p c = false) : dropEnd p text = text := by
  by_cases empty : text = []
  · rw [empty]
    rfl
  · exact @dropEnd_append p [] text empty kept

theorem dropEnd_append_of_all (all : ∀ c ∈ more, p c = true) :
    dropEnd p (text ++ more) = dropEnd p text := by
  have reversed : ∀ c ∈ more.reverse, p c = true :=
    fun c member => all c (List.mem_reverse.1 member)
  rw [dropEnd, List.reverse_append, List.dropWhile_append_of_pos reversed, dropEnd]

theorem getLast?_dropEnd (p : Char → Bool) (text : List Char) :
    ∀ c ∈ (dropEnd p text).getLast?, p c = false := by
  intro c last
  rw [dropEnd, List.getLast?_reverse] at last
  have stays := List.head?_dropWhile_not p text.reverse
  rw [last] at stays
  exact stays

theorem exists_dropEnd (p : Char → Bool) (text : List Char) :
    ∃ dropped, (∀ c ∈ dropped, p c = true) ∧ text = dropEnd p text ++ dropped := by
  refine ⟨(text.reverse.takeWhile p).reverse, fun c member => ?_, ?_⟩
  · exact List.mem_takeWhile_imp (List.mem_reverse.1 member)
  · rw [dropEnd, ← List.reverse_append, List.takeWhile_append_dropWhile, List.reverse_reverse]

theorem all_trim (text : List Char) : (trim text).all isBlank = text.all isBlank := by
  have front (part : List Char) : (part.dropWhile isBlank).all isBlank = part.all isBlank := by
    have some_visible := List.any_dropWhile (p := isBlank) (l := part)
    rw [← List.not_all_eq_any_not] at some_visible
    exact Bool.not_inj some_visible
  rw [trim, dropEnd, List.all_reverse, front, List.all_reverse, front]

theorem cut_of_notMem (absent : mark ∉ text) : cut mark text = (text, none) := by
  have whole : text.dropWhile (· ≠ mark) = [] :=
    List.dropWhile_eq_nil_iff.2 fun c mem => by simpa using ne_of_mem_of_not_mem mem absent
  rw [cut, whole]

theorem cut_append_cons (absent : mark ∉ text) :
    cut mark (text ++ mark :: more) = (text, some more) := by
  have stops : decide (mark ≠ mark) = false := by simp
  have before : ∀ c ∈ text, decide (c ≠ mark) = true :=
    fun c mem => by simpa using ne_of_mem_of_not_mem mem absent
  rw [cut, dropWhile_append_cons stops, takeWhile_append_cons stops,
    List.dropWhile_eq_nil_iff.2 before, List.takeWhile_eq_self_iff.2 before]
  rfl

theorem notMem_of_cut {front : List Char} (whole : cut mark text = (front, none)) :
    mark ∉ text ∧ front = text := by
  have absent : mark ∉ text := by
    intro member
    obtain ⟨before, behind, rfl, first⟩ := List.eq_append_cons_of_mem member
    rw [cut_append_cons first] at whole
    cases congrArg Prod.snd whole
  rw [cut_of_notMem absent] at whole
  exact ⟨absent, (congrArg Prod.fst whole).symm⟩

theorem cutLast_append {c : Char} (apart : c ≠ mark) (text : List Char) :
    cutLast mark (text ++ [c]) = ((cutLast mark text).1, (cutLast mark text).2 ++ [c]) := by
  have passed : decide (c ≠ mark) = true := decide_eq_true apart
  have scanned : cut mark (c :: text.reverse) =
      (c :: (cut mark text.reverse).1, (cut mark text.reverse).2) := by
    rw [cut, cut, List.dropWhile_cons, if_pos passed, List.takeWhile_cons, if_pos passed]
    split <;> rfl
  rw [cutLast, List.reverse_append, List.reverse_singleton, List.singleton_append, scanned]
  simp [cutLast]

theorem cutLast_suffix (mark : Char) (text : List Char) : (cutLast mark text).2 <:+ text := by
  have front : (cut mark text.reverse).1 <+: text.reverse := by
    unfold cut
    split
    · exact List.prefix_refl _
    · exact List.takeWhile_prefix _
  exact List.reverse_prefix.1 (by rwa [cutLast, List.reverse_reverse])

/-! Parts between marks. -/

theorem exists_splitOn_cons {c : Char} (apart : c ≠ mark) (text : List Char) :
    ∃ first more, text.splitOn mark = first :: more ∧
      (c :: text).splitOn mark = (c :: first) :: more := by
  obtain ⟨first, more, parts⟩ := List.exists_cons_of_ne_nil (List.splitOn_ne_nil mark text)
  refine ⟨first, more, parts, ?_⟩
  rw [List.splitOn_cons_eq_if_modifyHead, if_neg (by simpa using apart), parts,
    List.modifyHead_cons]

private theorem notMem_of_mem_splitOn {part : List Char} (member : part ∈ text.splitOn mark) :
    mark ∉ part := by
  induction text generalizing part with
  | nil =>
    rw [List.splitOn_nil, List.mem_singleton] at member
    rw [member]
    exact List.not_mem_nil
  | cons c rest ih =>
    by_cases same : c = mark
    · rw [List.splitOn_cons_eq_if_modifyHead, if_pos (beq_iff_eq.2 same)] at member
      obtain rfl | later := List.mem_cons.1 member
      · exact List.not_mem_nil
      · exact ih later
    · obtain ⟨first, more, parts, whole⟩ := exists_splitOn_cons same rest
      rw [whole] at member
      rw [parts] at ih
      obtain rfl | later := List.mem_cons.1 member
      · rw [List.mem_cons, not_or]
        exact ⟨Ne.symm same, ih List.mem_cons_self⟩
      · exact ih (List.mem_cons_of_mem _ later)

/-- The parts of a text are the only ones without the mark that give the text when marks are put
between them. -/
theorem splitOn_eq_iff {parts : List (List Char)} :
    text.splitOn mark = parts ↔
      parts ≠ [] ∧ (∀ part ∈ parts, mark ∉ part) ∧ [mark].intercalate parts = text := by
  constructor
  · rintro rfl
    exact ⟨List.splitOn_ne_nil mark text, fun part => notMem_of_mem_splitOn,
      List.intercalate_splitOn mark⟩
  · rintro ⟨nonempty, absent, rfl⟩
    exact List.splitOn_intercalate mark absent nonempty

end PanelProbe.Text
