import Mathlib.Algebra.Group.Nat.Defs
import Mathlib.Data.List.Induction
import PanelProbe.Text.Numeral

/-!
Numerals are made of digits, tell numbers apart, and have no zeros in front. Readers of digits
accept them padded with zeros, and nothing else.
-/

set_option autoImplicit false

namespace PanelProbe.Text

variable {n : Nat} {c : Char}

theorem isDigit_of_mem_digits (member : c ∈ digits n) : c.isDigit = true :=
  Nat.isDigit_of_mem_toDigits (by decide) (by decide) member

private theorem isDigit_of_mem_padded {width : Nat} (member : c ∈ padded width n) :
    c.isDigit = true := by
  obtain zero | digit := List.mem_append.1 member
  · rw [List.eq_of_mem_replicate zero]
    decide
  · exact isDigit_of_mem_digits digit

theorem notMem_digits (outside : c.isDigit = false) (n : Nat) : c ∉ digits n := by
  intro member
  rw [isDigit_of_mem_digits member] at outside
  cases outside

theorem notMem_padded (outside : c.isDigit = false) (width n : Nat) : c ∉ padded width n := by
  intro member
  rw [isDigit_of_mem_padded member] at outside
  cases outside

theorem mem_integer {i : Int} (member : c ∈ integer i) : c = '-' ∨ c.isDigit = true := by
  unfold integer at member
  split at member
  · obtain sign | digit := List.mem_cons.1 member
    · exact .inl sign
    · exact .inr (isDigit_of_mem_digits digit)
  · exact .inr (isDigit_of_mem_digits member)

theorem ofDigitChars_digits (n : Nat) : Nat.ofDigitChars 10 (digits n) 0 = n :=
  Nat.ofDigitChars_toDigits (by decide) (by decide)

theorem digits_injective : Function.Injective digits := by
  intro m n same
  rw [← ofDigitChars_digits m, ← ofDigitChars_digits n, same]

theorem digits_ne_nil (n : Nat) : digits n ≠ [] := Nat.toDigits_ne_nil

theorem digits_of_ten_le (h : 10 ≤ n) : digits n = digits (n / 10) ++ [(n % 10).digitChar] :=
  Nat.toDigits_of_base_le (by decide) h

theorem head?_digits_ne (pos : 0 < n) : (digits n).head? ≠ some '0' := by
  induction n using Nat.strongRecOn with
  | ind n ih =>
    by_cases single : n < 10
    · have table : ∀ d : Fin 10, 0 < d.val → [d.val.digitChar].head? ≠ some '0' := by decide
      rw [digits, Nat.toDigits_of_lt_base single]
      exact table ⟨n, single⟩ pos
    · have front := ih (n / 10) (by omega) (by omega)
      rw [digits_of_ten_le (by omega), List.head?_append]
      cases first : (digits (n / 10)).head? with
      | none => exact absurd (List.head?_eq_none_iff.1 first) (digits_ne_nil _)
      | some c => rwa [first] at front

theorem toList_toString (n : Nat) : (toString n).toList = digits n := by
  simp [digits]

theorem ofList_integer (i : Int) : String.ofList (integer i) = toString i := by
  apply String.toList_injective
  rw [String.toList_ofList]
  cases i with
  | ofNat n => exact (toList_toString n).symm
  | negSucc n =>
    have whole : (toString (Int.negSucc n)).toList = '-' :: (toString (n + 1)).toList := by
      simp [toString, Int.repr]
    rw [whole, toList_toString, integer, if_pos (Int.negSucc_lt_zero n)]
    rfl

/-! Padding. -/

theorem le_length_padded (width n : Nat) : width ≤ (padded width n).length := by
  rw [padded, List.length_append, List.length_replicate]
  omega

theorem length_padded {width : Nat} (pos : 0 < width) (fits : n < 10 ^ width) :
    (padded width n).length = width := by
  have short : (digits n).length ≤ width := (Nat.length_toDigits_le_iff (by decide) pos).2 fits
  rw [padded, List.length_append, List.length_replicate]
  omega

theorem ofDigits?_padded (width n : Nat) : ofDigits? (padded width n) = some n := by
  have nonempty : padded width n ≠ [] := List.append_ne_nil_of_right_ne_nil _ (digits_ne_nil n)
  have all : (padded width n).all Char.isDigit = true :=
    List.all_eq_true.2 fun c member => isDigit_of_mem_padded member
  have value : Nat.ofDigitChars 10 (padded width n) 0 = n := by
    rw [padded, Nat.ofDigitChars_append, Nat.ofDigitChars_replicate_zero, Nat.mul_zero,
      ofDigitChars_digits]
  rw [ofDigits?, all, value, if_pos (by simpa using nonempty)]

/-! Readings of numerals. -/

private theorem exists_digitChar (digit : c.isDigit = true) : ∃ d < 10, d.digitChar = c := by
  obtain ⟨low, high⟩ : 48 ≤ c.toNat ∧ c.toNat ≤ 57 := Char.isDigit_iff_toNat.1 digit
  obtain ⟨d, code⟩ := Nat.exists_eq_add_of_le low
  have table : ∀ d : Fin 10, d.val.digitChar = Char.ofNat (48 + d.val) := by decide
  have single : d < 10 := by omega
  exact ⟨d, single, by rw [table ⟨d, single⟩, ← code, Char.ofNat_toNat]⟩

private theorem padded_one {d : Nat} (single : d < 10) : padded 1 d = [d.digitChar] := by
  rw [padded, digits, Nat.toDigits_of_lt_base single]
  rfl

private theorem padded_succ {width d : Nat} (pos : 0 < width) (single : d < 10) (n : Nat) :
    padded (width + 1) (10 * n + d) = padded width n ++ [d.digitChar] := by
  -- Zero has a digit of its own, which counts among the zeros in front once another one follows.
  obtain rfl | more := n.eq_zero_or_pos
  · have last : digits d = [d.digitChar] := Nat.toDigits_of_lt_base single
    have zero : digits 0 = ['0'] := rfl
    have zeros : width = width - 1 + 1 := (Nat.sub_add_cancel pos).symm
    rw [padded, padded, Nat.mul_zero, Nat.zero_add, last, zero, List.length_singleton,
      List.length_singleton, Nat.add_sub_cancel, ← List.replicate_succ', ← zeros]
  · have front : (10 * n + d) / 10 = n := by omega
    have last : (10 * n + d) % 10 = d := by omega
    rw [padded, padded, digits_of_ten_le (by omega), front, last, List.length_append,
      List.length_singleton, Nat.add_sub_add_right, List.append_assoc]

private theorem padded_ofDigitChars {text : List Char} (nonempty : text ≠ [])
    (all : ∀ c ∈ text, c.isDigit = true) :
    padded text.length (Nat.ofDigitChars 10 text 0) = text := by
  -- The last digit is the one that is added to the value of the others.
  induction text using List.reverseRecOn with
  | nil => exact absurd rfl nonempty
  | append_singleton front c ih =>
    obtain ⟨d, single, rfl⟩ := exists_digitChar (all c (by simp))
    rw [Nat.ofDigitChars_append, Nat.ofDigitChars_cons_digitChar_of_lt_ten single,
      Nat.ofDigitChars_nil, List.length_append, List.length_singleton]
    by_cases empty : front = []
    · subst empty
      rw [Nat.ofDigitChars_nil, Nat.mul_zero, Nat.zero_add]
      exact padded_one single
    · rw [padded_succ (List.length_pos_iff.2 empty) single,
        ih empty fun c member => all c (List.mem_append_left _ member)]

private theorem ofDigits?_eq_some_iff {text : List Char} :
    ofDigits? text = some n ↔ ∃ width, text = padded width n := by
  constructor
  · intro read
    simp only [ofDigits?, Option.ite_none_right_eq_some, Bool.and_eq_true, Bool.not_eq_true',
      List.isEmpty_eq_false_iff, List.all_eq_true, Option.some.injEq] at read
    obtain ⟨⟨nonempty, all⟩, rfl⟩ := read
    exact ⟨text.length, (padded_ofDigitChars nonempty all).symm⟩
  · rintro ⟨width, rfl⟩
    exact ofDigits?_padded width n

theorem word?_eq_some_iff {text : List Char} :
    word? text = some n ↔
      n < wordBound ∧ ∃ width, text = padded width n ∨ text = '+' :: padded width n := by
  have unsigned (width : Nat) (rest : List Char) : padded width n ≠ '+' :: rest :=
    fun same => notMem_padded (by decide) width n (same ▸ List.mem_cons_self)
  have run (digits : List Char) : (ofDigits? digits).filter (· < wordBound) = some n ↔
      n < wordBound ∧ ∃ width, digits = padded width n := by
    rw [Option.filter_eq_some_iff, ofDigits?_eq_some_iff, decide_eq_true_eq, and_comm]
  by_cases signed : ∃ rest, text = '+' :: rest
  · obtain ⟨rest, rfl⟩ := signed
    refine (run rest).trans (and_congr_right fun _ => exists_congr fun width => ?_)
    simp [(unsigned width rest).symm]
  · have whole : word? text = (ofDigits? text).filter (· < wordBound) := by
      unfold word?
      split
      · exact absurd ⟨_, rfl⟩ signed
      · rfl
    rw [whole, run]
    refine and_congr_right fun _ => exists_congr fun width => ?_
    exact ⟨.inl, fun spelled => spelled.resolve_right fun same => signed ⟨_, same⟩⟩

/-! Integers between other texts. -/

def isNumeric (c : Char) : Bool :=
  c == '-' || c.isDigit

private theorem isNumeric_of_mem_integer {i : Int} (member : c ∈ integer i) :
    isNumeric c = true := by
  rw [isNumeric, Bool.or_eq_true, beq_iff_eq]
  exact mem_integer member

private theorem integer_ne_nil (i : Int) : integer i ≠ [] := by
  unfold integer
  split
  · exact List.cons_ne_nil _ _
  · exact digits_ne_nil _

private theorem integer_injective : Function.Injective integer := by
  have unsigned (m : Nat) (rest : List Char) : digits m ≠ '-' :: rest :=
    fun same => notMem_digits (by decide) m (same ▸ List.mem_cons_self)
  intro i j same
  unfold integer at same
  split at same <;> split at same
  · have sizes := digits_injective (List.cons.inj same).2
    omega
  · exact absurd same.symm (unsigned _ _)
  · exact absurd same (unsigned _ _)
  · have sizes := digits_injective same
    omega

theorem takeWhile_append_of_stop {p : Char → Bool} {front back : List Char}
    (scanned : ∀ c ∈ front, p c = true) (stops : ∀ c ∈ back.head?, p c = false) :
    (front ++ back).takeWhile p = front := by
  rw [List.takeWhile_append_of_pos scanned]
  cases back with
  | nil => rw [List.takeWhile_nil, List.append_nil]
  | cons c rest =>
    rw [List.takeWhile_cons_of_neg (by rw [stops c rfl]; decide), List.append_nil]

theorem integer_between_inj {front front' back back' : List Char} {i j : Int}
    (before : ∀ c ∈ front, isNumeric c = false) (before' : ∀ c ∈ front', isNumeric c = false)
    (behind : ∀ c ∈ back, isNumeric c = false) (behind' : ∀ c ∈ back', isNumeric c = false)
    (same : front ++ (integer i ++ back) = front' ++ (integer j ++ back')) :
    front = front' ∧ i = j ∧ back = back' := by
  have scan {text behind : List Char} {k : Int} (plain : ∀ c ∈ text, isNumeric c = false) :
      (text ++ (integer k ++ behind)).takeWhile (!isNumeric ·) = text := by
    refine takeWhile_append_of_stop (fun c member => by rw [plain c member]; rfl) ?_
    obtain ⟨d, rest, whole⟩ := List.exists_cons_of_ne_nil (integer_ne_nil k)
    have numeric : isNumeric d = true := isNumeric_of_mem_integer (whole ▸ List.mem_cons_self)
    rw [whole]
    simpa using numeric
  obtain rfl : front = front' := by rw [← scan before, same, scan before']
  have middle := List.append_cancel_left same
  have scan {text : List Char} {k : Int} (plain : ∀ c ∈ text, isNumeric c = false) :
      (integer k ++ text).takeWhile isNumeric = integer k :=
    takeWhile_append_of_stop (fun c member => isNumeric_of_mem_integer member)
      fun c first => plain c (List.mem_of_mem_head? first)
  obtain rfl : i = j := integer_injective (by rw [← scan behind, middle, scan behind'])
  exact ⟨rfl, rfl, List.append_cancel_left middle⟩

end PanelProbe.Text
