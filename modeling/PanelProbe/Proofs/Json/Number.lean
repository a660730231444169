import PanelProbe.Json.Number
import PanelProbe.Proofs.Binary64.Decimal

/-!
Number literals: the text of a literal is taken apart into its parts again, the literals that are
written are of that form, and doubles that are not too large do not overflow when they are read.
-/

set_option autoImplicit false

namespace PanelProbe.NumberLiteral

/-! The text of a literal. -/

structure IsRun (run : List Char) : Prop where
  ne_nil : run ≠ []
  digits : ∀ c ∈ run, c.isDigit = true

def fractionText : Option (List Char) → List Char
  | none => []
  | some run => '.' :: run

def exponentText : Option (Bool × List Char) → List Char
  | none => []
  | some (negative, run) => 'e' :: (if negative then '-' else '+') :: run

def magnitudeText (l : NumberLiteral) : List Char :=
  l.whole ++ (fractionText l.fraction ++ exponentText l.exponent)

def text (l : NumberLiteral) : List Char :=
  if l.negative then '-' :: l.magnitudeText else l.magnitudeText

structure Sound (l : NumberLiteral) : Prop where
  whole : IsRun l.whole
  plain : l.whole.length = 1 ∨ l.whole.head? ≠ some '0'
  fraction : ∀ run ∈ l.fraction, IsRun run
  exponent : ∀ part ∈ l.exponent, IsRun part.2

private theorem digits?_append {run : List Char} (rest : List Char) (sound : IsRun run)
    (ends : ∀ c ∈ rest.head?, c.isDigit = false) : digits? (run ++ rest) = some (run, rest) := by
  have front : (run ++ rest).takeWhile Char.isDigit = run :=
    Text.takeWhile_append_of_stop sound.digits ends
  have back : (run ++ rest).dropWhile Char.isDigit = rest := by
    have whole := List.takeWhile_append_dropWhile (p := Char.isDigit) (l := run ++ rest)
    rw [front] at whole
    exact List.append_cancel_left whole
  unfold digits?
  rw [front, back]
  cases run with
  | nil => exact absurd rfl sound.ne_nil
  | cons c run => rfl

private theorem exponent?_text {part : Option (Bool × List Char)} (sound : ∀ p ∈ part, IsRun p.2) :
    exponent? (exponentText part) = some part := by
  obtain _ | ⟨negative, run⟩ := part
  · rfl
  · have alone := digits?_append [] (sound _ rfl) (by simp)
    rw [List.append_nil] at alone
    cases negative <;> simp [exponentText, exponent?, alone]

private theorem head?_exponentText {part : Option (Bool × List Char)} {c : Char}
    (first : c ∈ (exponentText part).head?) : c = 'e' := by
  obtain _ | ⟨negative, run⟩ := part
  · cases first
  · exact (Option.some.inj first).symm

private theorem head?_fractionText {fraction : Option (List Char)}
    {part : Option (Bool × List Char)}
    {c : Char} (first : c ∈ (fractionText fraction ++ exponentText part).head?) :
    c.isDigit = false := by
  obtain _ | run := fraction
  · rw [head?_exponentText first]
    decide
  · obtain rfl := Option.some.inj first
    decide

theorem ofChars?_text {l : NumberLiteral} (sound : l.Sound) : ofChars? l.text = some l := by
  obtain ⟨negative, whole, fraction, exponent⟩ := l
  have front : digits? (whole ++ (fractionText fraction ++ exponentText exponent)) =
      some (whole, fractionText fraction ++ exponentText exponent) :=
    digits?_append _ sound.whole fun c first => head?_fractionText first
  have plain : (whole.length != 1 && whole.head? == some '0') = false := by
    obtain single | first := sound.plain <;> simp_all
  have ending := exponent?_text sound.exponent
  have middle : ∀ run, fraction = some run →
      digits? (run ++ exponentText exponent) = some (run, exponentText exponent) := by
    intro run same
    refine digits?_append _ (sound.fraction run same) fun c first => ?_
    rw [head?_exponentText first]
    decide
  obtain ⟨c, rest, rfl⟩ := List.exists_cons_of_ne_nil sound.whole.ne_nil
  have unsigned : c ≠ '-' := by
    rintro rfl
    exact absurd (sound.whole.digits '-' List.mem_cons_self) (by decide)
  cases negative
  case' false =>
    simp only [text, magnitudeText, Bool.false_eq_true, if_false, List.cons_append] at front ⊢
    unfold ofChars?
    split
    rename_i sign
    split at sign
    case h_1 same => exact absurd (List.cons.inj same).1 unsigned
    cases sign
  case' true =>
    simp only [text, magnitudeText, if_true]
    unfold ofChars?
  all_goals
    simp only [front, plain, Option.bind_eq_bind, Option.bind_some, Bool.false_eq_true, if_false]
    obtain _ | run := fraction
    · rw [fractionText, List.nil_append]
      split
      · rename_i same
        have point : '.' ∈ (exponentText exponent).head? := by
          rw [same]
          rfl
        cases head?_exponentText point
      · simp [ending]
    · simp [fractionText, middle run rfl, ending]

/-! The value of a literal. -/

private theorem absorb_lt {word : Nat} (run : List Char) (small : word < Text.wordBound) :
    (absorb word run).1 < Text.wordBound := by
  induction run generalizing word with
  | nil => exact small
  | cons c rest ih =>
    rw [absorb]
    dsimp only
    split
    · exact ih ‹_›
    · exact small

section

open Binary64

private theorem ofNat?_ten_pow {power : Nat} (range : power ≤ greatestScale) :
    ∃ y, ofNat? (10 ^ power) = some y ∧ y.denominator ≤ 2 ^ 53 * y.numerator := by
  have pos : 0 < 10 ^ power := Nat.pow_pos (by decide)
  have finite : (ofNat? (10 ^ power)).isSome = true := by
    obtain rfl | less := range.eq_or_lt
    · decide +kernel
    · have below : 10 ^ power < 2 ^ 1022 :=
        (Nat.pow_le_pow_right (by decide) (Nat.le_sub_one_of_lt less)).trans_lt (by decide +kernel)
      exact ofNat?_isSome below le_rfl
  obtain ⟨y, rounded⟩ := Option.isSome_iff_exists.1 finite
  exact ⟨y, rounded, denominator_le_of_ofNat? pos rounded⟩

private theorem scaleDown_isSome {steps k power : Nat} {x : Binary64} (h : Under k x)
    (range : k + 55 * steps ≤ 1022) : (scaleDown steps x power).isSome = true := by
  induction steps generalizing k x power with
  | zero => rfl
  | succ steps ih =>
    rw [scaleDown]
    simp only [Nat.pow_eq]
    split
    · obtain ⟨y, rounded, large⟩ := ofNat?_ten_pow ‹power ≤ greatestScale›
      rw [rounded]
      exact div?_isSome h large (by omega)
    · split
      · rfl
      · obtain ⟨y, rounded, large⟩ := ofNat?_ten_pow (le_refl greatestScale)
        obtain ⟨z, quotient⟩ := Option.isSome_iff_exists.1 (div?_isSome h large (by omega))
        rw [rounded, Option.bind_eq_bind, Option.bind_some, quotient]
        exact ih (under_of_div? h large quotient) (by omega)

private theorem scale?_isSome {word : Nat} {power : Int} (small : word < Text.wordBound)
    (range : power ≤ 270) : (scale? word power).isSome = true := by
  have bits : word < 2 ^ 64 := small
  obtain ⟨x, rounded⟩ := Option.isSome_iff_exists.1 (ofNat?_isSome bits (by decide))
  have under : Under 66 x := under_of_ofNat? bits rounded
  rw [scale?, rounded, Option.bind_eq_bind, Option.bind_some]
  split
  · rfl
  · split
    · exact scaleDown_isSome under (by decide)
    · rw [if_neg (by unfold greatestScale; omega)]
      have below : 10 ^ power.natAbs < 2 ^ 900 :=
        (Nat.pow_le_pow_right (by decide) (show power.natAbs ≤ 270 by omega)).trans_lt
          (by decide +kernel)
      obtain ⟨y, factor⟩ := Option.isSome_iff_exists.1 (ofNat?_isSome below (by decide))
      rw [Nat.pow_eq, factor]
      exact mul?_isSome under (under_of_ofNat? below factor) (by decide)

end

private theorem real?_isSome {l : NumberLiteral} (range : l.whole.length + l.exponentValue ≤ 270) :
    l.real?.isSome = true := by
  have first : (absorb 0 l.whole).1 < Text.wordBound := absorb_lt _ (by decide)
  have second := absorb_lt (l.fraction.getD []) first
  have scaled : (scale? (absorb (absorb 0 l.whole).1 (l.fraction.getD [])).1
      (l.whole.length - (absorb 0 l.whole).2 -
        (absorb (absorb 0 l.whole).1 (l.fraction.getD [])).2 + l.exponentValue)).isSome = true :=
    scale?_isSome second (by omega)
  obtain ⟨x, found⟩ := Option.isSome_iff_exists.1 scaled
  unfold real?
  simp only [found, Option.bind_eq_bind, Option.bind_some]
  rfl

end PanelProbe.NumberLiteral

namespace PanelProbe.Binary64.Scientific

open NumberLiteral

def literal (s : Scientific) : NumberLiteral :=
  let text := Text.digits s.digits
  if 0 ≤ s.power ∧ s.point ≤ Number.layout.greatestPoint then
    ⟨false, text ++ List.replicate s.power.toNat '0', some ['0'], none⟩
  else if 0 < s.point ∧ s.point ≤ Number.layout.greatestPoint then
    ⟨false, text.take s.point.toNat, some (text.drop s.point.toNat), none⟩
  else if Number.layout.leastPoint ≤ s.point ∧ s.point ≤ 0 then
    ⟨false, ['0'], some (List.replicate (-s.point).toNat '0' ++ text), none⟩
  else
    ⟨false, text.take 1, if text.length = 1 then none else some (text.drop 1),
      some (decide (s.point - 1 < 0), Text.digits (s.point - 1).natAbs)⟩

theorem text_literal (s : Scientific) : s.literal.text = Number.layout.write s := by
  have place : ((Text.digits s.digits).length : Int) + s.power = s.point := rfl
  unfold literal Binary64.Layout.write
  simp only [Bool.and_eq_true, decide_eq_true_eq, place]
  split
  · rfl
  · split
    · simp [NumberLiteral.text, magnitudeText, fractionText, exponentText]
    · split
      · simp only [NumberLiteral.text, magnitudeText, fractionText, exponentText, List.append_nil]
        rfl
      · obtain ⟨d, rest, digits⟩ := List.exists_cons_of_ne_nil (Text.digits_ne_nil s.digits)
        rw [digits]
        cases rest <;> by_cases less : s.point - 1 < 0 <;>
          simp [NumberLiteral.text, magnitudeText, fractionText, exponentText, less, Number.layout]

private theorem isRun_digits (n : Nat) : IsRun (Text.digits n) :=
  ⟨Text.digits_ne_nil n, fun _ => Text.isDigit_of_mem_digits⟩

private theorem isDigit_of_mem_zeros {count : Nat} {c : Char}
    (member : c ∈ List.replicate count '0') :
    c.isDigit = true := by
  rw [List.eq_of_mem_replicate member]
  decide

private theorem isRun_zero : IsRun ['0'] := ⟨by decide, List.all_eq_true.1 (by decide)⟩

theorem sound_literal {s : Scientific} (pos : 0 < s.digits) : s.literal.Sound := by
  have first := Text.head?_digits_ne pos
  have run := isRun_digits s.digits
  have length : 0 < (Text.digits s.digits).length := List.length_pos_iff.2 run.ne_nil
  have part {rest : List Char} (filled : rest ≠ []) (inside : rest ⊆ Text.digits s.digits) :
      IsRun rest := ⟨filled, fun c member => run.digits c (inside member)⟩
  unfold literal
  dsimp only
  split
  · refine ⟨⟨List.append_ne_nil_of_left_ne_nil run.ne_nil _, ?_⟩, .inr ?_, ?_, ?_⟩
    · exact List.forall_mem_append.2 ⟨run.digits, fun c => isDigit_of_mem_zeros⟩
    · obtain ⟨d, rest, digits⟩ := List.exists_cons_of_ne_nil run.ne_nil
      rw [digits] at first ⊢
      exact first
    · rintro _ ⟨⟩
      exact isRun_zero
    · rintro _ ⟨⟩
  · split
    · rename_i whole range
      have inner : s.point.toNat < (Text.digits s.digits).length := by
        unfold point at whole range ⊢
        omega
      refine ⟨part ?_ (List.take_subset _ _), .inr ?_, ?_, ?_⟩
      · exact List.ne_nil_of_length_pos (by rw [List.length_take]; omega)
      · rwa [List.head?_take, if_neg (by omega)]
      · rintro _ ⟨⟩
        exact part (List.ne_nil_of_length_pos (by rw [List.length_drop]; omega))
          (List.drop_subset _ _)
      · rintro _ ⟨⟩
    · split
      · refine ⟨isRun_zero, .inl rfl, ?_, ?_⟩
        · rintro _ ⟨⟩
          refine ⟨List.append_ne_nil_of_right_ne_nil _ run.ne_nil, ?_⟩
          exact List.forall_mem_append.2 ⟨fun c => isDigit_of_mem_zeros, run.digits⟩
        · rintro _ ⟨⟩
      · have single : ((Text.digits s.digits).take 1).length = 1 := by
          rw [List.length_take]
          omega
        have filled : (Text.digits s.digits).take 1 ≠ [] := List.ne_nil_of_length_pos (by omega)
        refine ⟨part filled (List.take_subset _ _), .inl single, ?_, ?_⟩
        · intro rest found
          by_cases alone : (Text.digits s.digits).length = 1
          · rw [if_pos alone] at found
            cases found
          · rw [if_neg alone] at found
            cases found
            exact part (List.ne_nil_of_length_pos (by rw [List.length_drop]; omega))
              (List.drop_subset _ _)
        · rintro _ ⟨⟩
          exact isRun_digits _

private theorem parts_literal (s : Scientific) :
    (s.literal.fraction.isSome || s.literal.exponent.isSome) = true := by
  unfold literal
  dsimp only
  split
  · rfl
  · split
    · rfl
    · split
      · rfl
      · simp

private theorem span_literal_le (s : Scientific) :
    s.literal.whole.length + s.literal.exponentValue ≤ max 16 s.point := by
  have limit : Number.layout.greatestPoint = 16 := rfl
  unfold literal exponentValue
  rw [limit]
  split
  · rename_i range
    unfold point at range
    simp only [List.length_append, List.length_replicate]
    omega
  · split
    · rename_i range
      simp only [List.length_take]
      omega
    · split
      · simp only [List.length_singleton]
        omega
      · have single : ((Text.digits s.digits).take 1).length ≤ 1 := List.length_take_le 1 _
        simp only [Text.ofDigitChars_digits, decide_eq_true_eq]
        split <;> omega

private theorem negative_literal (s : Scientific) : s.literal.negative = false := by
  unfold literal
  dsimp only
  split
  · rfl
  · split
    · rfl
    · split <;> rfl

end PanelProbe.Binary64.Scientific

namespace PanelProbe.Binary64

open NumberLiteral

def literal (x : Binary64) : NumberLiteral :=
  if x.isZero then ⟨x.negative, ['0'], some ['0'], none⟩
  else { x.shortest.literal with negative := x.negative }

theorem text_literal (x : Binary64) : x.literal.text = x.text Number.layout := by
  unfold literal Binary64.text
  by_cases zero : x.isZero = true
  · rw [if_pos zero, if_pos zero]
    rfl
  · rw [if_neg zero, if_neg zero, ← Scientific.text_literal]
    simp only [NumberLiteral.text, Scientific.negative_literal]
    rfl

theorem sound_literal (x : Binary64) : x.literal.Sound := by
  unfold literal
  split
  · refine ⟨Scientific.isRun_zero, .inl rfl, ?_, ?_⟩
    · rintro _ ⟨⟩
      exact Scientific.isRun_zero
    · rintro _ ⟨⟩
  · rename_i filled
    have sound := Scientific.sound_literal
      (shortest_digits_pos fun zero => filled (beq_iff_eq.2 zero))
    exact ⟨sound.whole, sound.plain, sound.fraction, sound.exponent⟩

private theorem parts_literal (x : Binary64) :
    (x.literal.fraction.isSome || x.literal.exponent.isSome) = true := by
  unfold literal
  split
  · rfl
  · exact Scientific.parts_literal x.shortest

private theorem integer?_literal (x : Binary64) :
    x.literal.integer? = none := if_pos (parts_literal x)

private theorem span_literal_le {k : Nat} {x : Binary64} (h : Under k x) :
    x.literal.whole.length + x.literal.exponentValue ≤ max 16 (2 * (k : Int) + 2) := by
  have inner := Scientific.span_literal_le x.shortest
  have point := point_shortest_le h
  unfold literal
  split
  · simp [exponentValue]
  · have same : exponentValue { x.shortest.literal with negative := x.negative } =
        x.shortest.literal.exponentValue := rfl
    rw [same]
    exact inner.trans (max_le_max le_rfl point)

end PanelProbe.Binary64

namespace PanelProbe.Number

open NumberLiteral

def literal : Number → NumberLiteral
  | .integer value => ⟨decide (value < 0), Text.digits value.natAbs, none, none⟩
  | .real x => x.literal

theorem text_literal (n : Number) : n.literal.text = n.chars := by
  cases n with
  | integer value =>
    unfold literal chars charsWith Text.integer
    by_cases less : value < 0 <;>
      simp [text, magnitudeText, fractionText, exponentText, less]
  | real x => exact Binary64.text_literal x

theorem sound_literal (n : Number) : n.literal.Sound := by
  cases n with
  | integer value =>
    have plain : (Text.digits value.natAbs).length = 1 ∨
        (Text.digits value.natAbs).head? ≠ some '0' := by
      by_cases zero : value.natAbs = 0
      · rw [zero]
        exact .inl rfl
      · exact .inr (Text.head?_digits_ne (Nat.pos_of_ne_zero zero))
    refine ⟨Binary64.Scientific.isRun_digits _, plain, ?_, ?_⟩ <;> rintro _ ⟨⟩
  | real x => exact Binary64.sound_literal x

theorem chars_ne_nil (n : Number) : n.chars ≠ [] := by
  rw [← text_literal, NumberLiteral.text]
  split
  · exact List.cons_ne_nil _ _
  · exact List.append_ne_nil_of_left_ne_nil (sound_literal n).whole.ne_nil _

private theorem ofChars?_chars (n : Number) : ofChars? n.chars = n.literal.number? := by
  rw [ofChars?, ← text_literal, ofChars?_text (sound_literal n), Option.bind_some]

def Fits (value : Int) : Prop := -2 ^ 63 ≤ value ∧ value < 2 ^ 64

instance (value : Int) : Decidable (Fits value) := inferInstanceAs (Decidable (_ ∧ _))

private theorem integer?_integer (value : Int) :
    (literal (integer value)).integer? = if Fits value then some value else none := by
  have signed : Nat.pow 2 63 = 9223372036854775808 := rfl
  have unsigned : Text.wordBound = 18446744073709551616 := rfl
  have digits : Nat.ofDigitChars 10 (literal (integer value)).whole 0 = value.natAbs :=
    Text.ofDigitChars_digits value.natAbs
  have fitting : Fits value ↔ -9223372036854775808 ≤ value ∧ value < 18446744073709551616 := Iff.rfl
  unfold NumberLiteral.integer?
  rw [digits, signed, unsigned]
  simp only [literal, Option.isSome_none, Bool.or_self, Bool.false_eq_true, if_false,
    decide_eq_true_eq]
  by_cases fits : Fits value
  · have range := fitting.1 fits
    rw [if_pos fits]
    by_cases less : value < 0
    · rw [if_pos less, if_neg (by omega)]
      congr 1
      omega
    · rw [if_neg less, if_pos (by omega)]
      congr 1
      omega
  · have range := mt fitting.2 fits
    rw [if_neg fits]
    by_cases less : value < 0
    · rw [if_pos less, if_pos (by omega)]
    · rw [if_neg less, if_neg (by omega)]

theorem ofChars?_integer (value : Int) :
    ofChars? (Text.integer value) = some (.integer value) ↔ Fits value := by
  have read : ofChars? (Text.integer value) = (literal (integer value)).number? :=
    ofChars?_chars (integer value)
  rw [read, number?, integer?_integer]
  by_cases fits : Fits value
  · rw [if_pos fits]
    simp [fits]
  · rw [if_neg fits]
    simp [fits]

theorem ofChars?_natural {n : Nat} (small : n < Text.wordBound) :
    ofChars? (integer n).chars = some (.integer n) := by
  have bound : n < 2 ^ 64 := small
  exact (ofChars?_integer n).2 ⟨by omega, by omega⟩

theorem eq_integer_of_chars {n : Number} {value : Int} (same : n.chars = Text.integer value) :
    n = .integer value := by
  have taken : n.literal = (integer value).literal := by
    have text : n.literal.text = (integer value).literal.text := by
      rw [text_literal, text_literal]
      exact same
    have read := ofChars?_text (sound_literal n)
    rw [text, ofChars?_text (sound_literal (integer value))] at read
    exact (Option.some.inj read).symm
  cases n with
  | integer other =>
    have signs : decide (other < 0) = decide (value < 0) := congrArg negative taken
    have digits : other.natAbs = value.natAbs :=
      Text.digits_injective (congrArg whole taken)
    rw [decide_eq_decide] at signs
    congr 1
    omega
  | real x =>
    have parts := Binary64.parts_literal x
    have plain : x.literal = (integer value).literal := taken
    rw [plain] at parts
    cases parts

theorem ofChars?_real {k : Nat} {x : Binary64} (h : Binary64.Under k x) (range : k ≤ 134) :
    ∃ y, ofChars? (real x).chars = some (.real y) := by
  have span := Binary64.span_literal_le h
  obtain ⟨y, found⟩ := Option.isSome_iff_exists.1 (real?_isSome (l := x.literal) (by omega))
  refine ⟨y, ?_⟩
  rw [ofChars?_chars, literal, number?, Binary64.integer?_literal]
  simp [found]

end PanelProbe.Number
