import Mathlib.Tactic.Ring
import PanelProbe.Binary64.Basic

/-!
The range of rounded results: a quotient below a power of two is rounded to a double that is not
much larger, so products and quotients of doubles in range do not overflow.
-/

set_option autoImplicit false

namespace PanelProbe.Binary64

variable {k : Nat} {x y : Binary64} {negative : Bool} {num den : Nat}

/-- Below a power of two, as mantissa and exponent show. -/
structure Under (k : Nat) (x : Binary64) : Prop where
  mantissa_lt : x.mantissa < 2 ^ 53
  exponent_le : x.exponent + 53 ≤ k

theorem Under.mono {j : Nat} (h : Under j x) (le : j ≤ k) : Under k x :=
  ⟨h.mantissa_lt, by have := h.exponent_le; omega⟩

theorem denominator_pos (x : Binary64) : 0 < x.denominator := by
  unfold denominator
  split
  · exact Nat.two_pow_pos _
  · exact Nat.one_pos

theorem Under.numerator_lt (h : Under k x) : x.numerator < 2 ^ k * x.denominator := by
  have small := h.mantissa_lt
  have bound := h.exponent_le
  unfold numerator denominator
  split
  · calc x.mantissa < 2 ^ 53 := small
      _ ≤ 2 ^ (k + x.exponent.natAbs) := Nat.pow_le_pow_right Nat.two_pos (by omega)
      _ = 2 ^ k * 2 ^ x.exponent.natAbs := Nat.pow_add 2 k _
  · calc x.mantissa * 2 ^ x.exponent.natAbs
        < 2 ^ 53 * 2 ^ x.exponent.natAbs := Nat.mul_lt_mul_of_pos_right small (Nat.two_pow_pos _)
      _ = 2 ^ (53 + x.exponent.natAbs) := (Nat.pow_add 2 53 _).symm
      _ ≤ 2 ^ k * 1 := by
        rw [Nat.mul_one]
        exact Nat.pow_le_pow_right Nat.two_pos (by omega)

/-! Rounding. -/

private theorem le_roundDiv (num den : Nat) : num / den ≤ roundDiv num den := by
  unfold roundDiv
  dsimp only
  split <;> omega

private theorem roundDiv_le (num den : Nat) : roundDiv num den ≤ num / den + 1 := by
  unfold roundDiv
  dsimp only
  split <;> omega

def guess (num den : Nat) : Int := (num.log2 : Int) - (den.log2 : Int) - 53

private theorem scaled_lt (den_ne : den ≠ 0) {e : Int} (above : guess num den < e) :
    (scaled num den e).1 / (scaled num den e).2 < 2 ^ 53 := by
  unfold guess at above
  have upper : num < 2 ^ (num.log2 + 1) := Nat.lt_log2_self
  have lower : 2 ^ den.log2 ≤ den := Nat.log2_self_le den_ne
  have pos : 0 < den := Nat.pos_of_ne_zero den_ne
  unfold scaled
  split
  · apply Nat.div_lt_of_lt_mul
    calc num * 2 ^ e.natAbs
        < 2 ^ (num.log2 + 1) * 2 ^ e.natAbs := Nat.mul_lt_mul_of_pos_right upper (Nat.two_pow_pos _)
      _ = 2 ^ (num.log2 + 1 + e.natAbs) := (Nat.pow_add 2 _ _).symm
      _ ≤ 2 ^ (den.log2 + 53) := Nat.pow_le_pow_right Nat.two_pos (by omega)
      _ = 2 ^ den.log2 * 2 ^ 53 := Nat.pow_add 2 _ _
      _ ≤ den * 2 ^ 53 := Nat.mul_le_mul_right _ lower
  · apply Nat.div_lt_of_lt_mul
    calc num < 2 ^ (num.log2 + 1) := upper
      _ ≤ 2 ^ (den.log2 + e.natAbs + 53) := Nat.pow_le_pow_right Nat.two_pos (by omega)
      _ = 2 ^ den.log2 * 2 ^ e.natAbs * 2 ^ 53 := by rw [Nat.pow_add, Nat.pow_add]
      _ ≤ den * 2 ^ e.natAbs * 2 ^ 53 :=
        Nat.mul_le_mul_right _ (Nat.mul_le_mul_right _ lower)

private theorem guess_le_exponentOf (num den : Nat) : guess num den ≤ exponentOf num den := by
  unfold exponentOf guess
  dsimp only
  split <;> omega

private theorem exponentOf_le (num den : Nat) :
    exponentOf num den ≤ max leastExponent (guess num den + 1) := by
  unfold exponentOf guess
  dsimp only
  split <;> omega

private theorem scaled_exponentOf_lt (den_ne : den ≠ 0) :
    (scaled num den (exponentOf num den)).1 / (scaled num den (exponentOf num den)).2 < 2 ^ 53 := by
  obtain same | above := (guess_le_exponentOf num den).eq_or_lt
  · have small : (scaled num den (guess num den)).1 / (scaled num den (guess num den)).2 <
        2 ^ 53 := by
      by_contra large
      have raised : exponentOf num den = max leastExponent (guess num den + 1) := by
        exact congrArg (max leastExponent) (if_neg large)
      omega
    rwa [← same]
  · exact scaled_lt den_ne above

/-- A rounded quotient: the mantissa has 53 bits, and the exponent is the one of the quotient or, if
the mantissa has grown by a bit, the next one. -/
private theorem ofRatio_cases (den_ne : den ≠ 0) (num_ne : num ≠ 0)
    (rounded : ofRatio negative num den = some x) :
    let e := exponentOf num den
    let ratio := scaled num den e
    x.mantissa < 2 ^ 53 ∧ min (ratio.1 / ratio.2) 1 ≤ x.mantissa ∧
      e ≤ x.exponent ∧ x.exponent ≤ e + 1 := by
  intro e ratio
  have low : ratio.1 / ratio.2 ≤ roundDiv ratio.1 ratio.2 := le_roundDiv _ _
  have high : roundDiv ratio.1 ratio.2 ≤ ratio.1 / ratio.2 + 1 := roundDiv_le _ _
  have fits : ratio.1 / ratio.2 < 2 ^ 53 := scaled_exponentOf_lt den_ne
  rw [ofRatio, if_neg num_ne] at rounded
  simp only [Nat.pow_eq] at rounded
  by_cases grown : roundDiv ratio.1 ratio.2 = 2 ^ 53
  · rw [if_pos grown] at rounded
    obtain ⟨-, same⟩ := Option.ite_none_left_eq_some.1 rounded
    obtain rfl := Option.some.inj same
    have small : 2 ^ 52 < 2 ^ 53 := Nat.pow_lt_pow_right Nat.one_lt_two (by decide)
    exact ⟨small, (Nat.min_le_right _ _).trans Nat.one_le_two_pow, Int.le_add_one le_rfl, le_rfl⟩
  · rw [if_neg grown] at rounded
    obtain ⟨-, same⟩ := Option.ite_none_left_eq_some.1 rounded
    obtain rfl := Option.some.inj same
    have below : roundDiv ratio.1 ratio.2 < 2 ^ 53 := Nat.lt_of_le_of_ne (by omega) grown
    exact ⟨below, (Nat.min_le_left _ _).trans low, le_rfl, Int.le_add_one le_rfl⟩

private theorem guess_lt (num_ne : num ≠ 0) (below : num < 2 ^ k * den) :
    guess num den + 53 ≤ k := by
  have bits : num < 2 ^ (k + (den.log2 + 1)) := by
    rw [Nat.pow_add]
    exact below.trans (Nat.mul_lt_mul_of_pos_left Nat.lt_log2_self (Nat.two_pow_pos k))
  have logs := (Nat.log2_lt num_ne).2 bits
  unfold guess
  omega

theorem under_of_ofRatio (den_pos : 0 < den) (below : num < 2 ^ k * den)
    (rounded : ofRatio negative num den = some x) : Under (k + 2) x := by
  have den_ne : den ≠ 0 := den_pos.ne'
  by_cases num_ne : num = 0
  · rw [ofRatio, if_pos num_ne] at rounded
    cases rounded
    exact ⟨Nat.two_pow_pos 53, by unfold leastExponent; simp only []; omega⟩
  · obtain ⟨small, -, -, bound⟩ := ofRatio_cases den_ne num_ne rounded
    have least := exponentOf_le num den
    have logs := guess_lt num_ne below
    refine ⟨small, ?_⟩
    unfold leastExponent at least
    omega

private theorem ofRatio_isSome (den_pos : 0 < den) (below : num < 2 ^ k * den) (range : k ≤ 1022) :
    (ofRatio negative num den).isSome = true := by
  have den_ne : den ≠ 0 := den_pos.ne'
  by_cases num_ne : num = 0
  · rw [ofRatio, if_pos num_ne]
    rfl
  · have least := exponentOf_le num den
    have logs := guess_lt num_ne below
    rw [ofRatio, if_neg num_ne]
    dsimp only
    unfold leastExponent at least
    unfold greatestExponent
    split <;> (rw [if_neg (by omega)]; rfl)

/-! Operations. -/

theorem under_of_ofNat? {n : Nat} (below : n < 2 ^ k) (rounded : ofNat? n = some x) :
    Under (k + 2) x :=
  under_of_ofRatio Nat.one_pos (by rwa [Nat.mul_one]) rounded

theorem ofNat?_isSome {n : Nat} (below : n < 2 ^ k) (range : k ≤ 1022) :
    (ofNat? n).isSome = true :=
  ofRatio_isSome Nat.one_pos (by rwa [Nat.mul_one]) range

theorem denominator_le_of_ofNat? {n : Nat} (pos : 0 < n) (rounded : ofNat? n = some y) :
    y.denominator ≤ 2 ^ 53 * y.numerator := by
  obtain ⟨-, least, low, -⟩ := ofRatio_cases Nat.one_ne_zero pos.ne' rounded
  have above : -53 ≤ exponentOf n 1 := by
    have := guess_le_exponentOf n 1
    unfold guess at this
    rw [show Nat.log2 1 = 0 from rfl] at this
    omega
  have filled : 0 < y.mantissa := by
    have bits : 2 ^ n.log2 ≤ n := Nat.log2_self_le pos.ne'
    have upper := exponentOf_le n 1
    unfold guess leastExponent at upper
    rw [show Nat.log2 1 = 0 from rfl] at upper
    have whole : 0 < (scaled n 1 (exponentOf n 1)).1 / (scaled n 1 (exponentOf n 1)).2 := by
      unfold scaled
      split
      · exact Nat.div_pos (Nat.mul_pos pos (Nat.two_pow_pos _)) Nat.one_pos
      · refine Nat.div_pos ?_ (Nat.mul_pos Nat.one_pos (Nat.two_pow_pos _))
        rw [Nat.one_mul]
        exact (Nat.pow_le_pow_right Nat.two_pos (by omega)).trans bits
    omega
  unfold denominator numerator
  split
  · calc 2 ^ y.exponent.natAbs ≤ 2 ^ 53 := Nat.pow_le_pow_right Nat.two_pos (by omega)
      _ = 2 ^ 53 * 1 := (Nat.mul_one _).symm
      _ ≤ 2 ^ 53 * y.mantissa := Nat.mul_le_mul_left _ filled
  · exact Nat.mul_pos (by decide) (Nat.mul_pos filled (Nat.two_pow_pos _))

section

variable {i j : Nat} (first : Under i x)

include first

private theorem numerator_mul_lt (second : Under j y) :
    x.numerator * y.numerator < 2 ^ (i + j) * (x.denominator * y.denominator) := by
  calc x.numerator * y.numerator
      < 2 ^ i * x.denominator * (2 ^ j * y.denominator) :=
        Nat.mul_lt_mul'' first.numerator_lt second.numerator_lt
    _ = 2 ^ (i + j) * (x.denominator * y.denominator) := by ring

theorem under_of_mul? (second : Under j y) {z : Binary64} (rounded : x.mul? y = some z) :
    Under (i + j + 2) z :=
  under_of_ofRatio (Nat.mul_pos (denominator_pos x) (denominator_pos y))
    (numerator_mul_lt first second) rounded

theorem mul?_isSome (second : Under j y) (range : i + j ≤ 1022) : (x.mul? y).isSome = true :=
  ofRatio_isSome (Nat.mul_pos (denominator_pos x) (denominator_pos y))
    (numerator_mul_lt first second) range

private theorem numerator_div_lt (second : y.denominator ≤ 2 ^ j * y.numerator) :
    x.numerator * y.denominator < 2 ^ (i + j) * (x.denominator * y.numerator) := by
  calc x.numerator * y.denominator
      < 2 ^ i * x.denominator * y.denominator :=
        Nat.mul_lt_mul_of_pos_right first.numerator_lt (denominator_pos y)
    _ ≤ 2 ^ i * x.denominator * (2 ^ j * y.numerator) := Nat.mul_le_mul_left _ second
    _ = 2 ^ (i + j) * (x.denominator * y.numerator) := by ring

omit first in
private theorem denominator_mul_pos (x : Binary64) (second : y.denominator ≤ 2 ^ j * y.numerator) :
    0 < x.denominator * y.numerator :=
  Nat.mul_pos (denominator_pos x)
    (Nat.pos_of_mul_pos_left ((denominator_pos y).trans_le second))

theorem under_of_div? (second : y.denominator ≤ 2 ^ j * y.numerator) {z : Binary64}
    (rounded : x.div? y = some z) : Under (i + j + 2) z :=
  under_of_ofRatio (denominator_mul_pos x second) (numerator_div_lt first second) rounded

theorem div?_isSome (second : y.denominator ≤ 2 ^ j * y.numerator) (range : i + j ≤ 1022) :
    (x.div? y).isSome = true :=
  ofRatio_isSome (denominator_mul_pos x second) (numerator_div_lt first second) range

theorem under_of_addMagnitudes? (second : Under j y) {z : Binary64}
    (rounded : x.addMagnitudes? y = some z) : Under (max i j + 3) z := by
  refine under_of_ofRatio (Nat.mul_pos (denominator_pos x) (denominator_pos y)) ?_ rounded
  have left := (first.mono (Nat.le_max_left i j)).numerator_lt
  have right := (second.mono (Nat.le_max_right i j)).numerator_lt
  calc x.numerator * y.denominator + y.numerator * x.denominator
      < 2 ^ max i j * x.denominator * y.denominator + 2 ^ max i j * y.denominator * x.denominator :=
        Nat.add_lt_add (Nat.mul_lt_mul_of_pos_right left (denominator_pos y))
          (Nat.mul_lt_mul_of_pos_right right (denominator_pos x))
    _ = 2 ^ (max i j + 1) * (x.denominator * y.denominator) := by ring

end

end PanelProbe.Binary64
