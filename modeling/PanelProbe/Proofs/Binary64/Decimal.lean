import PanelProbe.Binary64.Decimal
import PanelProbe.Proofs.Binary64.Range
import PanelProbe.Proofs.Text.Numeral

/-!
Shortest decimals: they are not zero, and their point is not far behind the digits of the double.
-/

set_option autoImplicit false

namespace PanelProbe.Binary64

def Scientific.point (s : Scientific) : Int := (Text.digits s.digits).length + s.power

namespace Scientific

private theorem strip_digits_pos (fuel : Nat) (s : Scientific) (pos : 0 < s.digits) :
    0 < (s.strip fuel).digits := by
  induction fuel generalizing s with
  | zero => exact pos
  | succ fuel ih =>
    rw [strip]
    split
    · rename_i tens
      simp only [Bool.and_eq_true, bne_iff_ne, beq_iff_eq] at tens
      exact ih _ (by dsimp only; omega)
    · exact pos

private theorem point_strip (fuel : Nat) (s : Scientific) : (s.strip fuel).point = s.point := by
  induction fuel generalizing s with
  | zero => rfl
  | succ fuel ih =>
    rw [strip]
    split
    · rename_i tens
      simp only [Bool.and_eq_true, bne_iff_ne, beq_iff_eq] at tens
      rw [ih, point, point, Text.digits_of_ten_le (n := s.digits) (by omega)]
      simp only [List.length_append, List.length_singleton]
      omega
    · rfl

private theorem point_le_of_lt {s : Scientific} {k : Nat} (below : s.digits < 10 ^ (k + 1)) :
    s.point ≤ k + 1 + s.power := by
  have count : (Text.digits s.digits).length ≤ k + 1 :=
    (Nat.length_toDigits_le_iff (by decide) k.succ_pos).2 below
  unfold point
  omega

end Scientific

variable {k : Nat} {x : Binary64}

/-! Digits that read back. -/

private theorem roundingEnds_pos (filled : x.mantissa ≠ 0) :
    0 < (roundingEnds x).1 ∧ 0 < (roundingEnds x).2 := by
  have pos : 0 < x.mantissa := Nat.pos_of_ne_zero filled
  have unit := Nat.two_pow_pos x.exponent.natAbs
  have low : 2 ^ x.exponent.natAbs ≤ x.mantissa * 2 ^ x.exponent.natAbs :=
    Nat.le_mul_of_pos_left _ pos
  unfold roundingEnds numerator
  simp only [Nat.pow_eq]
  split <;> split <;> constructor <;> omega

private theorem readsBack_zero (filled : x.mantissa ≠ 0) (power : Int) :
    x.readsBack ⟨0, power⟩ = false := by
  have smaller {n : Nat} (pos : 0 < n) :
      (Scientific.mk 0 power).compareRatio n (4 * x.denominator) = .lt := by
    unfold Scientific.compareRatio
    simp only [Nat.zero_mul, Nat.pow_eq]
    split
    · exact Nat.compare_eq_lt.2 (Nat.mul_pos pos (Nat.pow_pos (by decide)))
    · exact Nat.compare_eq_lt.2 pos
  obtain ⟨low, high⟩ := roundingEnds_pos filled
  unfold readsBack
  simp only [smaller low, smaller high]

private theorem withDigits?_cases {power : Int} {count : Nat} {s : Scientific}
    (h : x.withDigits? power count = some s) :
    let grid := power - (count : Int) + 1
    x.readsBack s = true ∧ s.power = grid ∧
      s.digits ≤ floorAt x.numerator x.denominator grid + 1 := by
  unfold withDigits? nearer at h
  dsimp only at h
  split at h
  · rename_i low high
    cases h
    split
    · exact ⟨high, rfl, le_rfl⟩
    · exact ⟨low, rfl, Nat.le_succ _⟩
    · split
      · exact ⟨low, rfl, Nat.le_succ _⟩
      · exact ⟨high, rfl, le_rfl⟩
  · rename_i low _
    cases h
    exact ⟨low, rfl, Nat.le_succ _⟩
  · rename_i high
    cases h
    exact ⟨high, rfl, le_rfl⟩
  · cases h

private theorem shortest_cases (x : Binary64) :
    (∃ count s, x.withDigits? x.decimalPower (count + 1) = some s ∧ x.shortest = s.strip 17) ∨
      x.shortest = ⟨x.mantissa, x.exponent⟩ := by
  unfold shortest
  dsimp only
  split
  · rename_i s found
    obtain ⟨count, -, here⟩ := List.exists_of_findSome?_eq_some found
    exact .inl ⟨count, s, here, rfl⟩
  · exact .inr rfl

theorem shortest_digits_pos (filled : x.mantissa ≠ 0) : 0 < x.shortest.digits := by
  obtain ⟨count, s, found, same⟩ | same := shortest_cases x
  · rw [same]
    refine Scientific.strip_digits_pos 17 s (Nat.pos_of_ne_zero fun zero => ?_)
    have back := (withDigits?_cases found).1
    have blank : s = ⟨0, s.power⟩ := by rw [← zero]
    rw [blank, readsBack_zero filled] at back
    cases back
  · rw [same]
    exact Nat.pos_of_ne_zero filled

/-! The point. -/

private theorem decimalPower_le (h : Under k x) : x.decimalPower ≤ k + 1 := by
  have bits : (x.mantissa.log2 : Int) + x.exponent ≤ k := by
    have bound := h.exponent_le
    by_cases filled : x.mantissa = 0
    · rw [filled, Nat.log2_zero]
      omega
    · have logs := (Nat.log2_lt filled).2 h.mantissa_lt
      omega
  unfold decimalPower
  dsimp only
  split
  · omega
  · split <;> omega

private theorem floorAt_lt {num den : Nat} {grid : Int} (pos : 0 < den)
    (below : num < 2 ^ k * den) :
    floorAt num den grid < 10 ^ (k + (-grid).toNat) := by
  have tens : 2 ^ k ≤ 10 ^ k := Nat.pow_le_pow_left (by decide) k
  unfold floorAt
  simp only [Nat.pow_eq]
  split
  · have same : (-grid).toNat = grid.natAbs := by omega
    rw [same]
    apply Nat.div_lt_of_lt_mul
    calc num * 10 ^ grid.natAbs
        < 2 ^ k * den * 10 ^ grid.natAbs :=
          Nat.mul_lt_mul_of_pos_right below (Nat.pow_pos (by decide))
      _ ≤ 10 ^ k * den * 10 ^ grid.natAbs :=
          Nat.mul_le_mul_right _ (Nat.mul_le_mul_right _ tens)
      _ = den * 10 ^ (k + grid.natAbs) := by ring
  · have same : (-grid).toNat = 0 := by omega
    rw [same, Nat.add_zero]
    calc num / (den * 10 ^ grid.natAbs)
        ≤ num / den := Nat.div_le_div_left (Nat.le_mul_of_pos_right _ (Nat.pow_pos (by decide))) pos
      _ < 2 ^ k := Nat.div_lt_of_lt_mul (by rwa [Nat.mul_comm])
      _ ≤ 10 ^ k := tens

theorem point_shortest_le (h : Under k x) : x.shortest.point ≤ 2 * k + 2 := by
  obtain ⟨count, s, found, same⟩ | same := shortest_cases x
  · obtain ⟨-, power, digits⟩ := withDigits?_cases found
    rw [same, Scientific.point_strip]
    have low : floorAt x.numerator x.denominator s.power < 10 ^ (k + (-s.power).toNat) :=
      floorAt_lt (denominator_pos x) h.numerator_lt
    rw [← power] at digits
    have below : s.digits < 10 ^ (k + (-s.power).toNat + 1) := by
      rw [Nat.pow_succ]
      omega
    have point := Scientific.point_le_of_lt below
    have steep := decimalPower_le h
    omega
  · rw [same]
    have below : x.mantissa < 10 ^ (15 + 1) := h.mantissa_lt.trans (by decide)
    have point : Scientific.point ⟨x.mantissa, x.exponent⟩ ≤ (15 : Nat) + 1 + x.exponent :=
      Scientific.point_le_of_lt below
    have bound := h.exponent_le
    omega

end PanelProbe.Binary64
