import Mathlib.Order.Monotone.Basic
import Mathlib.Algebra.Order.Group.Int
import PanelProbe.Calendar.Date

/-!
The count of days. Months and years follow one another in it without gaps, so different dates have
different numbers, and the day before has the number before.
-/

set_option autoImplicit false

namespace PanelProbe.Calendar

def daysInYear (year : Int) : Nat :=
  if isLeap year then 366 else 365

private theorem daysInMonth_pos (year : Int) (month : Nat) : 1 ≤ daysInMonth year month := by
  unfold daysInMonth
  split
  · split <;> decide
  · split <;> decide

theorem daysInMonth_le (year : Int) (month : Nat) : daysInMonth year month ≤ 31 := by
  unfold daysInMonth
  split
  · split <;> decide
  · split <;> decide

namespace Date

structure IsValid (d : Date) : Prop where
  month_pos : 1 ≤ d.month
  month_le : d.month ≤ 12
  day_pos : 1 ≤ d.day
  day_le : d.day ≤ daysInMonth d.year d.month

instance (d : Date) : Decidable d.IsValid :=
  decidable_of_iff (1 ≤ d.month ∧ d.month ≤ 12 ∧ 1 ≤ d.day ∧ d.day ≤ daysInMonth d.year d.month)
    ⟨fun ⟨a, b, c, d⟩ => ⟨a, b, c, d⟩, fun ⟨a, b, c, d⟩ => ⟨a, b, c, d⟩⟩

/-! Months. -/

private theorem daysBeforeMonth_succ (year : Int) {month : Nat} (pos : 1 ≤ month) :
    daysBeforeMonth year (month + 1) = daysBeforeMonth year month + daysInMonth year month := by
  obtain ⟨m, rfl⟩ := Nat.exists_eq_add_of_le' pos
  simp [daysBeforeMonth, List.range_succ]

private theorem daysBeforeMonth_mono (year : Int) : Monotone (daysBeforeMonth year) := by
  refine monotone_nat_of_le_succ fun month => ?_
  cases month with
  | zero => exact Nat.le_refl 0
  | succ m =>
    rw [daysBeforeMonth_succ year (Nat.le_add_left 1 m)]
    exact Nat.le_add_right _ _

private theorem daysBeforeMonth_end (year : Int) : daysBeforeMonth year 13 = daysInYear year := by
  simp only [daysBeforeMonth, daysInYear, daysInMonth]
  cases isLeap year <;> rfl

/-! Years. -/

private theorem daysBeforeYear_succ (year : Int) :
    daysBeforeYear (year + 1) = daysBeforeYear year + daysInYear year := by
  have leap : isLeap year = true ↔ year % 4 = 0 ∧ (year % 100 ≠ 0 ∨ year % 400 = 0) := by
    simp [isLeap]
  unfold daysBeforeYear daysInYear
  split
  · rename_i special
    have divides := leap.1 special
    omega
  · rename_i common
    have indivisible := mt leap.2 common
    omega

private theorem daysBeforeYear_mono {m n : Int} (le : m ≤ n) :
    daysBeforeYear m ≤ daysBeforeYear n := by
  refine monotone_int_of_le_succ (fun year => ?_) le
  rw [daysBeforeYear_succ]
  omega

/-! Numbers. -/

variable {d e : Date}

private theorem dayNumber_month (h : d.IsValid) :
    daysBeforeYear d.year + daysBeforeMonth d.year d.month ≤ d.dayNumber ∧
      d.dayNumber < daysBeforeYear d.year + daysBeforeMonth d.year (d.month + 1) := by
  have first := h.day_pos
  have last := h.day_le
  rw [daysBeforeMonth_succ d.year h.month_pos, dayNumber]
  omega

private theorem dayNumber_year (h : d.IsValid) :
    daysBeforeYear d.year ≤ d.dayNumber ∧ d.dayNumber < daysBeforeYear (d.year + 1) := by
  have month := dayNumber_month h
  have last : daysBeforeMonth d.year (d.month + 1) ≤ daysBeforeMonth d.year 13 :=
    daysBeforeMonth_mono d.year (Nat.succ_le_succ h.month_le)
  rw [daysBeforeMonth_end] at last
  rw [daysBeforeYear_succ]
  omega

/-- A number belongs to one date. -/
theorem eq_of_dayNumber_eq (hd : d.IsValid) (he : e.IsValid) (same : d.dayNumber = e.dayNumber) :
    d = e := by
  have years : d.year = e.year := by
    have first := dayNumber_year hd
    have second := dayNumber_year he
    obtain earlier | equal | later := lt_trichotomy d.year e.year
    · have apart := daysBeforeYear_mono (Int.add_one_le_of_lt earlier)
      omega
    · exact equal
    · have apart := daysBeforeYear_mono (Int.add_one_le_of_lt later)
      omega
  have months : d.month = e.month := by
    have first := dayNumber_month hd
    have second := dayNumber_month he
    rw [← years] at second
    obtain earlier | equal | later := lt_trichotomy d.month e.month
    · have apart : daysBeforeMonth d.year (d.month + 1) ≤ daysBeforeMonth d.year e.month :=
        daysBeforeMonth_mono d.year earlier
      omega
    · exact equal
    · have apart : daysBeforeMonth d.year (e.month + 1) ≤ daysBeforeMonth d.year d.month :=
        daysBeforeMonth_mono d.year later
      omega
  obtain ⟨year, month, first⟩ := d
  obtain ⟨year', month', second⟩ := e
  obtain rfl : year = year' := years
  obtain rfl : month = month' := months
  simp only [dayNumber] at same
  congr
  omega

/-! Days before. -/

private theorem isValid_yesterday (h : d.IsValid) : d.yesterday.IsValid := by
  have december := h.month_le
  unfold yesterday
  split
  · have last := h.day_le
    exact ⟨h.month_pos, h.month_le, by dsimp only; omega, by dsimp only; omega⟩
  · split
    · exact ⟨by dsimp only; omega, by dsimp only; omega, daysInMonth_pos _ _, Nat.le_refl _⟩
    · exact ⟨Nat.le_add_left 1 11, Nat.le_refl 12, Nat.le_add_left 1 30, Nat.le_refl 31⟩

private theorem dayNumber_yesterday (h : d.IsValid) : d.yesterday.dayNumber = d.dayNumber - 1 := by
  have first := h.day_pos
  have january := h.month_pos
  unfold yesterday
  split
  · simp only [dayNumber]
    omega
  · split
    · rename_i inside
      have before := daysBeforeMonth_succ d.year (Nat.le_sub_one_of_lt inside)
      rw [Nat.sub_add_cancel h.month_pos] at before
      simp only [dayNumber]
      omega
    · -- The first day of a year comes behind the last of the year before.
      have year := daysBeforeYear_succ (d.year - 1)
      have december := daysBeforeMonth_succ (d.year - 1) (by decide : 1 ≤ 12)
      rw [daysBeforeMonth_end] at december
      have length : daysInMonth (d.year - 1) 12 = 31 := rfl
      have month : d.month = 1 := by omega
      have start : daysBeforeMonth d.year 1 = 0 := rfl
      rw [Int.sub_add_cancel] at year
      simp only [dayNumber, month, start]
      omega

theorem isValid_before (h : d.IsValid) (n : Nat) : (d.before n).IsValid := by
  induction n generalizing d with
  | zero => exact h
  | succ n ih => exact ih (isValid_yesterday h)

theorem dayNumber_before (h : d.IsValid) (n : Nat) :
    (d.before n).dayNumber = d.dayNumber - n := by
  induction n generalizing d with
  | zero => exact (Int.sub_zero _).symm
  | succ n ih =>
    rw [before, ih (isValid_yesterday h), dayNumber_yesterday h]
    omega

end Date

end PanelProbe.Calendar
