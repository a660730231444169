import Mathlib.Data.List.Basic
import PanelProbe.Proofs.Calendar.Day
import PanelProbe.Proofs.Text.Numeral

/-!
Dates as texts. A reader of year, month and day between hyphens finds in the text of a date that
date, before year 0 and behind year 9999 as well.
-/

set_option autoImplicit false

namespace PanelProbe.Calendar.Date

/-- Reads a year: four digits, or a sign and at least four digits. -/
def year? : List Char → Option Int
  | '-' :: run =>
    if 4 ≤ run.length then (Text.ofDigits? run).map fun n : Nat => -(n : Int) else none
  | '+' :: run =>
    if 4 ≤ run.length then (Text.ofDigits? run).map fun n : Nat => (n : Int) else none
  | run => if run.length = 4 then (Text.ofDigits? run).map fun n : Nat => (n : Int) else none

/-- Reads a year, two digits for the month and two for the day, with hyphens between them. -/
def ofText? (text : String) : Option Date :=
  match text.toList.reverse with
  | d :: d' :: '-' :: m :: m' :: '-' :: front => do
    let year ← year? front.reverse
    let month ← Text.ofDigits? [m', m]
    let day ← Text.ofDigits? [d', d]
    if IsValid ⟨year, month, day⟩ then some ⟨year, month, day⟩ else none
  | _ => none

private theorem year?_yearChars (year : Int) : year? (yearChars year) = some year := by
  have wide (n : Nat) : 4 ≤ (Text.padded 4 n).length := Text.le_length_padded 4 n
  unfold yearChars
  split
  · rename_i plain
    have exact : (Text.padded 4 year.toNat).length = 4 :=
      Text.length_padded (by decide) (by omega)
    have unsigned (c : Char) (rest : List Char) (sign : c.isDigit = false) :
        Text.padded 4 year.toNat ≠ c :: rest :=
      fun same => Text.notMem_padded sign 4 year.toNat (same ▸ List.mem_cons_self)
    unfold year?
    split
    · rename_i same
      exact absurd same (unsigned _ _ (by decide))
    · rename_i same
      exact absurd same (unsigned _ _ (by decide))
    · rw [if_pos exact, Text.ofDigits?_padded, Option.map_some, Int.toNat_of_nonneg plain.1]
  · split
    · rw [year?, if_pos (wide _), Text.ofDigits?_padded, Option.map_some]
      congr
      omega
    · rw [year?, if_pos (wide _), Text.ofDigits?_padded, Option.map_some]
      congr
      omega

theorem ofText?_text {d : Date} (h : d.IsValid) : ofText? d.text = some d := by
  have pair (n : Nat) (small : n < 100) : ∃ a b, Text.padded 2 n = [a, b] := by
    have length : (Text.padded 2 n).length = 2 := Text.length_padded (by decide) small
    exact List.length_eq_two.1 length
  have month := h.month_le
  have day := h.day_le.trans (daysInMonth_le d.year d.month)
  obtain ⟨m', m, months⟩ := pair d.month (by omega)
  obtain ⟨e', e, days⟩ := pair d.day (by omega)
  have whole : d.text.toList.reverse =
      e :: e' :: '-' :: m :: m' :: '-' :: (yearChars d.year).reverse := by
    simp [text, chars, months, days]
  rw [ofText?, whole]
  simp only [List.reverse_reverse, year?_yearChars, ← months, ← days, Text.ofDigits?_padded]
  exact if_pos h

/-- The year before year 0 has a sign. -/
example : text ⟨-1, 12, 31⟩ = "-0001-12-31" ∧ ofText? "-0001-12-31" = some ⟨-1, 12, 31⟩ := by
  decide

end PanelProbe.Calendar.Date
