import PanelProbe.Command.Perform
import PanelProbe.Proofs.Calendar.Reading
import PanelProbe.Proofs.Json.Address

/-!
The window of the traffic queries: it ends on the day of the run and starts seven days before. Where
that day is not represented there is no query, and the command breaks off.
-/

set_option autoImplicit false

namespace PanelProbe

open Calendar

/-- The value under a key is a text that stands for a date. -/
def Json.ShowsDate (v : Json) (key : String) (d : Date) : Prop :=
  ∃ text, v.at? key = some (.string text) ∧ Date.ofText? text = some d

private theorem exists_trafficQuery {f : Fixture} {start : Date}
    (represented : f.today.before? Fixture.windowDays = some start) :
    ∃ window, f.trafficQuery? = some window ∧
      window.at? "start_date" = some (.string start.text) ∧
      window.at? "end_date" = some (.string f.today.text) := by
  refine ⟨_, by rw [Fixture.trafficQuery?, represented, Option.map_some], ?_, ?_⟩
  · exact Json.at?_ofMembers (by decide) [] _ (by simp)
  · exact Json.at?_ofMembers (by decide) [(_, _)] _ (by simp)

private theorem Command.complaint_of_unbuilt {s : Surroundings} {c : Config}
    (unbuilt : Scenario.canonical? s.fixture c.admin = none) (verbose : Bool) :
    (probe s verbose c).complaint = some Scenario.windowOverflow := by
  unfold probe
  split
  · rfl
  · rename_i built
    rw [unbuilt] at built
    cases built

namespace Scenario

/-- The date seven days before has a place in the calendar of its own. The traffic queries start
there and end today, unless it comes before every date that is represented: then the scenario cannot
be built. -/
theorem traffic_window (f : Fixture) (valid : f.today.IsValid) :
    ∃ start : Date, start.IsValid ∧ start.dayNumber = f.today.dayNumber - 7 ∧
      (∀ other : Date, other.IsValid → other.dayNumber = start.dayNumber → other = start) ∧
      (Date.earliestYear ≤ start.year → ∃ window, f.trafficQuery? = some window ∧
        traffic? f = some (trafficOver window) ∧
        window.ShowsDate "start_date" start ∧ window.ShowsDate "end_date" f.today) ∧
      (start.year < Date.earliestYear → f.trafficQuery? = none ∧ traffic? f = none ∧
        ∀ (s : Command.Surroundings) (verbose : Bool) (c : Config),
          (Command.probe { s with fixture := f } verbose c).complaint = some windowOverflow) := by
  have sound := Date.isValid_before valid Fixture.windowDays
  have number := Date.dayNumber_before valid Fixture.windowDays
  have unique : ∀ other : Date, other.IsValid →
      other.dayNumber = (f.today.before Fixture.windowDays).dayNumber →
      other = f.today.before Fixture.windowDays :=
    fun other h same => Date.eq_of_dayNumber_eq h sound same
  refine ⟨_, sound, number, unique, fun inside => ?_, fun outside => ?_⟩
  · obtain ⟨window, query, first, last⟩ := exists_trafficQuery (f := f)
      (by rw [Date.before?, if_neg (Int.not_lt.2 inside)])
    refine ⟨window, query, by rw [traffic?, query, Option.map_some], ?_, ?_⟩
    · exact ⟨_, first, Date.ofText?_text sound⟩
    · exact ⟨_, last, Date.ofText?_text valid⟩
  · have start : f.today.before? Fixture.windowDays = none := by
      rw [Date.before?, if_pos outside]
    have query : f.trafficQuery? = none := by
      rw [Fixture.trafficQuery?, start, Option.map_none]
    have phase : traffic? f = none := by
      rw [traffic?, query, Option.map_none]
    refine ⟨query, phase, fun s verbose c => Command.complaint_of_unbuilt ?_ verbose⟩
    rw [canonical?, phase, Option.map_none]

theorem window_before_year_zero :
    let f : Fixture := ⟨0, ⟨0, 1, 1⟩⟩
    f.today.IsValid ∧ ∃ window, f.trafficQuery? = some window ∧
      window.ShowsDate "start_date" ⟨-1, 12, 25⟩ ∧ window.ShowsDate "end_date" ⟨0, 1, 1⟩ := by
  intro f
  have valid : f.today.IsValid := by decide
  obtain ⟨start, -, number, unique, inside, -⟩ := traffic_window f valid
  obtain rfl := unique ⟨-1, 12, 25⟩ (by decide) (number ▸ by decide)
  obtain ⟨window, query, -, first, last⟩ := inside (by decide)
  exact ⟨valid, window, query, first, last⟩

end Scenario

end PanelProbe
