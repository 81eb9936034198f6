-- The days of the calendar. The days before a year grow with the year, and the days of a year are
-- those of its months, so the number of every date lies between two fixed days.
import Mathlib.Tactic.IntervalCases
import Chassis.Calendar.Date

namespace Chassis.Calendar

/-! ## Years and months -/

/-- How many days a year has. -/
def daysOfYear (year : Int) : Nat := if isLeap year then 366 else 365

theorem daysIn_le (year : Int) (month : Nat) : daysIn year month ≤ 31 := by
  unfold daysIn
  split
  · decide
  · rw [List.getD_eq_getElem?_getD]
    cases hlength : monthLengths[month - 1]? with
    | none => decide
    | some length =>
      have hall : ∀ length ∈ monthLengths, length ≤ 31 := by decide
      exact hall length (List.mem_of_getElem? hlength)

namespace Date

theorem daysBeforeYear_mono {year later : Int} (h : year ≤ later) :
    daysBeforeYear year ≤ daysBeforeYear later := by
  simp only [daysBeforeYear]
  omega

theorem daysBeforeYear_next (year : Int) :
    daysBeforeYear (year + 1) = daysBeforeYear year + daysOfYear year := by
  unfold daysBeforeYear daysOfYear isLeap
  simp only [Bool.and_eq_true, Bool.or_eq_true, decide_eq_true_eq]
  split <;> omega

/-- A day of a month is a day of its year. -/
theorem daysBeforeMonth_add_le {year : Int} {month day : Nat} (hmonth : 1 ≤ month ∧ month ≤ 12)
    (hday : day ≤ daysIn year month) : daysBeforeMonth year month + day ≤ daysOfYear year := by
  obtain ⟨hfirst, hlast⟩ := hmonth
  unfold daysOfYear
  cases hleap : isLeap year with
  | false =>
    interval_cases month <;>
      simp [daysIn, daysBeforeMonth, monthLengths, hleap, List.range_succ] at hday ⊢ <;> omega
  | true =>
    interval_cases month <;>
      simp [daysIn, daysBeforeMonth, monthLengths, hleap, List.range_succ] at hday ⊢ <;> omega

/-! ## Dates -/

/-- The number of the last day of the calendar. -/
def lastDay : Int := daysBeforeYear (lastYear + 1)

theorem firstDay_le (date : Date) : firstDay ≤ date.dayNumber := by
  have hyear := daysBeforeYear_mono date.year_range.1
  have hday := date.day_range.1
  unfold firstDay dayNumber
  omega

theorem le_lastDay (date : Date) : date.dayNumber ≤ lastDay := by
  have hyear := daysBeforeYear_mono (Int.add_le_add_right date.year_range.2 1)
  have hday := daysBeforeMonth_add_le date.month_range date.day_range.2
  rw [daysBeforeYear_next] at hyear
  unfold lastDay dayNumber
  omega

end Date

end Chassis.Calendar
