/-
  Sift.Proofs.Time.DateUnit — the pieces of a unit's grid cut up the time line.

  - `start_lt_succ` / `start_le`: each piece begins before the next one, so they stand in order.
  - `indexOf_spec`: the piece that is found for a time holds it.
  - `truncate_eq_start` / `later_start`: a piece begins where counting on from the beginning of another leads, by
    seconds or on the calendar.
-/

import Sift.Proofs.Time.Calendar
import Sift.Time.DateUnit

namespace Sift

open Calendar

namespace DateUnit

variable (unit : DateUnit)

/-! ## Pieces -/

theorem start_lt_succ (index : Int) : unit.start index < unit.start (index + 1) := by
  cases unit with
  | month =>
    have hmonth := monthStart_lt_succ index
    simp only [start, secondsPerDay]
    omega
  | year =>
    have hyear := yearStart_lt_succ index
    simp only [start, secondsPerDay]
    omega
  | _ =>
    simp only [start, secondsPerDay]
    omega

theorem start_le {i j : Int} (h : i ≤ j) : unit.start i ≤ unit.start j :=
  (strictMono_int_of_lt_succ unit.start_lt_succ).monotone h

theorem indexOf_spec (second : Int) :
    unit.start (unit.indexOf second) ≤ second ∧ second < unit.start (unit.indexOf second + 1) := by
  cases unit with
  | month =>
    obtain ⟨hstart, hstop⟩ := monthOf_spec (second / secondsPerDay)
    simp only [start, indexOf, secondsPerDay] at hstart hstop ⊢
    omega
  | year =>
    obtain ⟨hstart, hstop⟩ := yearOf_spec (second / secondsPerDay)
    simp only [start, indexOf, secondsPerDay] at hstart hstop ⊢
    omega
  | _ =>
    simp only [start, indexOf, secondsPerDay]
    omega

end DateUnit

/-! ## Counting on the calendar -/

namespace Calendar

theorem monthOf_monthStart (m : Int) : monthOf (monthStart m) = m :=
  eq_of_holds monthStart_lt_succ (monthOf_spec (monthStart m)) ⟨Int.le_refl _, monthStart_lt_succ m⟩

/-- The same day of the month so many months later, or the last one if that month has fewer days. -/
def addMonths (amount day : Int) : Int :=
  let m := monthOf day
  monthStart (m + amount) + min (day - monthStart m) (daysOfMonth (m + amount) - 1)

theorem addMonths_monthStart (amount m : Int) :
    addMonths amount (monthStart m) = monthStart (m + amount) := by
  have hdays := daysOfMonth_pos (m + amount)
  simp only [addMonths, monthOf_monthStart]
  omega

end Calendar

namespace DateUnit

/-- The time without what goes beyond the unit: back to a full minute or hour, to midnight, to
    Sunday, or to the first day of the month or year. -/
def truncate (unit : DateUnit) (second : Int) : Int :=
  let date := second / secondsPerDay
  match unit with
  | minute => second - second % 60
  | hour => second - second % 3600
  | day => second - second % secondsPerDay
  | week => secondsPerDay * (date - (date + 4) % 7)
  | month => secondsPerDay * monthStart (monthOf date)
  | year => secondsPerDay * yearStart (yearOf date)

/-- The time so many units later; months and years are counted on the calendar. -/
def later (unit : DateUnit) (amount second : Int) : Int :=
  match unit with
  | minute => second + 60 * amount
  | hour => second + 3600 * amount
  | day => second + secondsPerDay * amount
  | week => second + 7 * secondsPerDay * amount
  | month => secondsPerDay * addMonths amount (second / secondsPerDay) + second % secondsPerDay
  | year =>
    secondsPerDay * addMonths (12 * amount) (second / secondsPerDay) + second % secondsPerDay

theorem truncate_eq_start (unit : DateUnit) (second : Int) :
    unit.truncate second = unit.start (unit.indexOf second) := by
  cases unit with
  | month | year => rfl
  | _ =>
    simp only [truncate, start, indexOf, secondsPerDay]
    omega

theorem later_start (unit : DateUnit) (amount index : Int) :
    unit.later amount (unit.start index) = unit.start (index + amount) := by
  have hmidnight : ∀ day, secondsPerDay * day / secondsPerDay = day ∧
      secondsPerDay * day % secondsPerDay = 0 := by
    intro day
    simp only [secondsPerDay]
    omega
  cases unit with
  | month =>
    simp only [later, start, hmidnight, addMonths_monthStart]
    omega
  | year =>
    have hmonths : 12 * index + 12 * amount = 12 * (index + amount) := by omega
    simp only [later, start, hmidnight]
    rw [← monthStart_twelve, addMonths_monthStart, hmonths, monthStart_twelve, Int.add_zero]
  | _ =>
    simp only [later, start, secondsPerDay]
    omega

end DateUnit

end Sift
