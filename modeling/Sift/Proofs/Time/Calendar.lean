/-
  Sift.Proofs.Time.Calendar — the calendar leaves no day out and counts none twice.

  - `yearStart_succ` / `monthStart_succ`: a year and a month end where the next one starts, after the
    days that they have.
  - `yearOf_spec` / `monthOf_spec`: the year and the month that are found for a day hold it.
  - `eq_of_holds`: no other year or month does, so `yearOf_of_dayOf`: a date is a day of its own year.
-/

import Mathlib.Order.Monotone.Basic
import Sift.Time.Calendar

namespace Sift.Calendar

/-! ## Years -/

def daysOfYear (y : Int) : Int := if isLeap y then 366 else 365

theorem isLeap_iff (y : Int) : isLeap y = true ↔ y % 4 = 0 ∧ (y % 100 ≠ 0 ∨ y % 400 = 0) := by
  simp [isLeap]

theorem yearStart_succ (y : Int) : yearStart (y + 1) = yearStart y + daysOfYear y := by
  simp only [yearStart, daysBeforeYear, daysOfYear, isLeap_iff]
  split <;> omega

/-- A year starts less than two days from where it would if all years had the mean length. -/
theorem yearStart_bounds (y : Int) : 146097 * y - 396 ≤ 400 * (yearStart y + epochDays) ∧
    400 * (yearStart y + epochDays) ≤ 146097 * y + 699 := by
  simp only [yearStart, daysBeforeYear]
  omega

theorem yearOf_spec (day : Int) : yearStart (yearOf day) ≤ day ∧ day < yearStart (yearOf day + 1) := by
  have hbefore := yearStart_bounds (400 * (day + epochDays) / 146097 - 1)
  have hafter := yearStart_bounds (400 * (day + epochDays) / 146097 + 1 + 1)
  simp only [yearOf]
  split
  · next hnext => exact ⟨hnext, by omega⟩
  · next hnext =>
    split
    · next hearly =>
      rw [Int.sub_add_cancel]
      exact ⟨by omega, hearly⟩
    · next hearly => exact ⟨Int.not_lt.1 hearly, Int.not_le.1 hnext⟩

theorem daysOfYear_pos (y : Int) : 0 < daysOfYear y := by
  unfold daysOfYear
  split <;> decide

theorem yearStart_lt_succ (y : Int) : yearStart y < yearStart (y + 1) := by
  rw [yearStart_succ]
  exact Int.lt_add_of_pos_right _ (daysOfYear_pos y)

/-- Pieces that begin one after the other have no day in common. -/
theorem eq_of_holds {start : Int → Int} (hstart : ∀ i, start i < start (i + 1)) {i j day : Int}
    (hi : start i ≤ day ∧ day < start (i + 1)) (hj : start j ≤ day ∧ day < start (j + 1)) :
    i = j := by
  have hmono := strictMono_int_of_lt_succ hstart
  have hij : i < j + 1 := hmono.lt_iff_lt.1 (Int.lt_of_le_of_lt hi.1 hj.2)
  have hji : j < i + 1 := hmono.lt_iff_lt.1 (Int.lt_of_le_of_lt hj.1 hi.2)
  omega

/-! ## Months -/

/-- The days of a month, January being month 0. -/
def lengthOfMonth (leap : Bool) : Nat → Int
  | 1 => if leap then 29 else 28
  | 3 | 5 | 8 | 10 => 30
  | _ => 31

/-- The days of a month, January of year 0 being month 0. -/
def daysOfMonth (m : Int) : Int := lengthOfMonth (isLeap (m / 12)) (m % 12).toNat

theorem daysOfMonth_pos (m : Int) : 0 < daysOfMonth m := by
  simp only [daysOfMonth, lengthOfMonth]
  split
  · split <;> decide
  all_goals decide

/-- The days of a year before a month of it. -/
theorem daysBeforeMonth_succ : ∀ k < 11, ∀ leap : Bool,
    daysBeforeMonth (k + 1) + (if leap && decide (2 ≤ k + 1) then 1 else 0) =
      daysBeforeMonth k + (if leap && decide (2 ≤ k) then 1 else 0) + lengthOfMonth leap k := by
  decide

theorem monthStart_of_year (y : Int) {k : Nat} (hk : k < 12) :
    monthStart (12 * y + k) =
      yearStart y + (daysBeforeMonth k + (if isLeap y && decide (2 ≤ k) then 1 else 0)) := by
  have hyear : (12 * y + k) / 12 = y := by omega
  have hmonth : (12 * y + k) % 12 = k := by omega
  have hleap : decide (2 ≤ (k : Int)) = decide (2 ≤ k) := decide_eq_decide.2 (by omega)
  rw [monthStart, hyear, hmonth, Int.toNat_natCast, hleap, Int.add_assoc]

theorem monthStart_twelve (y : Int) : monthStart (12 * y) = yearStart y := by
  have hfirst := monthStart_of_year y (k := 0) (by decide)
  simpa [daysBeforeMonth] using hfirst

/-- What December leaves of the year is its own days. -/
theorem daysOfYear_december (y : Int) : daysOfYear y =
    daysBeforeMonth 11 + (if isLeap y && decide (2 ≤ 11) then 1 else 0)
      + lengthOfMonth (isLeap y) 11 := by
  rw [daysOfYear]
  cases isLeap y <;> decide

theorem monthStart_succ_of_year (y : Int) {k : Nat} (hk : k < 12) :
    monthStart (12 * y + k + 1) = monthStart (12 * y + k) + lengthOfMonth (isLeap y) k := by
  rcases Nat.lt_or_eq_of_le (Nat.le_of_lt_succ hk) with hinside | rfl
  · have hnext : 12 * y + k + 1 = 12 * y + (k + 1 : Nat) := by omega
    rw [hnext, monthStart_of_year y hk, monthStart_of_year y (Nat.succ_lt_succ hinside),
      daysBeforeMonth_succ k hinside, Int.add_assoc (yearStart y)]
  · have hnext : 12 * y + (11 : Nat) + 1 = 12 * (y + 1) := by omega
    rw [hnext, monthStart_twelve, yearStart_succ, monthStart_of_year y hk, daysOfYear_december,
      Int.add_assoc (yearStart y)]

theorem monthStart_succ (m : Int) : monthStart (m + 1) = monthStart m + daysOfMonth m := by
  obtain ⟨k, hk⟩ := Int.eq_ofNat_of_zero_le (Int.emod_nonneg m (by decide : (12 : Int) ≠ 0))
  have hm : 12 * (m / 12) + k = m := by omega
  have hsucc := monthStart_succ_of_year (m / 12) (k := k) (by omega)
  rw [hm] at hsucc
  rw [hsucc, daysOfMonth, hk]
  rfl

theorem monthStart_lt_succ (m : Int) : monthStart m < monthStart (m + 1) := by
  rw [monthStart_succ]
  exact Int.lt_add_of_pos_right _ (daysOfMonth_pos m)

theorem monthStart_le {m n : Int} (h : m ≤ n) : monthStart m ≤ monthStart n :=
  (strictMono_int_of_lt_succ monthStart_lt_succ).monotone h

/-- How many of the `n` months after the first have started. -/
def startedMonths (first day : Int) (n : Nat) : Nat :=
  (List.range n).countP fun (m : Nat) => monthStart (first + m + 1) ≤ day

theorem startedMonths_of_le {first day : Int} {n : Nat} (h : monthStart (first + n) ≤ day) :
    startedMonths first day n = n := by
  have hall : ∀ m ∈ List.range n, decide (monthStart (first + m + 1) ≤ day) = true := by
    intro m hm
    have hle : first + m + 1 ≤ first + n := by
      have := List.mem_range.1 hm
      omega
    exact decide_eq_true (Int.le_trans (monthStart_le hle) h)
  rw [startedMonths, List.countP_eq_length.2 hall, List.length_range]

theorem startedMonths_succ_of_lt {first day : Int} {n : Nat} (h : day < monthStart (first + n + 1)) :
    startedMonths first day (n + 1) = startedMonths first day n := by
  have hlast : decide (monthStart (first + n + 1) ≤ day) = false := decide_eq_false (Int.not_le.2 h)
  rw [startedMonths, List.range_succ, List.countP_append, List.countP_singleton, hlast]
  rfl

/-- Counting the months that have started stops at the one that holds the day. -/
theorem startedMonths_spec {first day : Int} {n : Nat} (hfirst : monthStart first ≤ day)
    (hlast : day < monthStart (first + n + 1)) :
    monthStart (first + startedMonths first day n) ≤ day ∧
      day < monthStart (first + startedMonths first day n + 1) := by
  induction n with
  | zero => simpa [startedMonths] using And.intro hfirst hlast
  | succ n ih =>
    by_cases hstarted : monthStart (first + (n + 1 : Nat)) ≤ day
    · rw [startedMonths_of_le hstarted]
      exact ⟨hstarted, hlast⟩
    · rw [Int.natCast_succ, ← Int.add_assoc] at hstarted
      have hlt := Int.not_le.1 hstarted
      rw [startedMonths_succ_of_lt hlt]
      exact ih hlt

theorem monthOf_spec (day : Int) :
    monthStart (monthOf day) ≤ day ∧ day < monthStart (monthOf day + 1) := by
  obtain ⟨hstart, hstop⟩ := yearOf_spec day
  rw [← monthStart_twelve] at hstart hstop
  have hlast : day < monthStart (12 * yearOf day + (11 : Nat) + 1) := by
    rw [show 12 * yearOf day + (11 : Nat) + 1 = 12 * (yearOf day + 1) by omega]
    exact hstop
  exact startedMonths_spec hstart hlast

/-! ## Dates -/

theorem yearOf_of_dayOf {year month dayOfMonth day : Int} (h : dayOf year month dayOfMonth = some day) :
    yearOf day = year := by
  simp only [dayOf, Bool.and_eq_true, decide_eq_true_iff, Option.ite_none_right_eq_some,
    Option.some.injEq] at h
  obtain ⟨⟨⟨⟨hfirst, hlast⟩, hday⟩, hinside⟩, rfl⟩ := h
  have hstart : monthStart (12 * year) ≤ monthStart (12 * year + (month - 1)) :=
    monthStart_le (by omega)
  have hstop : monthStart (12 * year + (month - 1) + 1) ≤ monthStart (12 * (year + 1)) :=
    monthStart_le (by omega)
  rw [monthStart_twelve] at hstart hstop
  exact eq_of_holds yearStart_lt_succ (yearOf_spec _) (by omega)

end Sift.Calendar
