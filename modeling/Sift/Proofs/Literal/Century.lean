/-
  Sift.Proofs.Literal.Century — which year the two digits of a short date mean.

  The digits are a year of the present century, unless that is more than 20 years ahead: then they are
  a year of the century before (`fullYear_lands`). Nothing looks the other way, so in the last years of
  a century the digits of the first years of the next one mean years that are long past.

  - `localYear_of_read`: the window of a short date lies in the year that its digits mean.
  - `year_of_short_date`: which is at most 20 years ahead, and at most 80 years ago unless the digits
    are more than 80 behind those of the present year.
  - `long_past_year`: in 2090, the year 05 is 2005.
-/

import Sift.Proofs.Literal.Date

namespace Sift

open Calendar

/-- The year in which the search is made, in local time. -/
def Settings.localYear (settings : Settings) : Int := yearOf (settings.localNow / secondsPerDay)

/-- The year in which a window begins, in local time. -/
def DateWindow.localYear (settings : Settings) (window : DateWindow) : Int :=
  yearOf ((window.start / 1000 + settings.offset) / secondsPerDay)

namespace DateLiteral

/-- How the year that two digits mean lies around the present one. -/
structure Lands (current digits year : Int) : Prop where
  lastDigits : year % 100 = digits
  ahead : year ≤ current + 20
  recent : current % 100 ≤ digits + 80 → current - 80 ≤ year
  /-- Digits so far behind are of the present century all the same. -/
  past : digits + 80 < current % 100 → year = current - current % 100 + digits

theorem fullYear_lands {current digits : Int} (hcurrent : 0 ≤ current) (hdigits : 0 ≤ digits)
    (hlast : digits < 100) : Lands current digits (fullYear current digits) := by
  have hyear : fullYear current digits =
      if digits + (current - current % 100) > current + 20 then
        digits + (current - current % 100) - 100
      else digits + (current - current % 100) := by
    rw [fullYear, if_pos hlast, Int.tmod_eq_emod_of_nonneg hcurrent]
  rw [hyear]
  by_cases hahead : digits + (current - current % 100) > current + 20
  · rw [if_pos hahead]
    constructor <;> omega
  · rw [if_neg hahead]
    constructor <;> omega

/-- The year among the parts of a short date. -/
def yearPart (settings : Settings) (parts : Int × Int × Int) : Int :=
  (arrange settings.dateOrder parts).1

variable {settings : Settings} {text : String} {parts : Int × Int × Int} {literal : DateLiteral}

theorem IsDatePart.nonneg {digits : List Char} {n : Int} (h : IsDatePart digits n) : 0 ≤ n := by
  rw [h.value]
  exact Int.natCast_nonneg _

theorem IsShortDate.yearPart_nonneg {cs : List Char} (h : IsShortDate cs parts) :
    0 ≤ yearPart settings parts := by
  obtain ⟨-, hfirst, -, hthird⟩ := h
  unfold yearPart
  cases settings.dateOrder with
  | monthFirst => exact hthird.nonneg
  | dayFirst => exact hthird.nonneg
  | yearFirst => exact hfirst.nonneg

/-- A short date reads as its own three numbers and no others. -/
theorem IsShortDate.unique {cs : List Char} {other : Int × Int × Int} (h : IsShortDate cs parts)
    (hother : IsShortDate cs other) : parts = other := by
  have hparts := h.readDateParts
  rw [hother.readDateParts] at hparts
  exact (Option.some.inj hparts).symm

theorem start_of_pieceWindow {unit : DateUnit} {index : Int} {window : DateWindow}
    (h : pieceWindow settings unit index = .ok window) :
    window.start = 1000 * (unit.start index - settings.offset) := by
  simp only [pieceWindow] at h
  split at h
  · cases h
    rfl
  · cases h

/-- A day of one unit begins at midnight of a day of that year. -/
theorem localYear_of_read (hdate : IsShortDate (unsigned (valueOf text)) parts)
    (hread : read settings .day text = .ok literal) :
    literal.window.localYear settings = fullYear settings.localYear (yearPart settings parts) := by
  obtain ⟨window, hwindow, rfl⟩ := read_eq_ok_iff.1 hread
  rw [readWindow_of_isShortDate hdate] at hwindow
  obtain ⟨day, hday, hpiece⟩ := exists_of_bind hwindow
  obtain ⟨other, hother, hfull⟩ := exists_date_of_readDay hday
  obtain rfl := hother.unique hdate
  have hmidnight : (window.start / 1000 + settings.offset) / secondsPerDay = day := by
    rw [start_of_pieceWindow hpiece]
    simp only [DateUnit.start, DateUnit.indexOf, secondsPerDay]
    omega
  rw [DateWindow.localYear, hmidnight]
  exact yearOf_of_dayOf hfull

/-- For every order of day, month and year, and whatever stands before the date. -/
theorem year_of_short_date (hdate : IsShortDate (unsigned (valueOf text)) parts)
    (hdigits : yearPart settings parts < 100) (hcurrent : 100 ≤ settings.localYear)
    (hread : read settings .day text = .ok literal) :
    Lands settings.localYear (yearPart settings parts) (literal.window.localYear settings) := by
  rw [localYear_of_read hdate hread]
  exact fullYear_lands (by omega) hdate.yearPart_nonneg hdigits

/-- In 2085, the day of a leap year 77 years ago. -/
theorem leap_day_of_short_year :
    let settings : Settings := { Settings.standard ⟨3643000000, 0⟩ with dateOrder := .dayFirst }
    let literal : DateLiteral := ⟨none, ⟨1204243200000, 1204329600000⟩⟩
    IsShortDate (unsigned (valueOf "29.2.08")) (29, 2, 8) ∧ yearPart settings (29, 2, 8) < 100 ∧
      settings.localYear = 2085 ∧ 100 ≤ settings.localYear ∧
      read settings .day "29.2.08" = .ok literal ∧ literal.window.localYear settings = 2008 ∧
      Lands settings.localYear (yearPart settings (29, 2, 8)) (literal.window.localYear settings) := by
  intro settings literal
  have hparts : readDateParts (unsigned (valueOf "29.2.08")) = some (29, 2, 8) := by decide +kernel
  have hdate := isShortDate_of_readDateParts hparts
  have hyear : settings.localYear = 2085 := by decide +kernel
  have hcurrent : 100 ≤ settings.localYear := by rw [hyear]; decide
  have hread : read settings .day "29.2.08" = .ok literal := by decide +kernel
  have hdigits : yearPart settings (29, 2, 8) < 100 := by decide
  exact ⟨hdate, hdigits, hyear, hcurrent, hread, by decide +kernel,
    year_of_short_date hdate hdigits hcurrent hread⟩

/-- In 2090 the digits 05 mean a year that is 85 years ago, and not the one 15 years ahead. -/
theorem long_past_year :
    let settings := Settings.standard ⟨3793775400, 0⟩
    let literal : DateLiteral := ⟨none, ⟨1104537600000, 1104624000000⟩⟩
    IsShortDate (unsigned (valueOf "1/1/05")) (1, 1, 5) ∧ yearPart settings (1, 1, 5) = 5 ∧
      settings.localYear = 2090 ∧ read settings .day "1/1/05" = .ok literal ∧
      literal.window.localYear settings = 2005 ∧
      ¬ settings.localYear - 80 ≤ literal.window.localYear settings := by
  intro settings literal
  have hparts : readDateParts (unsigned (valueOf "1/1/05")) = some (1, 1, 5) := by decide +kernel
  have hnow : settings.localYear = 2090 := by decide +kernel
  have hyear : literal.window.localYear settings = 2005 := by decide +kernel
  refine ⟨isShortDate_of_readDateParts hparts, rfl, hnow, by decide +kernel, hyear, ?_⟩
  rw [hnow, hyear]
  decide

end DateLiteral

end Sift
