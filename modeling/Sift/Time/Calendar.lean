/-
  Sift.Time.Calendar — the proleptic Gregorian calendar over whole numbers.

  Days are counted from the first of January 1970, months and years through all of time, both from
  year 0. `monthStart` is the first day of a month; `monthOf` and `yearOf` find the month and the
  year that hold a day. Everything else (the days of a month, whether a day exists) follows from
  where the months start.
-/

namespace Sift.Calendar

/-! ## Where years and months start -/

/-- The days from the start of year 0 to the start of year `y`. -/
def daysBeforeYear (y : Int) : Int := 365 * y + (y + 3) / 4 - (y + 99) / 100 + (y + 399) / 400

def isLeap (y : Int) : Bool := y % 4 == 0 && (y % 100 != 0 || y % 400 == 0)

/-- The days of a common year before its months, January being 0. -/
def daysBeforeMonth : Nat → Int
  | 0 => 0
  | 1 => 31
  | 2 => 59
  | 3 => 90
  | 4 => 120
  | 5 => 151
  | 6 => 181
  | 7 => 212
  | 8 => 243
  | 9 => 273
  | 10 => 304
  | _ => 334

/-- The days from the start of year 0 to the start of 1970. -/
def epochDays : Int := 719528

def yearStart (y : Int) : Int := daysBeforeYear y - epochDays

/-- The first day of the month `m`, January of year 0 being month 0. -/
def monthStart (m : Int) : Int :=
  yearStart (m / 12) + daysBeforeMonth (m % 12).toNat
    + (if isLeap (m / 12) && 2 ≤ m % 12 then 1 else 0)

/-! ## What holds a day -/

/-- The mean year has 146097 / 400 days, so the guess is at most one year off. -/
def yearOf (day : Int) : Int :=
  let guess := 400 * (day + epochDays) / 146097
  if yearStart (guess + 1) ≤ day then guess + 1
  else if day < yearStart guess then guess - 1
  else guess

/-- The year's first month and one more for each later month that has started. -/
def monthOf (day : Int) : Int :=
  let first := 12 * yearOf day
  let later := (List.range 11).countP fun (m : Nat) => monthStart (first + m + 1) ≤ day
  first + later

/-- The day of a date whose month and day of the month count from 1, if the month has that day. -/
def dayOf (year month day : Int) : Option Int :=
  let m := 12 * year + (month - 1)
  if 1 ≤ month && month ≤ 12 && 1 ≤ day && monthStart m + (day - 1) < monthStart (m + 1) then
    some (monthStart m + (day - 1))
  else none

/-! ## The days that are kept -/

def firstYear : Int := -262143

def lastYear : Int := 262142

def secondsPerDay : Int := 86400

/-- Whether a time, in seconds since the start of 1970, falls on a day of the kept years. -/
def keeps (second : Int) : Bool :=
  secondsPerDay * yearStart firstYear ≤ second && second < secondsPerDay * yearStart (lastYear + 1)

end Sift.Calendar
