/-
  Sift.Time.DateUnit — the units of time as grids: each cuts the time line, in seconds of local
  time since the start of 1970, into numbered pieces without gaps. `indexOf` is the number of the
  piece that holds a time and `start` the time at which a piece begins; weeks begin on Sunday.
-/

import Sift.Time.Calendar

namespace Sift

inductive DateUnit where
  | minute
  | hour
  | day
  | week
  | month
  | year
  deriving DecidableEq, Repr

namespace DateUnit

open Calendar

def indexOf (unit : DateUnit) (second : Int) : Int :=
  match unit with
  | minute => second / 60
  | hour => second / 3600
  | day => second / secondsPerDay
  | week => (second / secondsPerDay + 4) / 7
  | month => monthOf (second / secondsPerDay)
  | year => yearOf (second / secondsPerDay)

/-- The week of number 0 begins on Sunday, the 28th of December 1969. -/
def start (unit : DateUnit) (index : Int) : Int :=
  match unit with
  | minute => 60 * index
  | hour => 3600 * index
  | day => secondsPerDay * index
  | week => secondsPerDay * (7 * index - 4)
  | month => secondsPerDay * monthStart index
  | year => secondsPerDay * yearStart index

/-- Reads a unit's word by its first letter; `m` is a month unless `i` follows it. -/
def ofWord : List Char → Option DateUnit
  | 'm' :: 'i' :: _ => some minute
  | 'm' :: _ => some month
  | 'h' :: _ => some hour
  | 'd' :: _ => some day
  | 'w' :: _ => some week
  | 'y' :: _ => some year
  | _ => none

end DateUnit

end Sift
