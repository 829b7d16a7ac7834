/-
  Sift.Settings — what a search takes from the user's preferences, and the moment it is made at.
-/

import Sift.TextField
import Sift.Time.Instant

namespace Sift

/-- The order of day, month and year in a short date such as `01/02/2007`. -/
inductive DateOrder where
  | monthFirst
  | dayFirst
  | yearFirst
  deriving DecidableEq, Repr

structure Settings where
  offsetMinutes : Int
  dateOrder : DateOrder
  /-- The moment that relative dates count from. -/
  now : Instant
  /-- How many mountpoints may be passed on the way to a folder. -/
  mountpointLimit : Nat
  /-- The field of a search that names none. -/
  defaultField : TextField
  deriving DecidableEq, Repr

namespace Settings

def standard (now : Instant) : Settings := ⟨0, .monthFirst, now, 16, .content⟩

/-- The seconds that local time is ahead; a whole day or more is no time zone and counts as none. -/
def offset (settings : Settings) : Int :=
  let seconds := 60 * settings.offsetMinutes
  if -Calendar.secondsPerDay < seconds ∧ seconds < Calendar.secondsPerDay then seconds else 0

/-- The moment of the search in seconds of local time. -/
def localNow (settings : Settings) : Int := settings.now.second + settings.offset

end Settings

end Sift
