/-
  Sift.Literal.Date — dates, with an optional comparator before them. A date names a window of time:

  * a whole number is a moment in milliseconds, and its window one second long;
  * a sign, a number and an optional unit (`-1d`, `+2h`, `-3months`) is the piece of the unit's grid
    that lies so many pieces from the present one; `today` and `yesterday` are days of this kind;
  * three numbers with a separator (`01/31/2007`) are a day, and its window the piece of the
    default unit's grid that holds it.

  Windows of one unit therefore never overlap without being the same.
-/

import Sift.Fault
import Sift.Range
import Sift.Settings
import Sift.Text.Case
import Sift.Text.Decimal
import Sift.Text.Trim
import Sift.Time.DateUnit

namespace Sift

/-- The moments from `start` until just before `stop`, in milliseconds since the start of 1970. -/
structure DateWindow where
  start : Int
  stop : Int
  deriving DecidableEq, Repr

structure DateLiteral where
  comparator : Option Comparator
  window : DateWindow
  deriving DecidableEq

namespace DateLiteral

/-! ## Windows -/

/-- The window of a piece of a unit's grid, whose ends must fall into the kept years both in local
    time and at the meridian. -/
def pieceWindow (settings : Settings) (unit : DateUnit) (index : Int) : Except Flaw DateWindow :=
  let start := unit.start index
  let stop := unit.start (index + 1)
  let offset := settings.offset
  if Calendar.keeps start && Calendar.keeps stop
      && Calendar.keeps (start - offset) && Calendar.keeps (stop - offset) then
    .ok ⟨1000 * (start - offset), 1000 * (stop - offset)⟩
  else .error .dateOutOfRange

def relativeWindow (settings : Settings) (amount : Int) (unit : DateUnit) :
    Except Flaw DateWindow :=
  pieceWindow settings unit (unit.indexOf settings.localNow + amount)

/-! ## Relative dates -/

/-- A number of units from now; without a word the unit is left open. -/
def readRelative : List Char → Option (Int × Option DateUnit)
  | [] => none
  | sign :: cs => do
    let negative ← if sign = '-' then some true else if sign = '+' then some false else none
    let word := cs.dropWhile Char.isDigit
    let unit ←
      if word.isEmpty then some none
      else if word.all Char.isLower then (DateUnit.ofWord word).map some
      else none
    let amount ← (Text.readNat (cs.takeWhile Char.isDigit)).map Int.ofNat
    if Text.fitsSigned 32 amount then some (if negative then -amount else amount, unit) else none

/-! ## Days -/

/-- Puts the parts of a short date into the order year, month, day. -/
def arrange : DateOrder → Int × Int × Int → Int × Int × Int
  | .monthFirst, (a, b, c) => (c, a, b)
  | .dayFirst, (a, b, c) => (c, b, a)
  | .yearFirst, parts => parts

/-- A year of two digits is one of the present century, or of the century before where it would lie
    more than 20 years ahead. -/
def fullYear (current year : Int) : Int :=
  if year < 100 then
    let near := year + (current - current.tmod 100)
    if near > current + 20 then near - 100 else near
  else year

/-- One to four digits. -/
def readDatePart (cs : List Char) : Option Int :=
  if cs.length ≤ 4 then (Text.readNat cs).map Int.ofNat else none

def isSeparator (c : Char) : Bool := c == '/' || c == '.' || c == '-'

/-- The three numbers between the separators, which are all like the first. -/
def readDateParts (cs : List Char) : Option (Int × Int × Int) := do
  let separator ← cs.find? isSeparator
  match cs.splitOn separator with
  | [a, b, c] => return (← readDatePart a, ← readDatePart b, ← readDatePart c)
  | _ => none

def readDay (settings : Settings) (cs : List Char) : Except Flaw Int :=
  match readDateParts cs with
  | none => .error .malformedDate
  | some parts =>
    let (year, month, day) := arrange settings.dateOrder parts
    let current := Calendar.yearOf (settings.localNow / Calendar.secondsPerDay)
    match Calendar.dayOf (fullYear current year) month day with
    | none => .error .noSuchDay
    | some day => if Calendar.keeps (Calendar.secondsPerDay * day) then .ok day else .error .noSuchDay

/-! ## Reading -/

/-- The window that a date in lower case names. -/
def readWindow (settings : Settings) (unit : DateUnit) (cs : List Char) : Except Flaw DateWindow :=
  if cs.all Char.isDigit then
    match Text.readSigned 64 cs with
    | some moment => .ok ⟨moment, min (moment + 1000) Text.maxInt64⟩
    | none => .error .timestampTooLarge
  else match readRelative cs with
    | some (amount, named) => relativeWindow settings amount (named.getD unit)
    | none => do
      let day ← readDay settings (cs.dropWhile fun c => c == '+' || c == '-')
      pieceWindow settings unit (unit.indexOf (Calendar.secondsPerDay * day))

/-- Two days have words of their own. -/
def expandWord (value : String) : String :=
  if value = "today" then "-0d" else if value = "yesterday" then "-1d" else value

/-- `unit` is the unit of relative dates that name none, and the length of a day's window. -/
def read (settings : Settings) (unit : DateUnit) (text : String) : Except Fault DateLiteral :=
  let (comparator, value) := Comparator.take (Text.trim text)
  let window :=
    if value.isEmpty then .error .missingDate
    else readWindow settings unit (expandWord (Text.lower value)).toList
  match window with
  | .ok window => .ok ⟨comparator, window⟩
  | .error flaw => .error (.invalidLiteral .date text flaw)

/-- The literal's own comparator goes before the implied one. Before is before the window's start,
    after is from its end on. -/
def range (literal : DateLiteral) (implied : Comparator) : Range Int :=
  match literal.comparator.getD implied with
  | .eq => ⟨.included literal.window.start, .excluded literal.window.stop⟩
  | .lt => ⟨.unbounded, .excluded literal.window.start⟩
  | .le => ⟨.unbounded, .excluded literal.window.stop⟩
  | .gt => ⟨.included literal.window.stop, .unbounded⟩
  | .ge => ⟨.included literal.window.start, .unbounded⟩

end DateLiteral

end Sift
