/-
  Sift.Time.Instant — moments, and the date-times with an offset that name them, such as
  `2024-03-15T10:30:00+05:30`.

  The reader is lenient: a blank may stand for the `T`, blanks may stand before each part, the
  parts may have fewer digits than usual, a year with a sign may have more, and the offset is `Z`,
  `UTC`, or a sign, hours and minutes.
-/

import Sift.Text.Decimal
import Sift.Text.Trim
import Sift.Time.Calendar

namespace Sift

/-- A moment in seconds since the start of 1970 and the milliseconds after it. In a leap second the
    milliseconds run on from 1000. -/
structure Instant where
  second : Int
  milli : Nat
  deriving DecidableEq, Repr

namespace Instant

def epochMillis (t : Instant) : Int := 1000 * t.second + t.milli

/-! ## Parts of a date-time -/

def skipBlanks (cs : List Char) : List Char := cs.dropWhile Text.isBlank

/-- A number of at least one and at most `width` digits. -/
def takeNumber (width : Nat) (cs : List Char) : Option (Nat × List Char) :=
  let digits := (cs.take width).takeWhile Char.isDigit
  if digits.isEmpty then none else some (Text.digitsValue digits, cs.drop digits.length)

/-- A number in its place, which blanks may precede. -/
def takePart (width : Nat) (cs : List Char) : Option (Nat × List Char) :=
  takeNumber width (skipBlanks cs)

/-- A year: four digits, or any number of them after a sign. -/
def takeYear (cs : List Char) : Option (Int × List Char) :=
  match skipBlanks cs with
  | '-' :: rest => (takeNumber rest.length rest).map fun (n, rest) => (-Int.ofNat n, rest)
  | '+' :: rest => (takeNumber rest.length rest).map fun (n, rest) => (Int.ofNat n, rest)
  | rest => (takeNumber 4 rest).map fun (n, rest) => (Int.ofNat n, rest)

def takeMark (mark : Char) (cs : List Char) : Option (List Char) :=
  match skipBlanks cs with
  | c :: rest => if c = mark then some rest else none
  | [] => none

/-- The milliseconds of a fraction, of which nine digits count, or zero where none is written. -/
def takeFraction : List Char → Option (Nat × List Char)
  | '.' :: rest =>
    let digits := rest.takeWhile Char.isDigit
    if digits.isEmpty then none
    else some (Text.digitsValue ((digits ++ ['0', '0']).take 3), rest.dropWhile Char.isDigit)
  | cs => some (0, cs)

/-- The minutes of an offset, always two digits. -/
def takeOffsetMinutes : List Char → Option (Nat × List Char)
  | tens :: ones :: rest =>
    if '0' ≤ tens && tens ≤ '5' && ones.isDigit then some (Text.digitsValue [tens, ones], rest)
    else none
  | _ => none

/-- The seconds of an offset without its sign. -/
def takeOffsetAmount (cs : List Char) : Option (Int × List Char) := do
  let (hours, rest) ←
    match cs with
    | tens :: ones :: rest =>
      if tens.isDigit && ones.isDigit then some (Text.digitsValue [tens, ones], rest) else none
    | _ => none
  let (minutes, rest) ← takeOffsetMinutes (rest.dropWhile fun c => c == ':' || Text.isBlank c)
  return (3600 * hours + 60 * minutes, rest)

def takeOffset (cs : List Char) : Option (Int × List Char) :=
  match cs with
  | '+' :: rest => takeOffsetAmount rest
  | '-' :: rest | '\u2212' :: rest => (takeOffsetAmount rest).map fun (n, rest) => (-n, rest)
  | 'Z' :: rest | 'z' :: rest => some (0, rest)
  | u :: t :: c :: rest =>
    if [u, t, c].map Char.toLower = ['u', 't', 'c'] then some (0, rest) else none
  | _ => none

/-! ## Reading -/

def readChars (cs : List Char) : Option Instant := do
  let (year, cs) ← takeYear cs
  let (month, cs) ← takePart 2 (← takeMark '-' cs)
  let (day, cs) ← takePart 2 (← takeMark '-' cs)
  let cs ←
    match cs with
    | 'T' :: rest | 't' :: rest | ' ' :: rest => some rest
    | _ => none
  let (hour, cs) ← takePart 2 cs
  let (minute, cs) ← takePart 2 (← takeMark ':' cs)
  let (second, cs) ← takePart 2 (← takeMark ':' cs)
  let (milli, cs) ← takeFraction cs
  let (offset, cs) ← takeOffset (skipBlanks cs)
  let date ← Calendar.dayOf year month day
  let time := Calendar.secondsPerDay * date + (3600 * hour + 60 * minute + min second 59 : Nat)
  if (skipBlanks cs).isEmpty && hour < 24 && minute < 60 && second ≤ 60
      && Calendar.keeps time && Calendar.keeps (time - offset)
      && -Calendar.secondsPerDay < offset && offset < Calendar.secondsPerDay then
    some ⟨time - offset, milli + (if second = 60 then 1000 else 0)⟩
  else none

def read (s : String) : Option Instant := readChars s.toList

end Instant

end Sift
