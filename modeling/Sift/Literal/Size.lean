/-
  Sift.Literal.Size — a number of bytes with an optional comparator before it and an optional unit
  after it, such as `100`, `10kb` or `>=1mb`.
-/

import Sift.Fault
import Sift.Range
import Sift.Text.Case
import Sift.Text.Decimal
import Sift.Text.Trim

namespace Sift

/-- The bytes in one unit; units count in either case. -/
def sizeUnit (unit : String) : Option Nat :=
  match Text.lower unit with
  | "" | "b" => some 1
  | "k" | "kb" => some 1024
  | "m" | "mb" => some (1024 * 1024)
  | "g" | "gb" => some (1024 * 1024 * 1024)
  | _ => none

structure SizeLiteral where
  comparator : Option Comparator
  bytes : Int
  deriving DecidableEq

namespace SizeLiteral

/-- The bytes that digits and a unit write; the number and the product must both be signed numbers
    of 64 bits. -/
def readBytes (digits unit : List Char) : Except Flaw Int := do
  let number ← (Text.readNat digits).elim (.error .noByteCount) .ok
  if !Text.fitsSigned 64 number then .error .numberTooLarge
  let multiplier ← (sizeUnit (String.ofList unit)).elim (.error .unknownUnit) .ok
  if !Text.fitsSigned 64 (number * multiplier) then .error .numberTooLarge
  return number * multiplier

def read (text : String) : Except Fault SizeLiteral :=
  let (comparator, amount) := Comparator.takeFrom (Text.trim text).toList
  match readBytes (amount.takeWhile Char.isDigit) (amount.dropWhile Char.isDigit) with
  | .ok bytes => .ok ⟨comparator, bytes⟩
  | .error flaw => .error (.invalidLiteral .size text flaw)

/-- The next and the previous number, kept within 64 bits. -/
def above (n : Int) : Int := min (n + 1) Text.maxInt64

def below (n : Int) : Int := max (n - 1) Text.minInt64

/-- Sizes are only compared strictly, so `>=` and `<=` widen their bound by one byte. The literal's
    own comparator goes before the implied one. -/
def range (literal : SizeLiteral) (implied : Comparator) : Range Int :=
  match literal.comparator.getD implied with
  | .eq => .exactly literal.bytes
  | .gt => ⟨.excluded literal.bytes, .unbounded⟩
  | .lt => ⟨.unbounded, .excluded literal.bytes⟩
  | .ge => ⟨.excluded (below literal.bytes), .unbounded⟩
  | .le => ⟨.unbounded, .excluded (above literal.bytes)⟩

end SizeLiteral

end Sift
