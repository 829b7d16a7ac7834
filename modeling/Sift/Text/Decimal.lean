/-
  Sift.Text.Decimal — whole numbers written with the digits 0 to 9, and the sixteen digits that ids and
  escapes are written with.
-/

namespace Sift.Text

/-- The number that a run of digits writes. -/
def digitsValue (cs : List Char) : Nat := Nat.ofDigitChars 10 cs 0

/-- Reads a text of digits alone, of which there is at least one. -/
def readNat (cs : List Char) : Option Nat :=
  if !cs.isEmpty && cs.all Char.isDigit then some (digitsValue cs) else none

/-- Reads digits after at most one sign. -/
def readInt : List Char → Option Int
  | '+' :: cs => (readNat cs).map Int.ofNat
  | '-' :: cs => (readNat cs).map fun n => -Int.ofNat n
  | cs => (readNat cs).map Int.ofNat

/-- Whether `n` is a signed number of that many bits. -/
def fitsSigned (bits : Nat) (n : Int) : Bool :=
  -Int.pow 2 (bits - 1) ≤ n && n < Int.pow 2 (bits - 1)

/-- Reads a signed number of at most that many bits. -/
def readSigned (bits : Nat) (cs : List Char) : Option Int := (readInt cs).filter (fitsSigned bits)

/-- The greatest signed number of 64 bits. -/
def maxInt64 : Int := 9223372036854775807

def minInt64 : Int := -9223372036854775808

/-- What a hexadecimal digit stands for, in either case. -/
def hexValue (c : Char) : Option (Fin 16) :=
  if '0' ≤ c ∧ c ≤ '9' then some (Fin.ofNat 16 (c.toNat - '0'.toNat))
  else if 'a' ≤ c ∧ c ≤ 'f' then some (Fin.ofNat 16 (c.toNat - 'a'.toNat + 10))
  else if 'A' ≤ c ∧ c ≤ 'F' then some (Fin.ofNat 16 (c.toNat - 'A'.toNat + 10))
  else none

end Sift.Text
