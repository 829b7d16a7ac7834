/-
  Sift.Literal.Integer — a whole number with an optional comparator before it, such as `42` or
  `>=100`.
-/

import Sift.Fault
import Sift.Range
import Sift.Text.Decimal
import Sift.Text.Trim

namespace Sift

structure IntegerLiteral where
  comparator : Comparator
  value : Int
  deriving DecidableEq

namespace IntegerLiteral

def read (text : String) : Except Fault IntegerLiteral :=
  let (comparator, number) := Comparator.take (Text.trim text)
  match Text.readSigned 64 number.toList with
  | some value => .ok ⟨comparator.getD .eq, value⟩
  | none => .error (.invalidLiteral .number text .notInteger)

def range (literal : IntegerLiteral) : Range Int := literal.comparator.range literal.value

end IntegerLiteral

end Sift
