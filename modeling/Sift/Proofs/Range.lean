/-
  Sift.Proofs.Range — which numbers stand in a range.

  `Comparator.Relates` says what a comparator means of two numbers, without any range;
  `Comparator.contains_range`: the range that a comparator names around a number holds just the numbers
  that stand in its relation to it.
-/

import Sift.Range

namespace Sift.Comparator

/-- The first number stands in the relation to the second. -/
def Relates (comparator : Comparator) (n m : Int) : Prop :=
  match comparator with
  | eq => n = m
  | lt => n < m
  | le => n ≤ m
  | gt => n > m
  | ge => n ≥ m

instance (comparator : Comparator) (n m : Int) : Decidable (comparator.Relates n m) := by
  unfold Relates
  cases comparator <;> infer_instance

theorem contains_range (comparator : Comparator) (n m : Int) :
    (comparator.range m).contains n = true ↔ comparator.Relates n m := by
  cases comparator <;>
    simp [range, Range.exactly, Range.contains, Bound.admitsFrom, Bound.admitsUpTo, Relates]
  omega

end Sift.Comparator
