/-
  Sift.Text.CodeRanges — sets of characters kept as ascending ranges of code points, the form of
  the Unicode tables under `Sift.Text.Table`.
-/

namespace Sift.Text

/-- Closed ranges, ascending and disjoint. -/
abbrev CodeRanges := List (Nat × Nat)

/-- The scan stops at the first range that does not end below `n`: the ranges ascend. -/
def CodeRanges.holds (n : Nat) : CodeRanges → Bool
  | [] => false
  | (first, last) :: rest => if last < n then CodeRanges.holds n rest else decide (first ≤ n)

def CodeRanges.has (ranges : CodeRanges) (c : Char) : Bool := CodeRanges.holds c.toNat ranges

end Sift.Text
