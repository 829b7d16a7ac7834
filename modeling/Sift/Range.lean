/-
  Sift.Range — ranges over ordered values, open or closed at either end, and the comparators that
  name them.
-/

namespace Sift

inductive Bound (α : Type) where
  | unbounded
  | included (value : α)
  | excluded (value : α)
  deriving DecidableEq

structure Range (α : Type) where
  low : Bound α
  high : Bound α
  deriving DecidableEq

section

variable {α : Type} [LT α] [DecidableLT α]

def Bound.admitsFrom (low : Bound α) (value : α) : Bool :=
  match low with
  | .unbounded => true
  | .included least => !decide (value < least)
  | .excluded below => decide (below < value)

def Bound.admitsUpTo (high : Bound α) (value : α) : Bool :=
  match high with
  | .unbounded => true
  | .included greatest => !decide (greatest < value)
  | .excluded above => decide (value < above)

def Range.contains (range : Range α) (value : α) : Bool :=
  range.low.admitsFrom value && range.high.admitsUpTo value

end

def Range.exactly {α : Type} (value : α) : Range α := ⟨.included value, .included value⟩

inductive Comparator where
  | eq
  | lt
  | le
  | gt
  | ge
  deriving DecidableEq, Repr

namespace Comparator

/-- Equality is what a value without a comparator means, so it has no sign of its own. -/
def sign : Comparator → String
  | eq => ""
  | lt => "<"
  | le => "<="
  | gt => ">"
  | ge => ">="

/-- The values that stand in the relation to `value`. -/
def range {α : Type} (value : α) : Comparator → Range α
  | eq => .exactly value
  | lt => ⟨.unbounded, .excluded value⟩
  | le => ⟨.unbounded, .included value⟩
  | gt => ⟨.excluded value, .unbounded⟩
  | ge => ⟨.included value, .unbounded⟩

/-- Takes the longest sign off the front. -/
def takeFrom : List Char → Option Comparator × List Char
  | '>' :: '=' :: rest => (some ge, rest)
  | '<' :: '=' :: rest => (some le, rest)
  | '>' :: rest => (some gt, rest)
  | '<' :: rest => (some lt, rest)
  | cs => (none, cs)

def take (s : String) : Option Comparator × String :=
  let (comparator, rest) := takeFrom s.toList
  (comparator, String.ofList rest)

end Comparator

end Sift
