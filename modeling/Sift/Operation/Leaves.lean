/-
  Sift.Operation.Leaves — the constraints and the queries of an operation, each with its truth, from
  left to right; and the terms that the queries look for.
-/

import Sift.Operation.Basic

namespace Sift

inductive Leaf where
  | db (constraint : Constraint) (truth : Bool)
  | index (field : TextField) (query : IndexQuery) (truth : Bool)
  deriving DecidableEq

namespace Operation

mutual

def leaves : Operation → List Leaf
  | noResults | unconstrained => []
  | db constraint truth => [.db constraint truth]
  | index field query truth => [.index field query truth]
  | union operations => leavesOf operations
  | intersection operations => leavesOf operations

def leavesOf : List Operation → List Leaf
  | [] => []
  | operation :: rest => operation.leaves ++ leavesOf rest

end

@[simp] theorem leavesOf_eq_flatMap (operations : List Operation) :
    leavesOf operations = operations.flatMap leaves := by
  induction operations with
  | nil => rfl
  | cons operation rest ih => rw [leavesOf, ih, List.flatMap_cons]

@[simp] theorem leaves_anyOf (truth : Bool) (operations : List Operation) :
    (anyOf truth operations).leaves = operations.flatMap leaves := by
  cases truth <;> simp [anyOf, leaves]

/-- Of some constraints, one each. -/
theorem flatMap_leaves_db (constraints : List Constraint) (truth : Bool) :
    (constraints.map (db · truth)).flatMap leaves = constraints.map (.db · truth) := by
  induction constraints with
  | nil => rfl
  | cons constraint rest ih => simp [leaves, ih]

end Operation

/-! ## Terms -/

/-- The words that a query looks for, a begun one included. -/
def IndexQuery.terms : IndexQuery → List String
  | term word => [word]
  | phrase terms => terms.map (·.term)
  | stem leading last => leading.map (·.term) ++ [last.term]
  | range .. => []

def Leaf.terms : Leaf → List String
  | db .. => []
  | index _ query _ => query.terms

def Operation.terms (operation : Operation) : List String := operation.leaves.flatMap Leaf.terms

@[simp] theorem Operation.terms_index (field : TextField) (query : IndexQuery) (truth : Bool) :
    (index field query truth).terms = query.terms := by
  simp [terms, leaves, Leaf.terms]

@[simp] theorem Operation.terms_anyOf (truth : Bool) (operations : List Operation) :
    (anyOf truth operations).terms = operations.flatMap terms := by
  rw [terms, leaves_anyOf, List.flatMap_assoc]
  rfl

end Sift
