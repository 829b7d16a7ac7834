/-
  Sift.Proofs.Operation.Dual — an operation and its dual.

  - `selects_dual`: the dual selects exactly the items that the operation leaves out.
  - `dual_dual`: the dual of the dual is the operation again, so of two forms each is the other's dual.
  - `dual_anyOf`: the dual of some alternatives is none of them, each turned into its dual.
-/

import Sift.Operation.Dual
import Sift.Operation.Facts

namespace Sift.Operation

/-! ## Lists of operations -/

@[simp] theorem duals_eq_map (operations : List Operation) : duals operations = operations.map dual := by
  induction operations with
  | nil => rfl
  | cons operation rest ih => rw [duals, ih, List.map_cons]

@[simp] theorem anySelects_eq_any (item : ItemFacts) (operations : List Operation) :
    anySelects item operations = operations.any (selects item) := by
  induction operations with
  | nil => rfl
  | cons operation rest ih => rw [anySelects, ih, List.any_cons]

@[simp] theorem allSelect_eq_all (item : ItemFacts) (operations : List Operation) :
    allSelect item operations = operations.all (selects item) := by
  induction operations with
  | nil => rfl
  | cons operation rest ih => rw [allSelect, ih, List.all_cons]

/-! ## The dual -/

mutual

theorem dual_dual : (operation : Operation) → operation.dual.dual = operation
  | noResults | unconstrained => rfl
  | db constraint truth => by rw [dual, dual, Bool.not_not]
  | index field query truth => by rw [dual, dual, Bool.not_not]
  | union operations => by rw [dual, dual, duals_duals operations]
  | intersection operations => by rw [dual, dual, duals_duals operations]

theorem duals_duals : (operations : List Operation) → duals (duals operations) = operations
  | [] => rfl
  | operation :: rest => by rw [duals, duals, dual_dual operation, duals_duals rest]

end

/-- A fact that is compared with the flipped truth gives the flipped answer. -/
theorem beq_not (known truth : Bool) : (known == !truth) = !(known == truth) := by
  cases known <;> cases truth <;> rfl

mutual

theorem selects_dual (item : ItemFacts) :
    (operation : Operation) → operation.dual.selects item = !operation.selects item
  | noResults | unconstrained => rfl
  | db constraint truth => by rw [dual, selects, selects, beq_not]
  | index field query truth => by rw [dual, selects, selects, beq_not]
  | union operations => by rw [dual, selects, selects, allSelect_duals item operations]
  | intersection operations => by rw [dual, selects, selects, anySelects_duals item operations]

theorem allSelect_duals (item : ItemFacts) :
    (operations : List Operation) → allSelect item (duals operations) = !anySelects item operations
  | [] => rfl
  | operation :: rest => by
    rw [duals, allSelect, anySelects, selects_dual item operation, allSelect_duals item rest,
      Bool.not_or]

theorem anySelects_duals (item : ItemFacts) :
    (operations : List Operation) → anySelects item (duals operations) = !allSelect item operations
  | [] => rfl
  | operation :: rest => by
    rw [duals, anySelects, allSelect, selects_dual item operation, anySelects_duals item rest,
      Bool.not_and]

end

theorem dual_anyOf (truth : Bool) (operations : List Operation) :
    (anyOf truth operations).dual = anyOf (!truth) (operations.map dual) := by
  cases truth <;> simp [anyOf, dual]

end Sift.Operation
