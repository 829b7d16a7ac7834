/-
  Sift.Operation.Dual — the De Morgan dual of an operation: every truth flipped, unions and
  intersections exchanged, everything and nothing exchanged, all in the same order.
-/

import Sift.Operation.Basic

namespace Sift.Operation

mutual

def dual : Operation → Operation
  | noResults => unconstrained
  | unconstrained => noResults
  | db constraint truth => db constraint !truth
  | index field query truth => index field query !truth
  | union operations => intersection (duals operations)
  | intersection operations => union (duals operations)

def duals : List Operation → List Operation
  | [] => []
  | operation :: rest => operation.dual :: duals rest

end

end Sift.Operation
