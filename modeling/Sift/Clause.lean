/-
  Sift.Clause — a whole search: questions, groups in parentheses, and the words between them. A
  search is data; what the words mean between two questions is for its reader to say.

  `Clause.leaves` walks a search with a list of what is still to be visited; `Clause.toList` says
  which leaves those are, group by group.
-/

import Sift.Node

namespace Sift

inductive Conjunction where
  | and
  | or
  deriving DecidableEq, Repr

def Conjunction.text : Conjunction → String
  | and => "AND"
  | or => "OR"

/-- A search, or a part of one, whose questions are kept as values of `α`. -/
inductive Clause (α : Type) where
  | leaf (value : α)
  | group (modifier : Modifier) (clauses : List (Clause α))
  | conjunction (conjunction : Conjunction)

abbrev Search := Clause Node

namespace Clause

/-! ## Leaves -/

section

variable {α : Type}

mutual

/-- The leaves from left to right, those in groups included. -/
def toList : Clause α → List α
  | leaf a => [a]
  | group _ clauses => toListOf clauses
  | conjunction _ => []

def toListOf : List (Clause α) → List α
  | [] => []
  | clause :: rest => clause.toList ++ toListOf rest

end

theorem toListOf_eq_flatMap (clauses : List (Clause α)) :
    toListOf clauses = clauses.flatMap toList := by
  induction clauses with
  | nil => rfl
  | cons clause rest ih => rw [toListOf, ih, List.flatMap_cons]

/-- The leaves of what is still to be visited: the rest of each group that is open, the innermost
    first. -/
def visit : List (List (Clause α)) → List α
  | [] => []
  | [] :: outer => visit outer
  | (leaf a :: rest) :: outer => a :: visit (rest :: outer)
  | (group _ clauses :: rest) :: outer => visit (clauses :: rest :: outer)
  | (conjunction _ :: rest) :: outer => visit (rest :: outer)

def leaves (clause : Clause α) : List α := visit [[clause]]

end

/-! ## Another kind of leaf -/

section

variable {α β : Type}

mutual

def map (f : α → β) : Clause α → Clause β
  | leaf a => leaf (f a)
  | group modifier clauses => group modifier (mapEach f clauses)
  | conjunction c => conjunction c

def mapEach (f : α → β) : List (Clause α) → List (Clause β)
  | [] => []
  | clause :: rest => clause.map f :: mapEach f rest

end

end

/-! ## Writing -/

mutual

def write : Search → String
  | leaf node => node.write
  | group modifier clauses =>
    modifier.sign ++ "(" ++ String.intercalate " " (writeEach clauses) ++ ")"
  | conjunction c => c.text

def writeEach : List Search → List String
  | [] => []
  | clause :: rest => clause.write :: writeEach rest

end

end Clause

end Sift
