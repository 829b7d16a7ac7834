/-
  Sift.Clause.Visit — the leaves of a group, met one step at a time.

  `Clause.visit` says what is met in the end. A `Visit` is a point on the way there: it has a group open
  for each level it has gone down, and every step takes the next clause of the innermost one or leaves
  that group.
-/

import Sift.Clause

namespace Sift.Clause

variable {α : Type}

structure Visit (α : Type) where
  /-- What is left of each group that is open, the innermost first. -/
  pending : List (List (Clause α))
  met : List α

namespace Visit

def start (clauses : List (Clause α)) : Visit α := ⟨[clauses], []⟩

/-- There is no step once every group has been left. -/
def step : Visit α → Option (Visit α)
  | ⟨[], _⟩ => none
  | ⟨[] :: outer, met⟩ => some ⟨outer, met⟩
  | ⟨(leaf a :: rest) :: outer, met⟩ => some ⟨rest :: outer, met ++ [a]⟩
  | ⟨(group _ clauses :: rest) :: outer, met⟩ => some ⟨clauses :: rest :: outer, met⟩
  | ⟨(conjunction _ :: rest) :: outer, met⟩ => some ⟨rest :: outer, met⟩

/-- The visit is over after this many steps, and has then met these leaves. Of one that went on without
    an end this would hold for no number. -/
inductive EndsAfter : Visit α → Nat → List α → Prop
  | stop {visit : Visit α} : visit.step = none → EndsAfter visit 0 visit.met
  | step {visit next : Visit α} {n : Nat} {found : List α} :
      visit.step = some next → EndsAfter next n found → EndsAfter visit (n + 1) found

end Visit

/-! ## How long it takes -/

mutual

/-- The steps that a clause takes: one for itself, and for a group those inside it. -/
def steps : Clause α → Nat
  | leaf _ => 1
  | group _ clauses => stepsInside clauses + 1
  | conjunction _ => 1

/-- The steps from the first clause of a group until the group is left. -/
def stepsInside : List (Clause α) → Nat
  | [] => 1
  | clause :: rest => clause.steps + stepsInside rest

end

end Sift.Clause
