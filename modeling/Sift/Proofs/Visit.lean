/-
  Sift.Proofs.Visit — a visit meets the leaves of a group from left to right, each of them once.

  The leaves that a visit has met and those in what is left of its open groups, the innermost first, are
  the same leaves all the way (`Visit.allLeaves`), and every step leaves one step less to take
  (`Visit.stepsLeft`).

  - `Visit.endsAfter_iff`: so it is over after the steps that it had left, with all of its leaves met.
  - `leaves_visited`: the visit of a group meets the leaves that `Clause.leaves` gives, and those are what
    `Clause.toList` puts together clause by clause.
-/

import Sift.Clause.Visit

namespace Sift.Clause

variable {α : Type}

/-- Even a group without clauses has to be left. -/
theorem stepsInside_pos (clauses : List (Clause α)) : 0 < stepsInside clauses := by
  induction clauses with
  | nil => exact Nat.one_pos
  | cons clause rest ih => exact Nat.add_pos_right clause.steps ih

/-- The steps until each of these groups has been left. -/
def stepsOutOf : List (List (Clause α)) → Nat
  | [] => 0
  | clauses :: outer => stepsInside clauses + stepsOutOf outer

namespace Visit

variable {visit next : Visit α}

/-- The leaves that have been met, and those that are still to be met. -/
def allLeaves (visit : Visit α) : List α := visit.met ++ visit.pending.flatMap toListOf

def stepsLeft (visit : Visit α) : Nat := stepsOutOf visit.pending

theorem step_eq_none_iff : visit.step = none ↔ visit.pending = [] := by
  unfold step
  split <;> simp

theorem stepsLeft_eq_zero_iff : visit.stepsLeft = 0 ↔ visit.pending = [] := by
  obtain ⟨_ | ⟨clauses, outer⟩, met⟩ := visit
  · simp [stepsLeft, stepsOutOf]
  · have hpos := stepsInside_pos clauses
    simp only [stepsLeft, stepsOutOf, reduceCtorEq, iff_false]
    omega

/-- A leaf that is met moves from what is pending to what has been met, and the clauses of a group that
    is opened stand before those that come after the group. -/
theorem allLeaves_of_step (h : visit.step = some next) : next.allLeaves = visit.allLeaves := by
  obtain ⟨_ | ⟨clauses, outer⟩, met⟩ := visit
  · cases h
  cases clauses with
  | nil =>
    cases h
    simp [allLeaves, toListOf]
  | cons clause rest =>
    cases clause with
    | leaf a =>
      cases h
      simp [allLeaves, toListOf, toList]
    | group modifier clauses =>
      cases h
      simp [allLeaves, toListOf, toList]
    | conjunction c =>
      cases h
      simp [allLeaves, toListOf, toList]

theorem stepsLeft_of_step (h : visit.step = some next) : visit.stepsLeft = next.stepsLeft + 1 := by
  obtain ⟨_ | ⟨clauses, outer⟩, met⟩ := visit
  · cases h
  cases clauses with
  | nil =>
    cases h
    exact Nat.add_comm 1 (stepsOutOf outer)
  | cons clause rest =>
    cases clause with
    | leaf a =>
      cases h
      simp only [stepsLeft, stepsOutOf, stepsInside, steps]
      omega
    | group modifier clauses =>
      cases h
      simp only [stepsLeft, stepsOutOf, stepsInside, steps]
      omega
    | conjunction c =>
      cases h
      simp only [stepsLeft, stepsOutOf, stepsInside, steps]
      omega

theorem allLeaves_of_pending (h : visit.pending = []) : visit.allLeaves = visit.met := by
  rw [allLeaves, h, List.flatMap_nil, List.append_nil]

theorem endsAfter_stepsLeft (visit : Visit α) : visit.EndsAfter visit.stepsLeft visit.allLeaves := by
  -- The pending groups themselves get no fewer where one is opened; what goes down is the steps left.
  induction hleft : visit.stepsLeft generalizing visit with
  | zero =>
    have hpending := stepsLeft_eq_zero_iff.1 hleft
    rw [allLeaves_of_pending hpending]
    exact .stop (step_eq_none_iff.2 hpending)
  | succ n ih =>
    have hgoes : visit.step ≠ none := by
      rw [Ne, step_eq_none_iff, ← stepsLeft_eq_zero_iff]
      omega
    obtain ⟨next, hstep⟩ := Option.ne_none_iff_exists'.1 hgoes
    have hsteps := stepsLeft_of_step hstep
    rw [← allLeaves_of_step hstep]
    exact .step hstep (ih next (by omega))

theorem endsAfter_iff {n : Nat} {found : List α} :
    visit.EndsAfter n found ↔ n = visit.stepsLeft ∧ found = visit.allLeaves := by
  constructor
  · intro h
    induction h with
    | stop hstop =>
      have hpending := step_eq_none_iff.1 hstop
      exact ⟨(stepsLeft_eq_zero_iff.2 hpending).symm, (allLeaves_of_pending hpending).symm⟩
    | step hstep _ ih =>
      exact ⟨by rw [stepsLeft_of_step hstep, ih.1], by rw [← allLeaves_of_step hstep, ih.2]⟩
  · rintro ⟨rfl, rfl⟩
    exact endsAfter_stepsLeft visit

end Visit

/-! ## The leaves of a search -/

theorem visit_eq_flatMap (pending : List (List (Clause α))) :
    visit pending = pending.flatMap toListOf := by
  induction pending using visit.induct with
  | case1 => rw [visit, List.flatMap_nil]
  | case2 outer ih => rw [visit, ih, List.flatMap_cons, toListOf, List.nil_append]
  | case3 a rest outer ih =>
    rw [visit, ih]
    simp [toListOf, toList]
  | case4 modifier clauses rest outer ih =>
    rw [visit, ih]
    simp [toListOf, toList]
  | case5 c rest outer ih =>
    rw [visit, ih]
    simp [toListOf, toList]

theorem leaves_eq_toList (clause : Clause α) : clause.leaves = clause.toList := by
  rw [leaves, visit_eq_flatMap, List.flatMap_singleton, toListOf, toListOf, List.append_nil]

/-- The visit of a group comes to an end, whatever is in it, and has then met what stands at each of its
    clauses from left to right: the leaf, the leaves of the group, or nothing. -/
theorem leaves_visited (modifier : Modifier) (clauses : List (Clause α)) :
    (∀ n found, (Visit.start clauses).EndsAfter n found ↔
        n = stepsInside clauses ∧ found = leaves (group modifier clauses)) ∧
      leaves (group modifier clauses) = toList (group modifier clauses) ∧
      toList (group modifier clauses) = clauses.flatMap fun
        | leaf a => [a]
        | group sign inner => toList (group sign inner)
        | conjunction _ => [] := by
  have hleaves := leaves_eq_toList (group modifier clauses)
  refine ⟨fun n found => ?_, hleaves, ?_⟩
  · have hall : (Visit.start clauses).allLeaves = toListOf clauses :=
      List.append_nil (toListOf clauses)
    rw [Visit.endsAfter_iff, hall, hleaves, toList]
    rfl
  · rw [toList, toListOf_eq_flatMap]
    congr 1
    funext clause
    cases clause <;> rfl

end Sift.Clause
