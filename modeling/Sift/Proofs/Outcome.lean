/-
  Sift.Proofs.Outcome — computations that may fail, taken apart.

  - `ok_bind`: a step that succeeds hands its value on.
  - `exists_of_bind` / `exists_of_map`: what succeeds has succeeded step by step.
  - `elim_eq_ok_iff`: what is taken from an option was there.
  - `error_of_bind` / `error_of_mapM`: what fails has failed in one of its steps, and fails with that
    step's fault.
  - `mapM_eq_ok` / `mapM_eq_error`: a step for each entry of a list succeeds if all of them do, and
    fails with the first that fails.
-/

namespace Sift

variable {ε α β : Type}

/-! ## One step after another -/

theorem ok_bind (a : α) (k : α → Except ε β) : (Except.ok a >>= k) = k a := rfl

theorem exists_of_bind {x : Except ε α} {k : α → Except ε β} {b : β} (h : (x >>= k) = .ok b) :
    ∃ a, x = .ok a ∧ k a = .ok b := by
  cases x with
  | error fault => cases h
  | ok a => exact ⟨a, rfl, h⟩

theorem exists_of_map {f : α → β} {result : Except ε α} {b : β} (h : result.map f = .ok b) :
    ∃ a, result = .ok a ∧ b = f a := by
  cases result with
  | error fault => cases h
  | ok a =>
    cases h
    exact ⟨a, rfl, rfl⟩

theorem error_of_bind {x : Except ε α} {k : α → Except ε β} {fault : ε}
    (h : (x >>= k) = .error fault) : x = .error fault ∨ ∃ a, x = .ok a ∧ k a = .error fault := by
  cases x with
  | error found =>
    cases h
    exact .inl rfl
  | ok a => exact .inr ⟨a, rfl, h⟩

/-- A value that may not be there, with the fault that says so. -/
theorem elim_eq_ok_iff {value : Option α} {fault : ε} {a : α} :
    value.elim (.error fault) .ok = (.ok a : Except ε α) ↔ value = some a := by
  cases value <;> simp

/-! ## A step for each entry of a list -/

/-- What is made one by one is in the list of what has been made. -/
theorem forall_of_mapM {f : α → Except ε β} {P : β → Prop} (hf : ∀ a b, f a = .ok b → P b)
    {as : List α} {bs : List β} (h : as.mapM f = .ok bs) : ∀ b ∈ bs, P b := by
  induction as generalizing bs with
  | nil =>
    cases h
    intro b hb
    cases hb
  | cons a as ih =>
    rw [List.mapM_cons] at h
    obtain ⟨b, hb, hk⟩ := exists_of_bind h
    obtain ⟨rest, hrest, hbs⟩ := exists_of_bind hk
    cases hbs
    intro c hc
    rcases List.mem_cons.1 hc with rfl | hc
    · exact hf a _ hb
    · exact ih hrest c hc

theorem mapM_eq_ok {f : α → Except ε β} {g : α → β} {xs : List α}
    (h : ∀ x ∈ xs, f x = .ok (g x)) : xs.mapM f = .ok (xs.map g) := by
  induction xs with
  | nil => rfl
  | cons x xs ih =>
    rw [List.mapM_cons, h x List.mem_cons_self, ih fun y hy => h y (List.mem_cons_of_mem x hy)]
    rfl

theorem mapM_eq_error {f : α → Except ε β} {g : α → β} {before after : List α} {x : α} {fault : ε}
    (h : ∀ y ∈ before, f y = .ok (g y)) (hx : f x = .error fault) :
    (before ++ x :: after).mapM f = .error fault := by
  rw [List.mapM_append, mapM_eq_ok h, List.mapM_cons, hx]
  rfl

theorem error_of_mapM {f : α → Except ε β} {xs : List α} {fault : ε}
    (h : xs.mapM f = .error fault) : ∃ x ∈ xs, f x = .error fault := by
  induction xs with
  | nil => cases h
  | cons x xs ih =>
    rw [List.mapM_cons] at h
    rcases error_of_bind h with hx | ⟨a, -, h⟩
    · exact ⟨x, List.mem_cons_self, hx⟩
    · rcases error_of_bind h with hxs | ⟨as, -, h⟩
      · obtain ⟨y, hy, hfault⟩ := ih hxs
        exact ⟨y, List.mem_cons_of_mem x hy, hfault⟩
      · cases h

end Sift
