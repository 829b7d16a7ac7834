/-
  Sift.Proofs.Text.AddressRun — the words of addresses are the longest runs of their characters.

  `Runs` says which runs a text has without a way to find them: other characters stand before a run,
  and none that could belong to it stands right after it.

  - `runs_iff`: every text has its runs, and no second list of them.
  - `addressRuns_eq`: the words are the runs without the marks at their ends, where something is left.
  - `addressWords_intercalate`: words put together with spaces between them are the same words again.
  - `addressRuns_run_append`: what is found at the beginning of a run, and where the next one is looked
    for.
-/

import Sift.Proofs.Text.Word

namespace Sift.Text

variable {p : Char → Bool}

/-- The longest runs of characters that `p` selects, from left to right. -/
inductive Runs (p : Char → Bool) : List Char → List (List Char) → Prop
  | done {gap : List Char} : (∀ c ∈ gap, p c = false) → Runs p gap []
  | run {gap run rest : List Char} {runs : List (List Char)} :
      (∀ c ∈ gap, p c = false) → run ≠ [] → (∀ c ∈ run, p c = true) →
      (∀ c ∈ rest.head?, p c = false) → Runs p rest runs →
      Runs p (gap ++ (run ++ rest)) (run :: runs)

/-! ## One list of runs -/

theorem Runs.first {run rest : List Char} {runs : List (List Char)} (hne : run ≠ [])
    (hrun : ∀ c ∈ run, p c = true) (hrest : ∀ c ∈ rest.head?, p c = false) (h : Runs p rest runs) :
    Runs p (run ++ rest) (run :: runs) := by
  have hgap : ∀ c ∈ ([] : List Char), p c = false := nofun
  exact .run hgap hne hrun hrest h

/-- One character more at the beginning is one more before the first run, a longer first run, or a run
    of its own. -/
theorem exists_runs (p : Char → Bool) (cs : List Char) : ∃ runs, Runs p cs runs := by
  induction cs with
  | nil => exact ⟨[], .done nofun⟩
  | cons c cs ih =>
    obtain ⟨runs, h⟩ := ih
    cases hc : p c with
    | false =>
      cases h with
      | done hgap => exact ⟨_, .done (List.forall_mem_cons.2 ⟨hc, hgap⟩)⟩
      | run hgap hne hrun hrest htail =>
        exact ⟨_, .run (List.forall_mem_cons.2 ⟨hc, hgap⟩) hne hrun hrest htail⟩
    | true =>
      have hsingle : ∀ d ∈ [c], p d = true := by simpa using hc
      cases h with
      | done hgap =>
        have hhead : ∀ d ∈ cs.head?, p d = false := fun d hd => hgap d (List.mem_of_head? hd)
        exact ⟨_, .first (List.cons_ne_nil c []) hsingle hhead (.done hgap)⟩
      | @run gap run rest runs hgap hne hrun hrest htail =>
        cases gap with
        | nil =>
          have hlonger : ∀ d ∈ c :: run, p d = true := List.forall_mem_cons.2 ⟨hc, hrun⟩
          exact ⟨_, .first (List.cons_ne_nil c run) hlonger hrest htail⟩
        | cons d gap =>
          have hhead : ∀ e ∈ (d :: gap ++ (run ++ rest)).head?, p e = false := by
            intro e he
            cases he
            exact hgap d List.mem_cons_self
          exact ⟨_, .first (List.cons_ne_nil c []) hsingle hhead
            (.run hgap hne hrun hrest htail)⟩

/-- The pieces between other characters, where there is something between them. -/
def piecesOf (p : Char → Bool) (cs : List Char) : List (List Char) :=
  (cs.splitOnP fun c => !p c).filter (!·.isEmpty)

theorem piecesOf_gap_append {gap : List Char} (hgap : ∀ c ∈ gap, p c = false) (cs : List Char) :
    piecesOf p (gap ++ cs) = piecesOf p cs := by
  induction gap with
  | nil => rfl
  | cons c gap ih =>
    obtain ⟨hc, hgap⟩ := List.forall_mem_cons.1 hgap
    have hsep : (fun c => !p c) c = true := by simp [hc]
    rw [← ih hgap, piecesOf, List.cons_append, ← List.nil_append (c :: (gap ++ cs)),
      List.splitOnP_append_cons [] (gap ++ cs) hsep]
    rfl

theorem piecesOf_run_append {run rest : List Char} (hne : run ≠ []) (hrun : ∀ c ∈ run, p c = true)
    (hrest : ∀ c ∈ rest.head?, p c = false) :
    piecesOf p (run ++ rest) = run :: piecesOf p rest := by
  have hwhole : ∀ c ∈ run, (fun c => !p c) c = false := fun c hc => by simp [hrun c hc]
  have hsome : (fun cs : List Char => !cs.isEmpty) run = true := by simp [hne]
  cases rest with
  | nil =>
    rw [List.append_nil, piecesOf, List.splitOnP_eq_singleton hwhole]
    exact List.filter_cons_of_pos hsome
  | cons c rest =>
    have hc : p c = false := hrest c rfl
    have hsep : (fun c => !p c) c = true := by simp [hc]
    have hgap : ∀ d ∈ [c], p d = false := by simpa using hc
    have htail : piecesOf p (c :: rest) = piecesOf p rest := piecesOf_gap_append hgap rest
    rw [htail, piecesOf, List.splitOnP_append_cons_of_forall_mem hwhole c hsep]
    exact List.filter_cons_of_pos hsome

theorem Runs.eq_piecesOf {cs : List Char} {runs : List (List Char)} (h : Runs p cs runs) :
    runs = piecesOf p cs := by
  induction h with
  | @done gap hgap =>
    rw [← List.append_nil gap, piecesOf_gap_append hgap]
    rfl
  | run hgap hne hrun hrest _ ih =>
    rw [piecesOf_gap_append hgap, piecesOf_run_append hne hrun hrest, ih]

theorem runs_iff {cs : List Char} {runs : List (List Char)} :
    Runs p cs runs ↔ runs = piecesOf p cs := by
  constructor
  · exact Runs.eq_piecesOf
  · rintro rfl
    obtain ⟨runs, h⟩ := exists_runs p cs
    rwa [← h.eq_piecesOf]

/-! ## Words of addresses -/

theorem addressRuns_eq (cs : List Char) :
    addressRuns cs =
      ((piecesOf isAddressChar cs).map (dropAround isEdgeMark)).filter (!·.isEmpty) := by
  rw [addressRuns, piecesOf]
  induction cs.splitOnP (fun c => !isAddressChar c) with
  | nil => rfl
  | cons piece pieces ih =>
    cases piece with
    | nil => exact ih
    | cons c piece =>
      have hkept : ((c :: piece) :: pieces).filter (!·.isEmpty) =
          (c :: piece) :: pieces.filter (!·.isEmpty) := rfl
      rw [hkept, List.map_cons, List.filter_cons, List.map_cons, List.filter_cons, ih]

/-- A text that has no other character is one word, if something is left of it. -/
theorem addressRuns_of_forall {run : List Char} (hrun : ∀ c ∈ run, isAddressChar c = true) :
    addressRuns run = [dropAround isEdgeMark run].filter (!·.isEmpty) := by
  have hwhole : ∀ c ∈ run, (fun c => !isAddressChar c) c = false := fun c hc => by simp [hrun c hc]
  rw [addressRuns, List.splitOnP_eq_singleton hwhole]
  rfl

theorem addressRuns_run_append {run rest : List Char} (hrun : ∀ c ∈ run, isAddressChar c = true)
    (hrest : ∀ c ∈ rest.head?, isAddressChar c = false) :
    addressRuns (run ++ rest) =
      [dropAround isEdgeMark run].filter (!·.isEmpty) ++ addressRuns rest.tail := by
  cases rest with
  | nil =>
    rw [List.append_nil, addressRuns_of_forall hrun]
    exact (List.append_nil _).symm
  | cons c rest =>
    rw [addressRuns_append (hrest c rfl), addressRuns_of_forall hrun, List.tail_cons]

/-- A word has no mark at its ends, and no other character in it. -/
theorem spec_of_mem_addressRuns {cs run : List Char} (h : run ∈ addressRuns cs) :
    run.isEmpty = false ∧ Trimmed isEdgeMark run ∧ ∀ c ∈ run, isAddressChar c = true := by
  obtain ⟨hrun, hne⟩ := List.mem_filter.1 h
  obtain ⟨piece, hpiece, rfl⟩ := List.mem_map.1 hrun
  refine ⟨by simpa using hne, trimmed_dropAround isEdgeMark piece, fun c hc => ?_⟩
  simpa using (spec_of_mem_splitOnP hpiece (mem_of_mem_dropAround hc)).2

theorem addressRuns_intercalate {runs : List (List Char)} (h : ∀ run ∈ runs,
    run.isEmpty = false ∧ Trimmed isEdgeMark run ∧ ∀ c ∈ run, isAddressChar c = true) :
    addressRuns (List.intercalate [' '] runs) = runs := by
  have hspace : isAddressChar ' ' = false := by decide +kernel
  induction runs with
  | nil => rfl
  | cons run runs ih =>
    obtain ⟨⟨hne, htrimmed, hchars⟩, hruns⟩ := List.forall_mem_cons.1 h
    have hone : addressRuns run = [run] := by
      rw [addressRuns_of_forall hchars, dropAround_of_trimmed htrimmed]
      exact List.filter_cons_of_pos (by simp [hne])
    cases runs with
    | nil =>
      rw [List.intercalate_singleton]
      exact hone
    | cons next runs =>
      rw [List.intercalate_cons_cons, List.append_assoc, List.singleton_append,
        addressRuns_append hspace, hone, ih hruns]
      rfl

theorem addressWords_intercalate (s : String) :
    addressWords (" ".intercalate (addressWords s)) = addressWords s := by
  have hjoined : (" ".intercalate (addressWords s)).toList =
      List.intercalate [' '] (addressRuns s.toList) := by
    have hback : (addressWords s).map String.toList = addressRuns s.toList := by
      rw [addressWords_eq, List.map_map]
      exact (List.map_congr_left fun run _ => String.toList_ofList).trans (List.map_id _)
    rw [String.toList_intercalate, hback]
    rfl
  rw [addressWords_eq, hjoined, addressRuns_intercalate fun run => spec_of_mem_addressRuns,
    addressWords_eq]

end Sift.Text
