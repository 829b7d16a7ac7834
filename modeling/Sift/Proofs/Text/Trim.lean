/-
  Sift.Proofs.Text.Trim — what trimming leaves, and what it leaves alone.

  - `trimmed_dropAround`: no character at either end of a trimmed text is one to be cut off.
  - `dropAround_of_trimmed`: a text of which that holds is left as it is, so `trim_trim`.
  - `exists_dropTrailing_eq`: what is cut off the beginning is all that a text trimmed at its end has more.
  - `mem_dropTrailing` / `mem_dropAround`: a character that is not to be cut off stays.
  - `dropTrailing_cons` / `dropAround_append_cons`: and keeps what stands before it.
  - `takeWhile_append_of_head?`: where a run ends.
  - `breakAt_append` / `breakAtLast_append`: where a text is cut in two.
  - `mem_of_mem_dropAround` / `spec_of_mem_splitOnP`: what is left of a text comes from the text, and no
    separator is left in a piece.
-/

import Mathlib.Data.List.DropRight
import Sift.Text.Trim

namespace Sift.Text

variable {p : Char → Bool} {cs : List Char} {c : Char}

/-- No character at either end of the text is one that `p` selects. -/
structure Trimmed (p : Char → Bool) (cs : List Char) : Prop where
  head : ∀ c ∈ cs.head?, p c = false
  last : ∀ c ∈ cs.getLast?, p c = false

/-! ## At the end -/

theorem dropTrailing_eq_rdropWhile (p : Char → Bool) (cs : List Char) :
    dropTrailing p cs = cs.rdropWhile p := rfl

theorem head?_dropWhile (p : Char → Bool) (cs : List Char) :
    ∀ c ∈ (cs.dropWhile p).head?, p c = false := by
  intro c hc
  have := List.head?_dropWhile_not p cs
  rw [Option.mem_def.1 hc] at this
  simpa using this

theorem getLast?_dropTrailing (p : Char → Bool) (cs : List Char) :
    ∀ c ∈ (dropTrailing p cs).getLast?, p c = false := by
  rw [dropTrailing, List.getLast?_reverse]
  exact head?_dropWhile p cs.reverse

theorem dropTrailing_of_getLast? (h : ∀ c ∈ cs.getLast?, p c = false) : dropTrailing p cs = cs := by
  rw [dropTrailing_eq_rdropWhile, List.rdropWhile_eq_self_iff]
  intro hne
  simp [h _ (List.getLast?_eq_some_getLast hne)]

theorem mem_dropWhile (h : c ∈ cs) (hp : p c = false) : c ∈ cs.dropWhile p := by
  rw [← List.takeWhile_append_dropWhile (p := p) (l := cs)] at h
  rcases List.mem_append.1 h with h | h
  · rw [List.mem_takeWhile_imp h] at hp
    cases hp
  · exact h

theorem mem_dropTrailing (h : c ∈ cs) (hp : p c = false) : c ∈ dropTrailing p cs := by
  rw [dropTrailing, List.mem_reverse]
  exact mem_dropWhile (List.mem_reverse.2 h) hp

theorem mem_of_mem_dropTrailing (h : c ∈ dropTrailing p cs) : c ∈ cs :=
  (List.rdropWhile_prefix p cs).subset h

theorem dropTrailing_append (before cs : List Char) :
    dropTrailing p (before ++ cs) =
      if dropTrailing p cs = [] then dropTrailing p before else before ++ dropTrailing p cs := by
  simp only [dropTrailing, List.reverse_append, List.dropWhile_append, List.isEmpty_iff,
    List.reverse_eq_nil_iff]
  split
  · rfl
  · rw [List.reverse_append, List.reverse_reverse]

/-- A character that is not cut off keeps all that stands before it. -/
theorem dropTrailing_cons (hc : p c = false) (cs : List Char) :
    dropTrailing p (c :: cs) = c :: dropTrailing p cs := by
  have happend := dropTrailing_append (p := p) [c] cs
  have hsingle : dropTrailing p [c] = [c] := dropTrailing_of_getLast? (by simp [hc])
  rw [List.singleton_append, hsingle, List.singleton_append] at happend
  rw [happend]
  split
  · next hnil => rw [hnil]
  · rfl

/-! ## At both ends -/

theorem mem_dropAround (h : c ∈ cs) (hp : p c = false) : c ∈ dropAround p cs :=
  mem_dropTrailing (mem_dropWhile h hp) hp

theorem dropAround_sublist (p : Char → Bool) (cs : List Char) : (dropAround p cs).Sublist cs :=
  (List.rdropWhile_prefix p _).sublist.trans (List.dropWhile_sublist p)

theorem mem_of_mem_dropAround (h : c ∈ dropAround p cs) : c ∈ cs :=
  (dropAround_sublist p cs).subset h

theorem head?_dropTrailing (h : ∀ c ∈ cs.head?, p c = false) :
    ∀ c ∈ (dropTrailing p cs).head?, p c = false := by
  intro c hc
  obtain ⟨rest, hrest⟩ := List.rdropWhile_prefix p cs
  rw [dropTrailing_eq_rdropWhile] at hc
  refine h c ?_
  rw [← hrest, List.head?_append_of_ne_nil _ (by rintro hnil; simp [hnil] at hc)]
  exact hc

theorem trimmed_dropAround (p : Char → Bool) (cs : List Char) : Trimmed p (dropAround p cs) where
  head := head?_dropTrailing (head?_dropWhile p cs)
  last := getLast?_dropTrailing p (cs.dropWhile p)

theorem trimmed_of_forall (h : ∀ c ∈ cs, p c = false) : Trimmed p cs where
  head c hc := h c (List.mem_of_head? hc)
  last c hc := h c (List.mem_of_getLast? hc)

theorem dropWhile_of_head? (h : ∀ c ∈ cs.head?, p c = false) : cs.dropWhile p = cs := by
  cases cs with
  | nil => rfl
  | cons c cs => exact List.dropWhile_cons_of_neg (by simp [h c rfl])

theorem dropAround_of_trimmed (h : Trimmed p cs) : dropAround p cs = cs := by
  rw [dropAround, dropWhile_of_head? h.head, dropTrailing_of_getLast? h.last]

/-- What is cut off the beginning as well, where it has not been cut off the end. -/
theorem exists_dropTrailing_eq (p : Char → Bool) (cs : List Char) :
    ∃ lead : List Char, (∀ c ∈ lead, p c = true) ∧ dropTrailing p cs = lead ++ dropAround p cs := by
  have hlead : ∀ c ∈ cs.takeWhile p, p c = true := fun c => List.mem_takeWhile_imp
  have hsplit := dropTrailing_append (p := p) (cs.takeWhile p) (cs.dropWhile p)
  rw [List.takeWhile_append_dropWhile, ← dropAround] at hsplit
  by_cases hnil : dropAround p cs = []
  · refine ⟨[], by simp, ?_⟩
    rw [hsplit, if_pos hnil, hnil]
    exact List.rdropWhile_eq_nil_iff.2 hlead
  · refine ⟨cs.takeWhile p, hlead, ?_⟩
    rw [hsplit, if_neg hnil]

/-- What is cut off both ends may be cut off the last one before. -/
theorem dropAround_dropTrailing (p : Char → Bool) (cs : List Char) :
    dropAround p (dropTrailing p cs) = dropAround p cs := by
  obtain ⟨lead, hlead, htrailing⟩ := exists_dropTrailing_eq p cs
  rw [htrailing, dropAround, List.dropWhile_append_of_pos hlead]
  exact dropAround_of_trimmed (trimmed_dropAround p cs)

/-- Where the ends of a text are kept, only what comes after it is cut. -/
theorem dropAround_append_cons (h : ∀ d ∈ cs.head?, p d = false) (hc : p c = false)
    (after : List Char) : dropAround p (cs ++ c :: after) = cs ++ c :: dropTrailing p after := by
  have hhead : ∀ d ∈ (cs ++ c :: after).head?, p d = false := by
    intro d hd
    rw [List.head?_append, List.head?_cons] at hd
    cases cs with
    | nil =>
      cases hd
      exact hc
    | cons e cs => exact h d hd
  rw [dropAround, dropWhile_of_head? hhead, dropTrailing_append, dropTrailing_cons hc,
    if_neg (List.cons_ne_nil _ _)]

/-! ## On strings -/

@[simp] theorem toList_trim (s : String) : (trim s).toList = dropAround isBlank s.toList :=
  String.toList_ofList

@[simp] theorem toList_trimEnd (s : String) : (trimEnd s).toList = dropTrailing isBlank s.toList :=
  String.toList_ofList

theorem trim_of_trimmed {s : String} (h : Trimmed isBlank s.toList) : trim s = s := by
  rw [trim, dropAround_of_trimmed h, String.ofList_toList]

theorem trimmed_trim (s : String) : Trimmed isBlank (trim s).toList := by
  rw [toList_trim]
  exact trimmed_dropAround isBlank s.toList

/-- Blanks before a text do not matter. -/
theorem trim_lead {lead : List Char} (h : ∀ c ∈ lead, isBlank c = true) (cs : List Char) :
    trim (String.ofList (lead ++ cs)) = trim (String.ofList cs) := by
  rw [trim, trim, String.toList_ofList, String.toList_ofList, dropAround, dropAround,
    List.dropWhile_append_of_pos h]

@[simp] theorem trim_trim (s : String) : trim (trim s) = trim s := trim_of_trimmed (trimmed_trim s)

/-- Something is left of a text that has more than blanks. -/
theorem isEmpty_trim_of_mem {s : String} (h : c ∈ s.toList) (hc : isBlank c = false) :
    (trim s).isEmpty = false := by
  have hmem : c ∈ (trim s).toList := by
    rw [toList_trim]
    exact mem_dropAround h hc
  rw [String.isEmpty_eq_false_iff]
  intro hempty
  rw [hempty] at hmem
  cases hmem

@[simp] theorem trim_trimEnd (s : String) : trim (trimEnd s) = trim s := by
  rw [trim, toList_trimEnd, dropAround_dropTrailing, trim]

/-! ## Into pieces -/

/-- A run ends where a character comes that `p` does not select. -/
theorem takeWhile_append_of_head? (h : ∀ c ∈ cs, p c = true) {rest : List Char}
    (hrest : ∀ c ∈ rest.head?, p c = false) :
    (cs ++ rest).takeWhile p = cs ∧ (cs ++ rest).dropWhile p = rest := by
  rw [List.takeWhile_append_of_pos h, List.dropWhile_append_of_pos h]
  cases rest with
  | nil => exact ⟨List.append_nil cs, rfl⟩
  | cons c rest => simp [hrest c rfl]

/-- The first character that `p` selects is the one after a text that has none. -/
theorem breakAt_append (h : ∀ c ∈ cs, p c = false) (hc : p c = true) (rest : List Char) :
    breakAt p (cs ++ c :: rest) = some (cs, rest) := by
  have hcs : ∀ c ∈ cs, (!p c) = true := fun c hc => by rw [h c hc]; rfl
  have hhead : ∀ d ∈ (c :: rest).head?, (!p d) = false := by
    rintro d ⟨⟩
    rw [hc]
    rfl
  obtain ⟨htake, hdrop⟩ := takeWhile_append_of_head? hcs hhead
  rw [breakAt, hdrop, htake]

theorem breakAt_of_forall (h : ∀ c ∈ cs, p c = false) : breakAt p cs = none := by
  have hdrop : cs.dropWhile (fun c => !p c) = [] :=
    List.dropWhile_eq_nil_iff.2 fun c hc => by rw [h c hc]; rfl
  rw [breakAt, hdrop]

theorem not_sep_of_breakAt {before after : List Char} (h : breakAt p cs = some (before, after)) :
    ∀ c ∈ before, p c = false := by
  unfold breakAt at h
  split at h
  · cases h
  · cases h
    intro c hc
    simpa using List.mem_takeWhile_imp hc

theorem breakAtLast_append (h : ∀ c ∈ cs, p c = false) (hc : p c = true) (before : List Char) :
    breakAtLast p (before ++ c :: cs) = some (before, cs) := by
  have hr : (before ++ c :: cs).reverse = cs.reverse ++ c :: before.reverse := by simp
  rw [breakAtLast, hr, breakAt_append (fun c hc => h c (List.mem_reverse.1 hc)) hc]
  simp

/-- A piece of a text is a part of it, and holds no character that parts two. -/
theorem spec_of_mem_splitOnP {piece : List Char} (h : piece ∈ cs.splitOnP p) (hc : c ∈ piece) :
    c ∈ cs ∧ p c = false := by
  induction cs generalizing piece with
  | nil =>
    rw [List.splitOnP_nil, List.mem_singleton] at h
    rw [h] at hc
    cases hc
  | cons d cs ih =>
    obtain ⟨first, rest, hsplit⟩ := List.exists_cons_of_ne_nil (List.splitOnP_ne_nil p cs)
    rw [List.splitOnP_cons_eq_if_modifyHead] at h
    split at h
    · rcases List.mem_cons.1 h with rfl | h
      · cases hc
      · exact (ih h hc).imp_left (List.mem_cons_of_mem d)
    · next hd =>
      rw [hsplit] at h ih
      rw [List.modifyHead_cons] at h
      rcases List.mem_cons.1 h with rfl | h
      · rcases List.mem_cons.1 hc with rfl | hc
        · exact ⟨List.mem_cons_self, by simpa using hd⟩
        · exact (ih List.mem_cons_self hc).imp_left (List.mem_cons_of_mem d)
      · exact (ih (List.mem_cons_of_mem first h) hc).imp_left (List.mem_cons_of_mem d)

end Sift.Text
