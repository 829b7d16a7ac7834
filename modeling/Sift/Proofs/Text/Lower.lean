/-
  Sift.Proofs.Text.Lower — a text in lower case is in lower case.

  - `lower_lower`: lowering a second time changes nothing.
  - `trimmed_lower`: lowering brings no blank to the ends of a text.
  - `mem_lower_iff`: a character that has no case is neither lost nor brought in.

  Both rest on one fact about the table of lower cases: no character that it gives is one that it
  changes, a capital sigma or a blank. It is checked on sets of code points kept as the bits of a
  number, so that the whole table is one conjunction of two numbers.
-/

import Mathlib.Data.List.Basic
import Sift.Proofs.Text.Trim
import Sift.Text.Case

namespace Sift.Text

/-! ## Sets of code points -/

/-- The number with a bit for each of the code points. -/
def codeBits (ns : List Nat) : Nat := ns.foldr (fun n bits => 1 <<< n ||| bits) 0

theorem testBit_codeBits (ns : List Nat) (n : Nat) : (codeBits ns).testBit n = true ↔ n ∈ ns := by
  induction ns with
  | nil => simp [codeBits]
  | cons m ns ih =>
    have hcons : codeBits (m :: ns) = 1 <<< m ||| codeBits ns := rfl
    rw [hcons, Nat.testBit_or, Bool.or_eq_true, ih, Nat.one_shiftLeft, Nat.testBit_two_pow,
      decide_eq_true_iff, List.mem_cons, eq_comm]

/-- The same for code points in groups, which keeps the recursion as deep as one group is long. -/
def groupBits (groups : List (List Nat)) : Nat :=
  groups.foldr (fun ns bits => codeBits ns ||| bits) 0

theorem testBit_groupBits (groups : List (List Nat)) (n : Nat) :
    (groupBits groups).testBit n = true ↔ n ∈ groups.flatten := by
  induction groups with
  | nil => simp [groupBits]
  | cons ns groups ih =>
    have hcons : groupBits (ns :: groups) = codeBits ns ||| groupBits groups := rfl
    rw [hcons, Nat.testBit_or, Bool.or_eq_true, ih, testBit_codeBits, List.flatten_cons,
      List.mem_append]

theorem not_mem_of_groupBits {groups others : List (List Nat)}
    (h : groupBits groups &&& groupBits others = 0) {n : Nat} (hn : n ∈ others.flatten) :
    n ∉ groups.flatten := by
  intro hg
  have hbit : (groupBits groups &&& groupBits others).testBit n = true := by
    rw [Nat.testBit_and, (testBit_groupBits groups n).2 hg, (testBit_groupBits others n).2 hn]
    rfl
  rw [h, Nat.zero_testBit] at hbit
  cases hbit

/-! ## The tables as groups of code points -/

/-- The code points of a run. -/
def runPoints (first last step : Nat) : List Nat :=
  (List.range ((last - first) / step + 1)).map fun k => first + step * k

theorem mem_runPoints {first last step n : Nat} (hfirst : first ≤ n) (hlast : n ≤ last)
    (hstep : (n - first) % step = 0) : n ∈ runPoints first last step := by
  refine List.mem_map.2 ⟨(n - first) / step, ?_, ?_⟩
  · have : (n - first) / step ≤ (last - first) / step := Nat.div_le_div_right (by omega)
    exact List.mem_range.2 (by omega)
  · have := Nat.div_add_mod (n - first) step
    omega

/-- The code points that the runs change. -/
def runSources (runs : List (Nat × Nat × Nat × Int)) : List (List Nat) :=
  runs.map fun (first, last, step, _) => runPoints first last step

/-- The code points that the runs give. -/
def runTargets (runs : List (Nat × Nat × Nat × Int)) : List (List Nat) :=
  runs.map fun (first, last, step, shift) =>
    (runPoints first last step).map fun n => (Int.ofNat n + shift).toNat

/-- A code point stays as it is, or one of the runs holds it and says what becomes of it. -/
theorem shifted_run (n : Nat) (runs : List (Nat × Nat × Nat × Int)) :
    shifted n runs = n ∨ ∃ first last step shift, (first, last, step, shift) ∈ runs ∧
      n ∈ runPoints first last step ∧ shifted n runs = (Int.ofNat n + shift).toNat := by
  induction runs with
  | nil => exact .inl rfl
  | cons run runs ih =>
    obtain ⟨first, last, step, shift⟩ := run
    rw [shifted]
    by_cases hlast : last < n
    · rw [if_pos hlast]
      refine ih.imp_right ?_
      rintro ⟨first, last, step, shift, hrun, hn, hshift⟩
      exact ⟨first, last, step, shift, List.mem_cons_of_mem _ hrun, hn, hshift⟩
    rw [if_neg hlast]
    split
    · next h =>
      rw [Bool.and_eq_true, decide_eq_true_iff, beq_iff_eq] at h
      have hn := mem_runPoints h.1 (Nat.not_lt.1 hlast) h.2
      exact .inr ⟨first, last, step, shift, List.mem_cons_self, hn, rfl⟩
    · exact .inl rfl

theorem shifted_cases (n : Nat) (runs : List (Nat × Nat × Nat × Int)) :
    shifted n runs = n ∨
      n ∈ (runSources runs).flatten ∧ shifted n runs ∈ (runTargets runs).flatten := by
  refine (shifted_run n runs).imp_right ?_
  rintro ⟨first, last, step, shift, hrun, hn, hshift⟩
  rw [hshift]
  constructor
  · exact List.mem_flatten_of_mem (List.mem_map_of_mem hrun) hn
  · exact List.mem_flatten_of_mem (List.mem_map_of_mem hrun) (List.mem_map_of_mem hn)

def rangePoints (ranges : CodeRanges) : List (List Nat) :=
  ranges.map fun (first, last) => runPoints first last 1

theorem mem_rangePoints {n : Nat} {ranges : CodeRanges} (h : CodeRanges.holds n ranges = true) :
    n ∈ (rangePoints ranges).flatten := by
  induction ranges with
  | nil => cases h
  | cons range ranges ih =>
    obtain ⟨first, last⟩ := range
    rw [CodeRanges.holds] at h
    split at h
    · exact List.mem_append_right _ (ih h)
    · next hlast =>
      have hn := mem_runPoints (of_decide_eq_true h) (Nat.not_lt.1 hlast) (Nat.mod_one _)
      exact List.mem_append_left _ hn

/-! ## One character -/

/-- A character that lowering leaves as it is, wherever it stands. -/
structure Lowered (c : Char) : Prop where
  notSigma : c ≠ '\u03A3'
  fixed : lowerChar c = [c]

/-- The capital I with a dot, the capital sigma, the blanks and all that has a lower case. -/
def unlowered : List (List Nat) :=
  [0x130, 0x3A3] :: rangePoints Table.blank ++ runSources Table.lowercase

/-- All that lowering gives in the place of something else: what a sigma, the capital I with a dot
    and the table give, and the null character. -/
def substitutes : List (List Nat) :=
  [0, 0x69, 0x307, 0x3C2, 0x3C3] :: runTargets Table.lowercase

theorem unlowered_disjoint : groupBits unlowered &&& groupBits substitutes = 0 := by
  decide +kernel

theorem not_mem_unlowered {n : Nat} (h : n ∈ substitutes.flatten) : n ∉ unlowered.flatten :=
  not_mem_of_groupBits unlowered_disjoint h

theorem mem_unlowered_of_blank {n : Nat} (h : n ∈ (rangePoints Table.blank).flatten) :
    n ∈ unlowered.flatten := by
  rw [unlowered, List.flatten_append, List.flatten_cons]
  exact List.mem_append_left _ (List.mem_append_right _ h)

theorem mem_unlowered_of_source {n : Nat} (h : n ∈ (runSources Table.lowercase).flatten) :
    n ∈ unlowered.flatten := by
  rw [unlowered, List.flatten_append]
  exact List.mem_append_right _ h

theorem lowered_of_not_mem {c : Char} (h : c.toNat ∉ unlowered.flatten) : Lowered c where
  notSigma := by
    rintro rfl
    exact h (List.mem_cons_of_mem _ List.mem_cons_self)
  fixed := by
    have hdot : c ≠ '\u0130' := by
      rintro rfl
      exact h List.mem_cons_self
    have hsame : shifted c.toNat Table.lowercase = c.toNat :=
      (shifted_cases c.toNat Table.lowercase).resolve_right fun hs =>
        h (mem_unlowered_of_source hs.1)
    rw [lowerChar, if_neg hdot, hsame, Char.ofNat_toNat]

theorem not_mem_unlowered_of_digit {n : Nat} (h : n ∈ runPoints 0x30 0x39 1) :
    n ∉ unlowered.flatten := by
  have hdisjoint : groupBits unlowered &&& groupBits [runPoints 0x30 0x39 1] = 0 := by
    decide +kernel
  exact not_mem_of_groupBits hdisjoint (List.mem_append_left _ h)

theorem lowered_of_isDigit {c : Char} (h : c.isDigit = true) : Lowered c := by
  obtain ⟨hfirst, hlast⟩ := Char.isDigit_iff_toNat.1 h
  exact lowered_of_not_mem
    (not_mem_unlowered_of_digit (mem_runPoints hfirst hlast (Nat.mod_one _)))

theorem not_blank_of_not_mem {c : Char} (h : c.toNat ∉ unlowered.flatten) : isBlank c = false :=
  Bool.eq_false_iff.2 fun hb => h (mem_unlowered_of_blank (mem_rangePoints hb))

/-! ## One place in a text -/

/-- The lower case of a character between two texts, the first of which is read backwards. -/
def lowerAt (before : List Char) (c : Char) (after : List Char) : List Char :=
  if c = '\u03A3' then [if sigmaEndsWord before after then '\u03C2' else '\u03C3'] else lowerChar c

theorem lowerAfter_cons (before : List Char) (c : Char) (after : List Char) :
    lowerAfter before (c :: after) = lowerAt before c after ++ lowerAfter (c :: before) after := rfl

theorem lowerAt_ne_nil (before : List Char) (c : Char) (after : List Char) :
    lowerAt before c after ≠ [] := by
  unfold lowerAt lowerChar
  repeat' split
  all_goals exact List.cons_ne_nil _ _

theorem lowerAt_of_lowered {c : Char} (h : Lowered c) (before after : List Char) :
    lowerAt before c after = [c] := by
  rw [lowerAt, if_neg h.notSigma, h.fixed]

/-- A character is left as it was, or becomes one of those that stay as they are. -/
theorem lowerAt_cases {before after : List Char} {c d : Char} (h : d ∈ lowerAt before c after) :
    d = c ∧ Lowered c ∨ d.toNat ∈ substitutes.flatten := by
  have hfew : ∀ d : Char, d.toNat ∈ [0, 0x69, 0x307, 0x3C2, 0x3C3] →
      d.toNat ∈ substitutes.flatten := fun d hd => List.mem_append_left _ hd
  unfold lowerAt at h
  by_cases hsigma : c = '\u03A3'
  · rw [if_pos hsigma, List.mem_singleton] at h
    refine .inr (hfew d ?_)
    rw [h]
    split <;> decide
  rw [if_neg hsigma, lowerChar] at h
  by_cases hdot : c = '\u0130'
  · rw [if_pos hdot] at h
    refine .inr (hfew d ?_)
    rcases List.mem_pair.1 h with rfl | rfl <;> decide
  rw [if_neg hdot, List.mem_singleton] at h
  rcases shifted_cases c.toNat Table.lowercase with hsame | ⟨-, htarget⟩
  · rw [hsame, Char.ofNat_toNat] at h
    exact .inl ⟨h, hsigma, by rw [lowerChar, if_neg hdot, hsame, Char.ofNat_toNat]⟩
  · rw [h, Char.ofNat]
    refine .inr ?_
    by_cases hvalid : (shifted c.toNat Table.lowercase).isValidChar
    · rw [dif_pos hvalid]
      exact List.mem_append_right _ htarget
    -- What is no character is replaced by the null character.
    · rw [dif_neg hvalid]
      exact List.mem_append_left _ List.mem_cons_self

theorem lowered_of_mem_lowerAt {before after : List Char} {c d : Char}
    (h : d ∈ lowerAt before c after) : Lowered d := by
  rcases lowerAt_cases h with ⟨rfl, hd⟩ | hd
  · exact hd
  · exact lowered_of_not_mem (not_mem_unlowered hd)

theorem not_blank_of_mem_lowerAt {before after : List Char} {c d : Char}
    (h : d ∈ lowerAt before c after) (hc : isBlank c = false) : isBlank d = false := by
  rcases lowerAt_cases h with ⟨rfl, -⟩ | hd
  · exact hc
  · exact not_blank_of_not_mem (not_mem_unlowered hd)

/-! ## Texts -/

theorem lowered_of_mem {before cs : List Char} {d : Char} (h : d ∈ lowerAfter before cs) :
    Lowered d := by
  induction cs generalizing before with
  | nil => cases h
  | cons c cs ih =>
    rw [lowerAfter_cons, List.mem_append] at h
    exact h.elim lowered_of_mem_lowerAt ih

theorem lowerAfter_of_lowered {cs : List Char} (h : ∀ c ∈ cs, Lowered c) (before : List Char) :
    lowerAfter before cs = cs := by
  induction cs generalizing before with
  | nil => rfl
  | cons c cs ih =>
    rw [lowerAfter_cons, lowerAt_of_lowered (h c List.mem_cons_self),
      ih fun d hd => h d (List.mem_cons_of_mem _ hd)]
    rfl

@[simp] theorem toList_lower (s : String) : (lower s).toList = lowerAfter [] s.toList :=
  String.toList_ofList

theorem isEmpty_lower (s : String) : (lower s).isEmpty = s.isEmpty := by
  have hnil : (lower s).toList = [] ↔ s.toList = [] := by
    rw [toList_lower]
    cases s.toList with
    | nil => exact Iff.rfl
    | cons c cs => simp [lowerAfter_cons, lowerAt_ne_nil]
  rw [Bool.eq_iff_iff, String.isEmpty_iff, String.isEmpty_iff, ← String.toList_eq_nil_iff, hnil,
    String.toList_eq_nil_iff]

theorem lower_lower (s : String) : lower (lower s) = lower s := by
  rw [lower, toList_lower, lowerAfter_of_lowered fun _ h => lowered_of_mem h, lower]

theorem head?_lowerAfter {cs : List Char} (h : ∀ c ∈ cs.head?, isBlank c = false)
    (before : List Char) : ∀ d ∈ (lowerAfter before cs).head?, isBlank d = false := by
  intro d hd
  cases cs with
  | nil => cases hd
  | cons c cs =>
    rw [lowerAfter_cons, List.head?_append_of_ne_nil _ (lowerAt_ne_nil before c cs)] at hd
    exact not_blank_of_mem_lowerAt (List.mem_of_head? hd) (h c rfl)

theorem getLast?_lowerAfter {cs : List Char} (h : ∀ c ∈ cs.getLast?, isBlank c = false)
    (before : List Char) : ∀ d ∈ (lowerAfter before cs).getLast?, isBlank d = false := by
  intro d hd
  induction cs generalizing before with
  | nil => cases hd
  | cons c cs ih =>
    cases cs with
    | nil =>
      rw [lowerAfter_cons, lowerAfter, List.append_nil] at hd
      exact not_blank_of_mem_lowerAt (List.mem_of_getLast? hd) (h c rfl)
    | cons e cs =>
      have hne : lowerAfter (c :: before) (e :: cs) ≠ [] := by
        rw [lowerAfter_cons]
        exact List.append_ne_nil_of_left_ne_nil (lowerAt_ne_nil _ e cs) _
      rw [lowerAfter_cons, List.getLast?_append_of_ne_nil _ hne] at hd
      exact ih (fun c hc => h c (by rwa [List.getLast?_cons_cons])) (c :: before) hd

theorem trimmed_lower {s : String} (h : Trimmed isBlank s.toList) :
    Trimmed isBlank (lower s).toList := by
  rw [toList_lower]
  exact ⟨head?_lowerAfter h.head [], getLast?_lowerAfter h.last []⟩

/-- A character that stays as it is, and that nothing is changed to. -/
theorem mem_lower_iff {d : Char} (hlow : Lowered d) (hfresh : d.toNat ∉ substitutes.flatten)
    {s : String} : d ∈ (lower s).toList ↔ d ∈ s.toList := by
  have hat : ∀ before c after, d ∈ lowerAt before c after ↔ d = c := by
    intro before c after
    constructor
    · intro h
      exact ((lowerAt_cases h).resolve_right hfresh).1
    · rintro rfl
      rw [lowerAt_of_lowered hlow]
      exact List.mem_singleton_self d
  have hafter : ∀ before cs, d ∈ lowerAfter before cs ↔ d ∈ cs := by
    intro before cs
    induction cs generalizing before with
    | nil => rfl
    | cons c cs ih => rw [lowerAfter_cons, List.mem_append, hat, ih, List.mem_cons]
  rw [toList_lower]
  exact hafter [] s.toList

/-- The form in which words from a table are looked up is kept by the way to it. -/
theorem lower_trim_lower_trim (s : String) : lower (trim (lower (trim s))) = lower (trim s) := by
  rw [trim_of_trimmed (trimmed_lower (trimmed_trim s)), lower_lower]

end Sift.Text
