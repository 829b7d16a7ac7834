/-
  Sift.Proofs.Text.AsciiCase — the two ways to ignore the case of a text, compared.

  Two texts that have the same lower case differ in the case of A to Z alone, if that lower case is made
  of the letters a to z. There is one exception: the sign for Kelvin has the lower case `k` and is no
  letter of ASCII.

  - `lowerAt_of_isLower`: apart from that sign, only A to Z and a to z themselves become one of a to z.
  - `sameAscii_of_lower`: so texts without the sign that have one such lower case are the same, but for
    the case of A to Z.
  - `k_mem_lowerAfter`: the sign leaves a `k` behind, so `not_sameAscii_of_kelvin` parts it from the letter.
-/

import Sift.Proofs.Text.Lower

namespace Sift.Text

/-- The sign for Kelvin, whose lower case is the letter k. -/
def kelvin : Char := '\u212A'

/-! ## One character -/

theorem isLower_iff {c : Char} : c.isLower = true ↔ 'a'.toNat ≤ c.toNat ∧ c.toNat ≤ 'z'.toNat := by
  show (decide ('a'.val ≤ c.val) && decide (c.val ≤ 'z'.val)) = true ↔ _
  rw [Bool.and_eq_true, decide_eq_true_iff, decide_eq_true_iff, UInt32.le_iff_toNat_le,
    UInt32.le_iff_toNat_le]
  rfl

theorem toLower_of_isLower {c : Char} (h : c.isLower = true) : c.toLower = c := by
  have hupper : ¬(c.val ≥ 'A'.val ∧ c.val ≤ 'Z'.val) := by
    rintro ⟨-, hz⟩
    have ha : 'a'.toNat ≤ 'Z'.toNat := Nat.le_trans (isLower_iff.1 h).1 (UInt32.le_iff_toNat_le.1 hz)
    revert ha
    decide
  exact dif_neg hupper

/-- What is no character is replaced by the null character. -/
theorem toNat_ofNat_cases (n : Nat) : (Char.ofNat n).toNat = n ∨ (Char.ofNat n).toNat = 0 := by
  by_cases hvalid : n.isValidChar
  · exact .inl (congrArg Char.toNat (dif_pos hvalid))
  · exact .inr (congrArg Char.toNat (dif_neg hvalid))

/-- All but two of the runs lead beyond the letters a to z. -/
theorem lowercase_runs : ∀ run ∈ Table.lowercase,
    (∀ n ∈ runPoints run.1 run.2.1 run.2.2.1, 'z'.toNat < (Int.ofNat n + run.2.2.2).toNat) ∨
      run = (0x41, 0x5A, 1, 32) ∨ run = (0x212A, 0x212A, 1, -8383) := by
  decide +kernel

theorem toLower_of_mem_run : ∀ n ∈ runPoints 0x41 0x5A 1,
    Char.ofNat (Int.ofNat n + 32).toNat = (Char.ofNat n).toLower := by
  decide

/-- What the table makes of a character, if that is one of the letters a to z. -/
theorem ofNat_shifted_of_isLower {c : Char}
    (h : (Char.ofNat (shifted c.toNat Table.lowercase)).isLower = true) (hc : c ≠ kelvin) :
    Char.ofNat (shifted c.toNat Table.lowercase) = c.toLower := by
  rcases shifted_run c.toNat Table.lowercase with hsame | ⟨first, last, step, shift, hrun, hn, hshift⟩
  · rw [hsame, Char.ofNat_toNat] at h ⊢
    rw [toLower_of_isLower h]
  rcases lowercase_runs _ hrun with hbeyond | hletters | hsign
  · have hfar := hbeyond c.toNat hn
    obtain ⟨ha, hz⟩ := isLower_iff.1 h
    rcases toNat_ofNat_cases (shifted c.toNat Table.lowercase) with hcode | hnull
    · rw [hcode, hshift] at hz
      exact absurd hz (Nat.not_le.2 hfar)
    · rw [hnull] at ha
      exact absurd ha (by decide)
  · cases hletters
    rw [hshift, toLower_of_mem_run c.toNat hn, Char.ofNat_toNat]
  · cases hsign
    have hpoint : c.toNat = 0x212A := by simpa [runPoints] using hn
    refine absurd ?_ hc
    rw [← Char.ofNat_toNat c, hpoint]
    rfl

theorem lowerAt_of_isLower {before after : List Char} {c : Char}
    (h : ∀ d ∈ lowerAt before c after, d.isLower = true) (hc : c ≠ kelvin) :
    lowerAt before c after = [c.toLower] := by
  unfold lowerAt at h ⊢
  by_cases hsigma : c = '\u03A3'
  · rw [if_pos hsigma] at h
    have hlower := h _ List.mem_cons_self
    split at hlower
    · cases hlower
    · cases hlower
  rw [if_neg hsigma, lowerChar] at h ⊢
  by_cases hdot : c = '\u0130'
  · rw [if_pos hdot] at h
    have hlower := h '\u0307' (by simp)
    cases hlower
  rw [if_neg hdot] at h ⊢
  rw [ofNat_shifted_of_isLower (h _ List.mem_cons_self) hc]

theorem lowerAt_kelvin (before after : List Char) : lowerAt before kelvin after = ['k'] := by
  rw [lowerAt, if_neg (by decide)]
  decide +kernel

/-! ## Texts -/

theorem lowerAfter_of_isLower {before cs : List Char}
    (h : ∀ d ∈ lowerAfter before cs, d.isLower = true) (hc : kelvin ∉ cs) :
    lowerAfter before cs = cs.map Char.toLower := by
  induction cs generalizing before with
  | nil => rfl
  | cons c cs ih =>
    rw [List.mem_cons, not_or] at hc
    rw [lowerAfter_cons] at h ⊢
    rw [lowerAt_of_isLower (fun d hd => h d (List.mem_append_left _ hd)) (Ne.symm hc.1),
      ih (fun d hd => h d (List.mem_append_right _ hd)) hc.2]
    rfl

theorem sameAscii_congr {s t : String} (h : sameAscii s t = true) (u : String) :
    sameAscii u t = sameAscii u s := by
  rw [sameAscii, beq_iff_eq] at h
  rw [sameAscii, sameAscii, h]

theorem sameAscii_of_lower {s t : String} (h : lower s = lower t)
    (hlower : ∀ c ∈ (lower s).toList, c.isLower = true) (hs : kelvin ∉ s.toList)
    (ht : kelvin ∉ t.toList) : sameAscii s t = true := by
  have hst : lowerAfter [] s.toList = lowerAfter [] t.toList := by
    rw [← toList_lower, ← toList_lower, h]
  rw [toList_lower] at hlower
  rw [sameAscii, beq_iff_eq, ← lowerAfter_of_isLower hlower hs, hst]
  exact lowerAfter_of_isLower (hst ▸ hlower) ht

theorem k_mem_lowerAfter {cs : List Char} (h : kelvin ∈ cs) (before : List Char) :
    'k' ∈ lowerAfter before cs := by
  induction cs generalizing before with
  | nil => cases h
  | cons c cs ih =>
    rw [lowerAfter_cons]
    rcases List.mem_cons.1 h with rfl | h
    · rw [lowerAt_kelvin]
      exact List.mem_append_left _ (List.mem_singleton_self 'k')
    · exact List.mem_append_right _ (ih h (c :: before))

theorem eq_kelvin_of_toLower {c : Char} (h : c.toLower = kelvin) : c = kelvin := by
  by_cases hupper : 'A'.val ≤ c.val ∧ c.val ≤ 'Z'.val
  · have hz : c.val.toNat ≤ 90 := UInt32.le_iff_toNat_le.1 hupper.2
    have hlower : c.toLower.val = c.val + 32 := congrArg Char.val (dif_pos hupper)
    have hcode : (c.val + 32).toNat = 0x212A := by
      rw [← hlower, h]
      rfl
    rw [UInt32.toNat_add, show (32 : UInt32).toNat = 32 from rfl] at hcode
    omega
  · have hlower : c.toLower = c := dif_neg hupper
    exact hlower ▸ h

/-- The sign is not the letter in either case. -/
theorem not_sameAscii_of_kelvin {s t : String} (hs : kelvin ∉ s.toList) (ht : kelvin ∈ t.toList) :
    sameAscii s t = false := by
  rw [sameAscii, beq_eq_false_iff_ne]
  intro heq
  have hmem : kelvin ∈ t.toList.map Char.toLower := List.mem_map.2 ⟨kelvin, ht, by decide⟩
  rw [← heq] at hmem
  obtain ⟨c, hc, hlower⟩ := List.mem_map.1 hmem
  exact hs (eq_kelvin_of_toLower hlower ▸ hc)

end Sift.Text
