/-
  Sift.Proofs.Text.Decimal — a whole number is read back from its digits.

  - `digitsValue_eq`: digits read one by one make the number that they write by their places (`decimal`).
  - `readNat_eq_some_iff`: which texts are numbers without a sign.
  - `readInt_eq_some_iff`: and which with one sign before the digits (`Writes`).
  - `readInt_toString`: a number is written with its sign, if it is negative.
  - `fitsSigned_64_iff`: the numbers of 64 bits are those from the least to the greatest.
  - `mem_toString`: no other character than a digit or a minus is written.
-/

import Sift.Text.Decimal

namespace Sift.Text

/-! ## The value of digits -/

/-- The number that digits write: each counts for ten times what it would in the place after it. -/
def decimal : List Char → Nat
  | [] => 0
  | c :: cs => (c.toNat - '0'.toNat) * Nat.pow 10 cs.length + decimal cs

/-- What has been read before moves up by as many places as there are digits after it. -/
theorem digitsValue_eq (cs : List Char) : digitsValue cs = decimal cs := by
  induction cs with
  | nil => rfl
  | cons c cs ih =>
    rw [digitsValue, Nat.ofDigitChars_cons, Nat.mul_zero, Nat.zero_add,
      Nat.ofDigitChars_eq_ofDigitChars_zero, Nat.mul_comm, ← digitsValue, ih, decimal]
    rfl

/-! ## Read -/

/-- A number is read from digits alone, and from at least one. -/
theorem readNat_eq_some_iff {cs : List Char} {n : Nat} :
    readNat cs = some n ↔ cs ≠ [] ∧ (∀ c ∈ cs, c.isDigit = true) ∧ n = digitsValue cs := by
  have hdigits : (!cs.isEmpty && cs.all Char.isDigit) = true ↔
      cs ≠ [] ∧ ∀ c ∈ cs, c.isDigit = true := by
    rw [Bool.and_eq_true, Bool.not_eq_true', List.isEmpty_eq_false_iff, List.all_eq_true]
  rw [readNat, ← and_assoc, ← hdigits, Option.ite_none_right_eq_some, Option.some.injEq,
    eq_comm (a := n)]

/-- One digit or more after at most one sign, and the number that they write. -/
inductive Writes : List Char → Int → Prop
  | unsigned {digits : List Char} : digits ≠ [] → (∀ c ∈ digits, c.isDigit = true) →
      Writes digits (digitsValue digits)
  | plus {digits : List Char} : digits ≠ [] → (∀ c ∈ digits, c.isDigit = true) →
      Writes ('+' :: digits) (digitsValue digits)
  | minus {digits : List Char} : digits ≠ [] → (∀ c ∈ digits, c.isDigit = true) →
      Writes ('-' :: digits) (-digitsValue digits)

/-- Digits are not taken for a sign. -/
theorem readInt_of_head? {cs : List Char} (h : ∀ c ∈ cs.head?, c.isDigit = true) :
    readInt cs = (readNat cs).map Int.ofNat := by
  unfold readInt
  split
  · exact absurd (h '+' rfl) (by decide)
  · exact absurd (h '-' rfl) (by decide)
  · rfl

theorem readInt_eq_some_iff {cs : List Char} {n : Int} : readInt cs = some n ↔ Writes cs n := by
  constructor
  · intro h
    unfold readInt at h
    split at h
    all_goals
      obtain ⟨m, hm, rfl⟩ := Option.map_eq_some_iff.1 h
      obtain ⟨hne, hdigits, rfl⟩ := readNat_eq_some_iff.1 hm
    · exact .plus hne hdigits
    · exact .minus hne hdigits
    · exact .unsigned hne hdigits
  · intro h
    cases h with
    | unsigned hne hdigits =>
      rw [readInt_of_head? fun c hc => hdigits c (List.mem_of_head? hc),
        readNat_eq_some_iff.2 ⟨hne, hdigits, rfl⟩]
      rfl
    | plus hne hdigits =>
      rw [readInt, readNat_eq_some_iff.2 ⟨hne, hdigits, rfl⟩]
      rfl
    | minus hne hdigits =>
      rw [readInt, readNat_eq_some_iff.2 ⟨hne, hdigits, rfl⟩]
      rfl

theorem Writes.ne_nil {cs : List Char} {n : Int} (h : Writes cs n) : cs ≠ [] := by
  cases h with
  | unsigned hne => exact hne
  | plus => exact List.cons_ne_nil _ _
  | minus => exact List.cons_ne_nil _ _

theorem Writes.isDigit_or_sign {cs : List Char} {n : Int} (h : Writes cs n) {c : Char} (hc : c ∈ cs) :
    c.isDigit = true ∨ c = '+' ∨ c = '-' := by
  cases h with
  | unsigned _ hdigits => exact .inl (hdigits c hc)
  | plus _ hdigits =>
    rcases List.mem_cons.1 hc with hsign | hc
    · exact .inr (.inl hsign)
    · exact .inl (hdigits c hc)
  | minus _ hdigits =>
    rcases List.mem_cons.1 hc with hsign | hc
    · exact .inr (.inr hsign)
    · exact .inl (hdigits c hc)

/-! ## Written and read -/

theorem digitsValue_toDigits (n : Nat) : digitsValue (Nat.toDigits 10 n) = n :=
  Nat.ofDigitChars_ten_toDigits

theorem isDigit_of_mem_toDigits {n : Nat} {c : Char} (h : c ∈ Nat.toDigits 10 n) :
    c.isDigit = true :=
  Nat.isDigit_of_mem_toDigits (by decide) (by decide) h

theorem readNat_toDigits (n : Nat) : readNat (Nat.toDigits 10 n) = some n := by
  have hne : Nat.toDigits 10 n ≠ [] := by simp
  have hdigits : ∀ c ∈ Nat.toDigits 10 n, c.isDigit = true := fun c hc => isDigit_of_mem_toDigits hc
  exact readNat_eq_some_iff.2 ⟨hne, hdigits, (digitsValue_toDigits n).symm⟩

theorem toList_toString_ofNat (n : Nat) : (toString (Int.ofNat n)).toList = Nat.toDigits 10 n := by
  rw [Int.toString_eq_repr, Int.repr_eq_if, if_pos (show 0 ≤ Int.ofNat n from Int.natCast_nonneg n)]
  exact Nat.toList_repr

theorem toList_toString_negSucc (n : Nat) :
    (toString (Int.negSucc n)).toList = '-' :: Nat.toDigits 10 (n + 1) := by
  rw [Int.toString_eq_repr, Int.repr_eq_if, if_neg (by simp), String.toList_append, Nat.toList_repr]
  rfl

theorem readInt_toString (i : Int) : readInt (toString i).toList = some i := by
  cases i with
  | ofNat n =>
    have hhead : ∀ c ∈ (Nat.toDigits 10 n).head?, c.isDigit = true := fun c hc =>
      isDigit_of_mem_toDigits (List.mem_of_head? hc)
    rw [toList_toString_ofNat, readInt_of_head? hhead, readNat_toDigits]
    rfl
  | negSucc n =>
    rw [toList_toString_negSucc, readInt, readNat_toDigits]
    rfl

theorem readSigned_toString {bits : Nat} {i : Int} (h : fitsSigned bits i = true) :
    readSigned bits (toString i).toList = some i := by
  rw [readSigned, readInt_toString, Option.filter_some, if_pos h]

theorem fitsSigned_of_readSigned {bits : Nat} {cs : List Char} {i : Int}
    (h : readSigned bits cs = some i) : fitsSigned bits i = true := by
  rw [readSigned, Option.filter_eq_some_iff] at h
  exact h.2

theorem fitsSigned_64_iff {n : Int} :
    fitsSigned 64 n = true ↔ minInt64 ≤ n ∧ n ≤ maxInt64 := by
  have hpow : Int.pow 2 (64 - 1) = 9223372036854775808 := by decide
  simp only [fitsSigned, hpow, Bool.and_eq_true, decide_eq_true_iff, minInt64, maxInt64]
  omega

theorem mem_toString {i : Int} {c : Char} (h : c ∈ (toString i).toList) :
    c.isDigit = true ∨ c = '-' := by
  cases i with
  | ofNat n =>
    rw [toList_toString_ofNat] at h
    exact .inl (isDigit_of_mem_toDigits h)
  | negSucc n =>
    rw [toList_toString_negSucc] at h
    rcases List.mem_cons.1 h with rfl | h
    · exact .inr rfl
    · exact .inl (isDigit_of_mem_toDigits h)

end Sift.Text
