/-
  Sift.Proofs.Literal.Size — which texts are size literals, and which sizes a size literal selects.

  A literal is written with a comparator or none, one digit or more and a unit or none (`Writes`). The
  number alone need not be checked: where the bytes are few enough, so is the number
  (`number_le_bytes`). Where the digits end there is no choice, since no unit begins with a digit in
  either case (`not_isDigit_of_unit`).

  - `read_iff_writes`: a literal is read from the texts that write it, once they are trimmed, and
    every other text is refused as a whole.

  A literal holds a signed number of 64 bits that is not negative (`bytes_of_read`). Sizes are only
  compared strictly, so `>=` and `<=` move their bound by one byte. Downwards there is always room
  (`below_of_nonneg`); above the greatest number of all there is none (`above_maxInt64`), and there
  `<=` means `<`.

  - `selects_related_sizes`: so each literal selects the sizes that stand in its comparator's relation
    to its bytes, but for that greatest size, which no `<=` selects.
-/

import Mathlib.Data.List.Basic
import Sift.Literal.Size
import Sift.Proofs.Comparator
import Sift.Proofs.Outcome
import Sift.Proofs.Range
import Sift.Proofs.Text.Decimal
import Sift.Proofs.Text.Lower

namespace Sift.SizeLiteral

/-! ## What a literal looks like -/

/-- The units in lower case, and the bytes in one of each; without a unit, bytes are counted. -/
def units : List (String × Nat) :=
  [("", 1), ("b", 1),
   ("k", 1024), ("kb", 1024),
   ("m", 1024 * 1024), ("mb", 1024 * 1024),
   ("g", 1024 * 1024 * 1024), ("gb", 1024 * 1024 * 1024)]

/-- One digit or more and a unit in either case, which make no more bytes than 64 bits can count. -/
inductive WritesBytes : List Char → Int → Prop
  | intro {digits unit : List Char} {multiplier : Nat} : digits ≠ [] →
      (∀ c ∈ digits, c.isDigit = true) → (Text.lower (String.ofList unit), multiplier) ∈ units →
      (Text.decimal digits * multiplier : Int) ≤ Text.maxInt64 →
      WritesBytes (digits ++ unit) (Text.decimal digits * multiplier)

inductive Writes : List Char → SizeLiteral → Prop
  | plain {amount : List Char} {bytes : Int} : WritesBytes amount bytes →
      Writes amount ⟨none, bytes⟩
  | compared {comparator : Comparator} {amount : List Char} {bytes : Int} : comparator ≠ .eq →
      WritesBytes amount bytes →
      Writes (comparator.sign.toList ++ amount) ⟨some comparator, bytes⟩

variable {digits unit amount : List Char} {multiplier : Nat} {bytes : Int} {literal : SizeLiteral}

/-! ## The unit -/

theorem sizeUnit_eq_some_iff {unit : String} :
    sizeUnit unit = some multiplier ↔ (Text.lower unit, multiplier) ∈ units := by
  unfold sizeUnit
  generalize Text.lower unit = name
  constructor
  · intro h
    split at h <;> cases h <;> decide
  · intro h
    simp only [units, List.mem_cons, Prod.mk.injEq, List.not_mem_nil, or_false] at h
    rcases h with h | h | h | h | h | h | h | h <;> obtain ⟨rfl, rfl⟩ := h <;> rfl

theorem one_le_multiplier {name : String} (h : (name, multiplier) ∈ units) : 1 ≤ multiplier := by
  have hall : ∀ entry ∈ units, 1 ≤ entry.2 := by decide
  exact hall _ h

/-- A digit is a digit in lower case, and no name of a unit begins with one. -/
theorem not_isDigit_of_unit (h : (Text.lower (String.ofList unit), multiplier) ∈ units) :
    ∀ c ∈ unit.head?, c.isDigit = false := by
  have hnames : ∀ entry ∈ units, entry.1.toList.head?.any Char.isDigit = false := by decide
  intro c hc
  cases unit with
  | nil => cases hc
  | cons d rest =>
    cases hc
    rw [Bool.eq_false_iff]
    intro hdigit
    have hhead : (Text.lower (String.ofList (c :: rest))).toList.head? = some c := by
      rw [Text.toList_lower, String.toList_ofList, Text.lowerAfter_cons,
        Text.lowerAt_of_lowered (Text.lowered_of_isDigit hdigit)]
      rfl
    have hname := hnames _ h
    rw [hhead, Option.any_some, hdigit] at hname
    cases hname

/-! ## The bytes of a literal -/

theorem readBytes_eq_ok {digits unit : List Char} {bytes : Int}
    (h : readBytes digits unit = .ok bytes) :
    ∃ number multiplier, Text.readNat digits = some number ∧
      sizeUnit (String.ofList unit) = some multiplier ∧
      Text.fitsSigned 64 (number * multiplier) = true ∧ bytes = number * multiplier := by
  unfold readBytes at h
  obtain ⟨number, hnumber, h⟩ := exists_of_bind h
  split at h
  · cases h
  obtain ⟨multiplier, hmultiplier, h⟩ := exists_of_bind h
  split at h
  · cases h
  · next hfits =>
    cases h
    exact ⟨number, multiplier, elim_eq_ok_iff.1 hnumber, elim_eq_ok_iff.1 hmultiplier,
      by simpa using hfits, rfl⟩

/-- A unit has one byte at least. -/
theorem number_le_bytes (n : Nat) (h : 1 ≤ multiplier) : (n : Int) ≤ n * multiplier := by
  exact_mod_cast Nat.le_mul_of_pos_right n h

theorem readBytes_of_fits {number : Nat} (hnumber : Text.readNat digits = some number)
    (hmultiplier : sizeUnit (String.ofList unit) = some multiplier) (hpos : 1 ≤ multiplier)
    (hfits : (number * multiplier : Int) ≤ Text.maxInt64) :
    readBytes digits unit = .ok (number * multiplier) := by
  have hnonneg : (0 : Int) ≤ number := Int.natCast_nonneg number
  have hle : (number : Int) ≤ number * multiplier := number_le_bytes number hpos
  have hnumberFits : Text.fitsSigned 64 number = true :=
    Text.fitsSigned_64_iff.2 ⟨by simp only [Text.minInt64]; omega, by omega⟩
  have hbytesFits : Text.fitsSigned 64 (number * multiplier) = true :=
    Text.fitsSigned_64_iff.2 ⟨by simp only [Text.minInt64]; omega, hfits⟩
  rw [readBytes, elim_eq_ok_iff.2 hnumber, ok_bind, elim_eq_ok_iff.2 hmultiplier, ok_bind,
    hnumberFits, hbytesFits]
  rfl

/-- The digits are those that stand first. -/
theorem readBytes_iff_writesBytes :
    readBytes (amount.takeWhile Char.isDigit) (amount.dropWhile Char.isDigit) = .ok bytes ↔
      WritesBytes amount bytes := by
  constructor
  · intro h
    obtain ⟨number, multiplier, hnumber, hmultiplier, hfits, rfl⟩ := readBytes_eq_ok h
    obtain ⟨hne, hdigits, rfl⟩ := Text.readNat_eq_some_iff.1 hnumber
    have hle := (Text.fitsSigned_64_iff.1 hfits).2
    rw [Text.digitsValue_eq] at hle ⊢
    have hwrites := WritesBytes.intro hne hdigits (sizeUnit_eq_some_iff.1 hmultiplier) hle
    rwa [List.takeWhile_append_dropWhile] at hwrites
  · rintro ⟨hne, hdigits, hunit, hle⟩
    obtain ⟨htake, hdrop⟩ := Text.takeWhile_append_of_head? hdigits (not_isDigit_of_unit hunit)
    rw [htake, hdrop]
    have hnumber := Text.readNat_eq_some_iff.2 ⟨hne, hdigits, (Text.digitsValue_eq _).symm⟩
    exact readBytes_of_fits hnumber (sizeUnit_eq_some_iff.2 hunit) (one_le_multiplier hunit) hle

theorem WritesBytes.isDigit_head (h : WritesBytes amount bytes) :
    ∀ c ∈ amount.head?, c.isDigit = true := by
  obtain ⟨hne, hdigits, -, -⟩ := h
  rw [List.head?_append_of_ne_nil _ hne]
  exact fun c hc => hdigits c (List.mem_of_head? hc)

/-! ## The comparator -/

theorem writes_iff {cs : List Char} :
    Writes cs literal ↔ ∃ amount, Comparator.takeFrom cs = (literal.comparator, amount) ∧
      WritesBytes amount literal.bytes := by
  constructor
  · intro h
    cases h with
    | plain hbytes =>
      refine ⟨_, Comparator.takeFrom_of_head? fun c hc => ?_, hbytes⟩
      have hdigit := hbytes.isDigit_head c hc
      constructor <;> rintro rfl <;> cases hdigit
    | compared hsign hbytes =>
      refine ⟨_, Comparator.takeFrom_sign hsign fun hc => ?_, hbytes⟩
      cases hbytes.isDigit_head _ hc
  · rintro ⟨amount, htake, hbytes⟩
    obtain ⟨comparator, bytes⟩ := literal
    cases comparator with
    | none =>
      obtain rfl : cs = amount := by
        rw [Comparator.takeFrom_none (congrArg Prod.fst htake)] at htake
        exact congrArg Prod.snd htake
      exact .plain hbytes
    | some comparator =>
      rw [← Comparator.sign_append_takeFrom htake]
      exact .compared (Comparator.takeFrom_ne_eq htake) hbytes

/-! ## The whole literal -/

variable {text : String}

theorem read_eq_ok_iff :
    read text = .ok literal ↔
      ∃ amount, Comparator.takeFrom (Text.trim text).toList = (literal.comparator, amount) ∧
        WritesBytes amount literal.bytes := by
  delta read
  -- The text is set aside, or the next steps would try to compute with it.
  generalize Comparator.takeFrom (Text.trim text).toList = taken
  obtain ⟨comparator, amount⟩ := taken
  dsimp only
  constructor
  · intro h
    split at h
    · next bytes hbytes =>
      cases h
      exact ⟨amount, rfl, readBytes_iff_writesBytes.1 hbytes⟩
    · cases h
  · rintro ⟨_, ⟨⟩, hbytes⟩
    rw [readBytes_iff_writesBytes.2 hbytes]

theorem read_cases (text : String) :
    (∃ literal, read text = .ok literal) ∨
      ∃ flaw, read text = .error (.invalidLiteral .size text flaw) := by
  delta read
  generalize Comparator.takeFrom (Text.trim text).toList = taken
  dsimp only
  split
  · exact .inl ⟨_, rfl⟩
  · exact .inr ⟨_, rfl⟩

/-- For every text, with blanks around the literal or none. -/
theorem read_iff_writes (text : String) :
    (∀ literal, read text = .ok literal ↔ Writes (Text.trim text).toList literal) ∧
      ((∃ literal, Writes (Text.trim text).toList literal) ∨
        ∃ flaw, read text = .error (.invalidLiteral .size text flaw)) := by
  have hread : ∀ literal, read text = .ok literal ↔ Writes (Text.trim text).toList literal :=
    fun literal => read_eq_ok_iff.trans writes_iff.symm
  exact ⟨hread, (read_cases text).imp_left fun ⟨literal, h⟩ => ⟨literal, (hread literal).1 h⟩⟩

/-- Any number of zeros may stand first; one gigabyte more than this is more than 64 bits can count. -/
example :
    read " <=00000000000000000000000008589934591G" = .ok ⟨some .le, 8589934591 * 1073741824⟩ ∧
      read "<=8589934592G" = .error (.invalidLiteral .size "<=8589934592G" .numberTooLarge) := by
  decide +kernel

theorem bytes_of_read (h : read text = .ok literal) :
    0 ≤ literal.bytes ∧ literal.bytes ≤ Text.maxInt64 := by
  obtain ⟨amount, -, hbytes⟩ := read_eq_ok_iff.1 h
  generalize literal.bytes = bytes at hbytes
  obtain ⟨-, -, -, hle⟩ := hbytes
  exact ⟨Int.mul_nonneg (Int.natCast_nonneg _) (Int.natCast_nonneg _), hle⟩

/-! ## Bounds that are moved -/

theorem above_of_lt {n : Int} (h : n < Text.maxInt64) : above n = n + 1 := by
  simp only [above]
  omega

theorem above_maxInt64 : above Text.maxInt64 = Text.maxInt64 := by decide

theorem below_of_nonneg {n : Int} (h : 0 ≤ n) : below n = n - 1 := by
  simp only [below, Text.minInt64]
  omega

variable {n m : Int}

/-- A bound above the greatest number would be no number of 64 bits. -/
theorem lt_above_iff (hn : n ≤ Text.maxInt64) (hm : m ≤ Text.maxInt64) :
    n < above m ↔ n ≤ m ∧ n ≠ Text.maxInt64 := by
  by_cases hlt : m < Text.maxInt64
  · rw [above_of_lt hlt]
    omega
  · obtain rfl : m = Text.maxInt64 := by omega
    rw [above_maxInt64]
    omega

theorem below_lt_iff (hm : 0 ≤ m) : below m < n ↔ m ≤ n := by
  rw [below_of_nonneg hm]
  omega

/-! ## The sizes in a range -/

/-- For every literal and every size of 64 bits; the literal's own comparator goes before the implied
    one. -/
theorem selects_related_sizes {text : String} {literal : SizeLiteral}
    (h : read text = .ok literal) (implied : Comparator) {size : Int}
    (hsize : Text.fitsSigned 64 size = true) :
    (literal.range implied).contains size = true ↔
      (literal.comparator.getD implied).Relates size literal.bytes ∧
        ¬ (literal.comparator.getD implied = .le ∧ size = Text.maxInt64) := by
  obtain ⟨hnonneg, hbytes⟩ := bytes_of_read h
  have hmax : size ≤ Text.maxInt64 := (Text.fitsSigned_64_iff.1 hsize).2
  unfold range
  cases hcomparator : literal.comparator.getD implied with
  | eq => simpa [Comparator.range] using Comparator.contains_range .eq size literal.bytes
  | lt => simpa [Comparator.range] using Comparator.contains_range .lt size literal.bytes
  | gt => simpa [Comparator.range] using Comparator.contains_range .gt size literal.bytes
  | ge =>
    simpa [Range.contains, Bound.admitsFrom, Bound.admitsUpTo, Comparator.Relates] using
      below_lt_iff hnonneg
  | le =>
    simpa [Range.contains, Bound.admitsFrom, Bound.admitsUpTo, Comparator.Relates] using
      lt_above_iff hmax hbytes

/-- The implied comparator is not asked for, and the literal's own counts the size itself. -/
theorem one_megabyte_selected :
    let literal : SizeLiteral := ⟨some .ge, 1048576⟩
    read ">=1mb" = .ok literal ∧ Text.fitsSigned 64 1048576 = true ∧
      ((literal.range .lt).contains 1048576 = true ↔
        Comparator.ge.Relates 1048576 1048576 ∧
          ¬ (Comparator.ge = .le ∧ (1048576 : Int) = Text.maxInt64)) ∧
      (literal.range .lt).contains 1048576 = true := by
  intro literal
  have hread : read ">=1mb" = .ok literal := by decide +kernel
  have hsize : Text.fitsSigned 64 1048576 = true := by decide
  exact ⟨hread, hsize, selects_related_sizes hread .lt hsize, by decide⟩

/-- There is no room above the greatest size for a bound that takes it in. -/
theorem greatest_size_unselected :
    let literal : SizeLiteral := ⟨some .le, Text.maxInt64⟩
    read "<=9223372036854775807" = .ok literal ∧ Text.fitsSigned 64 Text.maxInt64 = true ∧
      Comparator.le.Relates Text.maxInt64 literal.bytes ∧
      (literal.range .eq).contains Text.maxInt64 = false := by
  decide +kernel

end Sift.SizeLiteral
