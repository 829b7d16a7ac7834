/-
  Sift.Proofs.StructuredNumber — structured fields whose value compares with a number.

  Such a value (`ComparesWith`) is meant as a range over the numbers of the field, but whether its digits
  are a number of 64 bits is looked at only when the question is compiled. If they are not, nothing is
  refused: the whole value becomes a word to look for.

  - `ComparesWith.numericRange_eq`: the comparator and the number are found behind whatever blanks.
  - `Searcher.compares_number`: so the question is made in either case, and compiles to the range for a
    number that fits and to the word for one that does not.
  - `great_number_is_word`: a number that every number of the field is less than, and an item with such
    a number that is not found; the fields that count refuse the same value.
-/

import Sift.Operation.Facts
import Sift.Proofs.Comparator
import Sift.Proofs.Compiled
import Sift.Proofs.Range
import Sift.Proofs.Reread.Text
import Sift.Proofs.Text.Decimal

namespace Sift

/-! ## Values that compare with a number -/

/-- Blanks, a comparator, blanks, and a number up to the end. -/
structure ComparesWith (value : String) (comparator : Comparator) (n : Int) : Prop where
  compares : comparator ≠ .eq
  parts : ∃ lead gap number : List Char,
    value.toList = lead ++ (comparator.sign.toList ++ (gap ++ number)) ∧
      (∀ c ∈ lead, Text.isBlank c = true) ∧ (∀ c ∈ gap, Text.isBlank c = true) ∧
      Text.Writes number n

theorem Text.Writes.plain {cs : List Char} {n : Int} (h : Text.Writes cs n) {c : Char} (hc : c ∈ cs) :
    Text.isBlank c = false ∧ c ≠ '*' ∧ c ≠ '=' := by
  have hdigits : ∀ n < 58, 48 ≤ n → Text.isBlank (Char.ofNat n) = false ∧ Char.ofNat n ≠ '*' ∧
      Char.ofNat n ≠ '=' := by decide +kernel
  rcases h.isDigit_or_sign hc with hdigit | rfl | rfl
  · obtain ⟨hlow, hhigh⟩ : 48 ≤ c.toNat ∧ c.toNat ≤ 57 := Char.isDigit_iff_toNat.1 hdigit
    have hplain := hdigits c.toNat (by omega) hlow
    rwa [Char.ofNat_toNat] at hplain
  · decide
  · decide

/-- What is left between the blanks before the value and those before the number. -/
theorem Comparator.trimmed_sign (comparator : Comparator) {gap number : List Char} {n : Int}
    (hsign : comparator ≠ .eq) (hnumber : Text.Writes number n) :
    Text.Trimmed Text.isBlank (comparator.sign.toList ++ (gap ++ number)) := by
  constructor
  · cases comparator with
    | eq => exact absurd rfl hsign
    | lt | le | gt | ge =>
      intro c hc
      cases hc
      decide
  · intro c hc
    rw [← List.append_assoc, List.getLast?_append_of_ne_nil _ hnumber.ne_nil] at hc
    exact (hnumber.plain (List.mem_of_getLast? hc)).1

namespace ComparesWith

variable {value : String} {comparator : Comparator} {n : Int}

theorem trim_eq (h : ComparesWith value comparator n) : ∃ gap number : List Char,
    (∀ c ∈ gap, Text.isBlank c = true) ∧ Text.Writes number n ∧
      Text.trim value = comparator.sign ++ String.ofList (gap ++ number) := by
  obtain ⟨lead, gap, number, hvalue, hlead, hgap, hnumber⟩ := h.parts
  refine ⟨gap, number, hgap, hnumber, ?_⟩
  have htrimmed : Text.Trimmed Text.isBlank (comparator.sign.toList ++ (gap ++ number)) :=
    comparator.trimmed_sign h.compares hnumber
  rw [← String.ofList_toList (s := value), hvalue, Text.trim_lead hlead, Text.trim_of_trimmed,
    String.ofList_append, String.ofList_toList]
  rwa [String.toList_ofList]

theorem starless (h : ComparesWith value comparator n) : '*' ∉ value.toList := by
  obtain ⟨lead, gap, number, hvalue, hlead, hgap, hnumber⟩ := h.parts
  have hblank : Text.isBlank '*' = false := by decide
  intro hstar
  rw [hvalue] at hstar
  rcases List.mem_append.1 hstar with hstar | hstar
  · rw [hlead _ hstar] at hblank
    cases hblank
  rcases List.mem_append.1 hstar with hstar | hstar
  · cases comparator <;> revert hstar <;> decide
  rcases List.mem_append.1 hstar with hstar | hstar
  · rw [hgap _ hstar] at hblank
    cases hblank
  · exact (hnumber.plain hstar).2.1 rfl

/-- A number of 64 bits makes a range of the value. -/
theorem numericRange_eq (h : ComparesWith value comparator n) :
    numericRange value = if Text.fitsSigned 64 n = true then some (comparator.range n) else none := by
  obtain ⟨gap, number, hgap, hnumber, htrim⟩ := h.trim_eq
  -- No longer comparator is found: neither a blank nor a number begins with `=`.
  have hhead : (String.ofList (gap ++ number)).toList.head? ≠ some '=' := by
    intro heq
    rw [String.toList_ofList] at heq
    rcases List.mem_append.1 (List.mem_of_head? heq) with hmem | hmem
    · have hblank := hgap _ hmem
      revert hblank
      decide
    · exact (hnumber.plain hmem).2.2 rfl
  have htrimmed : Text.Trimmed Text.isBlank (String.ofList number).toList := by
    rw [String.toList_ofList]
    exact Text.trimmed_of_forall fun c hc => (hnumber.plain hc).1
  have hnumberText : Text.trim (String.ofList (gap ++ number)) = String.ofList number := by
    rw [Text.trim_lead hgap, Text.trim_of_trimmed htrimmed]
  simp only [numericRange, htrim, Comparator.take_sign h.compares hhead, hnumberText,
    String.toList_ofList, Text.readSigned, Text.readInt_eq_some_iff.2 hnumber, Option.filter_some]
  split
  · rfl
  · rfl

theorem isEmpty_trim (h : ComparesWith value comparator n) : (Text.trim value).isEmpty = false := by
  obtain ⟨lead, gap, number, hvalue, -, -, hnumber⟩ := h.parts
  obtain ⟨c, hc⟩ := List.exists_mem_of_ne_nil number hnumber.ne_nil
  have hmem : c ∈ value.toList := by
    rw [hvalue]
    simp [hc]
  exact Text.isEmpty_trim_of_mem hmem (hnumber.plain hc).1

end ComparesWith

/-! ## Questions -/

variable {name value : String} {comparator : Comparator} {n : Int}

theorem Predicate.ofStructured_of_compares (hname : name ≠ "") (h : ComparesWith value comparator n) :
    ofStructured name value = .ok (.structured name value) := by
  have hnamed : name.isEmpty = false := by simpa using hname
  rw [ofStructured, hnamed, nonBlank_eq_ok_iff.2 ⟨rfl, h.isEmpty_trim⟩,
    splitWildcard_eq_ok_iff.2 ⟨wellStarred_of_starless h.starless, rfl⟩]
  rfl

theorem compileStructured_of_fits (h : ComparesWith value comparator n)
    (hfits : Text.fitsSigned 64 n = true) (truth : Bool) :
    compileStructured name value truth =
      .ok (.index .structured (.range (Text.lower name) (comparator.range n)) truth) := by
  rw [compileStructured, h.numericRange_eq, if_pos hfits]

/-- The text that is searched instead of a range has the name and the value in it as they are. -/
theorem compileStructured_of_not_fits (hstar : '*' ∉ name.toList) (h : ComparesWith value comparator n)
    (hfits : ¬ Text.fitsSigned 64 n = true) (truth : Bool) :
    compileStructured name value truth =
      .ok (.index .structured
        (.term (Text.lower (Text.trim (name ++ ":" ++ Text.trim value)))) truth) := by
  have hstarless : '*' ∉ (name ++ ":" ++ Text.trim value).toList := by
    intro hmem
    rw [String.toList_append, String.toList_append, Text.toList_trim] at hmem
    rcases List.mem_append.1 hmem with hmem | hmem
    · rcases List.mem_append.1 hmem with hmem | hmem
      · exact hstar hmem
      · revert hmem
        decide
    · exact h.starless (Text.mem_of_mem_dropAround hmem)
  have hcolon : ':' ∈ (name ++ ":" ++ Text.trim value).toList := by simp
  have hblank := Text.isEmpty_trim_of_mem hcolon (by decide)
  rw [compileStructured, h.numericRange_eq, if_neg hfits]
  exact ((compileText_eq_term_iff rfl (wellStarred_of_starless hstarless) hblank truth).2
    ⟨hasWildcard_of_starless hstarless, rfl, rfl⟩).symm

/-! ## Searches -/

/-- What a value that compares with the number becomes. -/
structure Searcher.ComparesNumber (searcher : Searcher) (field name value : String)
    (comparator : Comparator) (n : Int) : Prop where
  /-- The numbers that stand in the relation, for a number of 64 bits. -/
  range : Text.minInt64 ≤ n → n ≤ Text.maxInt64 → ∃ range : Range Int,
    searcher.Compiles field value (.index .structured (.range (Text.lower name) range)) ∧
      ∀ v, range.contains v = true ↔ comparator.Relates v n
  /-- For any other number the name and the value as one word. -/
  word : n < Text.minInt64 ∨ Text.maxInt64 < n →
    searcher.Compiles field value
      (.index .structured (.term (Text.lower (Text.trim (name ++ ":" ++ Text.trim value)))))

/-- Every name, and every number of digits. -/
theorem Searcher.compares_number (searcher : Searcher) {field : String} (hname : name ≠ "")
    (hstar : '*' ∉ name.toList) (hfield : field ∈ SearchField.structuredNames name)
    (h : ComparesWith value comparator n) :
    searcher.ComparesNumber field name value comparator n := by
  have hread : (SearchField.structured name).read searcher value =
      .ok (.ofPredicate (.structured name value)) := by
    rw [SearchField.read, Predicate.ofStructured_of_compares hname h]
    rfl
  constructor
  case range =>
    intro hleast hgreatest
    have hfits : Text.fitsSigned 64 n = true := Text.fitsSigned_64_iff.2 ⟨hleast, hgreatest⟩
    refine ⟨comparator.range n, ?_, ?_⟩
    · apply Searcher.compiles_of_read (SearchField.ofName_structured hfield) hread
      intro _ _ truth
      show compileStructured name value truth = _
      rw [compileStructured_of_fits h hfits]
    · intro v
      exact comparator.contains_range v n
  case word =>
    intro hbeyond
    have hfits : ¬ Text.fitsSigned 64 n = true := by
      rw [Text.fitsSigned_64_iff]
      omega
    apply Searcher.compiles_of_read (SearchField.ofName_structured hfield) hread
    intro _ _ truth
    show compileStructured name value truth = _
    rw [compileStructured_of_not_fits hstar h hfits]

/-- Blanks, a sign and zeros before the number. -/
theorem spaced_number_compared :
    let searcher : Searcher := ⟨⟨List.replicate 32 0, rfl⟩, .standard ⟨0, 0⟩⟩
    let value := " >=  +0042"
    ComparesWith value .ge 42 ∧
      searcher.ComparesNumber "field[Score]" "Score" value .ge 42 ∧
      ∃ range : Range Int,
        searcher.Compiles "field[Score]" value (.index .structured (.range "score" range)) ∧
          range.contains 41 = false ∧ range.contains 42 = true := by
  intro searcher value
  -- Over the list and not over its members, of which an instance may take all characters there are.
  have hdigits : ∀ c ∈ ['0', '0', '4', '2'], c.isDigit = true := List.all_eq_true.1 (by decide)
  have hnumber : Text.Writes "+0042".toList 42 := .plus (by decide) hdigits
  have hlead : ∀ c ∈ [' '], Text.isBlank c = true := List.all_eq_true.1 (by decide)
  have hgap : ∀ c ∈ [' ', ' '], Text.isBlank c = true := List.all_eq_true.1 (by decide)
  have hvalue : ComparesWith value .ge 42 :=
    ⟨by decide, [' '], [' ', ' '], "+0042".toList, by decide, hlead, hgap, hnumber⟩
  have hfield : "field[Score]" ∈ SearchField.structuredNames "Score" := by decide
  have hcompares := searcher.compares_number (by decide) (by decide) hfield hvalue
  obtain ⟨range, hcompiles, hrelates⟩ := hcompares.range (by decide) (by decide)
  have hname : Text.lower "Score" = "score" := by decide +kernel
  rw [hname] at hcompiles
  refine ⟨hvalue, hcompares, range, hcompiles, ?_, (hrelates 42).2 (by decide)⟩
  rw [Bool.eq_false_iff]
  intro hcontains
  exact absurd ((hrelates 41).1 hcontains) (by decide)

/-- All numbers of the field are less than this one, and an item with such a number is not found. The
    fields that count refuse the same value when it is read. -/
theorem great_number_is_word :
    let searcher : Searcher := ⟨⟨List.replicate 32 0, rfl⟩, .standard ⟨0, 0⟩⟩
    let mailbox := Mailbox.new searcher.account ""
    let value := "<9223372036854775808"
    let node : Node := .ofPredicate (.structured "score" value)
    let word : Operation := .index .structured (.term "score:<9223372036854775808") true
    ComparesWith value .lt 9223372036854775808 ∧ Comparator.lt.Relates 5 9223372036854775808 ∧
      searcher.node "#score" value = some (.ok node) ∧
      node.compile mailbox searcher.settings true = .ok word ∧
      (∀ name range truth, word ≠ .index .structured (.range name range) truth) ∧
      (∀ item : ItemFacts, item.numericFields = [("score", 5)] → item.terms = [] →
        word.selects item = false) ∧
      searcher.node "modseq" value = some (.error (.invalidLiteral .number value .notInteger)) := by
  intro searcher mailbox value node word
  have hdigits : ∀ c ∈ "9223372036854775808".toList, c.isDigit = true :=
    List.all_eq_true.1 (by decide)
  have hvalue : ComparesWith value .lt 9223372036854775808 :=
    ⟨by decide, [], [], "9223372036854775808".toList, by decide, nofun, nofun,
      .unsigned (by decide) hdigits⟩
  have hlower : Text.lower (Text.trim ("score" ++ ":" ++ Text.trim value)) =
      "score:<9223372036854775808" := by decide +kernel
  have hstar : '*' ∉ "score".toList := by decide
  have hcompiled := compileStructured_of_not_fits hstar hvalue (by decide) true
  rw [hlower] at hcompiled
  refine ⟨hvalue, by decide, by decide +kernel, ?_, ?_, ?_, by decide +kernel⟩
  · rw [Node.compile_ofPredicate]
    show compileStructured "score" value true = _
    rw [hcompiled]
  · intro name range truth
    simp [word]
  · intro item _ hterms
    simp [word, Operation.selects, ItemFacts.meetsQuery, hterms]

end Sift
