/-
  Sift.Proofs.Reread.Text — questions about words are read again as they are written.

  A reader looks at its value trimmed, and some keep it so: reading what is kept gives the same
  (`nonBlank_trim`). Others keep the value as it was put. `reads_ofTextField` and its like, one for
  each reader, say that what `Predicate.written` makes of a predicate is read as that predicate.
-/

import Sift.Proofs.Comparator
import Sift.Proofs.Outcome
import Sift.Proofs.Question
import Sift.Proofs.Wildcard

namespace Sift

/-! ## Fields under a name -/

/-- The two ways to write a field under a name. -/
def SearchField.structuredNames (name : String) : List String :=
  ["#" ++ name, "field[" ++ name ++ "]"]

theorem SearchField.ofName_structured {field name : String} (h : field ∈ structuredNames name) :
    ofName field = some (.structured name) := by
  rcases List.mem_pair.1 h with rfl | rfl
  · rw [ofName, String.toList_append]
    show some (SearchField.structured (String.ofList name.toList)) = _
    rw [String.ofList_toList]
  · rw [ofName, String.toList_append, String.toList_append]
    have hinner : structuredName ("field[".toList ++ name.toList ++ "]".toList) = some name.toList := by
      show (if (name.toList ++ [']']).getLast? = some ']' then some (name.toList ++ [']']).dropLast
        else none) = _
      rw [if_pos (by simp), List.dropLast_concat]
    rw [hinner]
    show some (SearchField.structured (String.ofList name.toList)) = _
    rw [String.ofList_toList]

namespace Predicate

/-! ## Values that are more than blanks -/

theorem nonBlank_trim (field value : String) :
    nonBlank field (Text.trim value) = nonBlank field value := by
  rw [nonBlank, Text.trim_trim, nonBlank]

theorem nonBlank_eq_ok_iff {field value trimmed : String} :
    nonBlank field value = .ok trimmed ↔
      trimmed = Text.trim value ∧ (Text.trim value).isEmpty = false := by
  simp only [nonBlank]
  split
  · next h => simp [h]
  · next h => simp [Bool.eq_false_iff.2 h, eq_comm]

/-- A reader that begins so goes on with the trimmed value. -/
theorem of_nonBlank {α : Type} {field value : String} {k : String → Except Fault α} {a : α}
    (h : (nonBlank field value >>= k) = .ok a) : k (Text.trim value) = .ok a := by
  obtain ⟨trimmed, htrim, hk⟩ := exists_of_bind h
  rwa [← (nonBlank_eq_ok_iff.1 htrim).1]

/-! ## Texts -/

theorem ofText_eq (field : TextField) (text : String) (quick : Bool) :
    ofText field text quick =
      if WellStarred text then .ok (.text field text quick)
      else .error (.misplacedWildcard text) := by
  by_cases hstars : WellStarred text
  · rw [if_pos hstars, ofText, splitWildcard_eq_ok_iff.2 ⟨hstars, rfl⟩]
    rfl
  · rw [if_neg hstars, ofText, splitWildcard_eq_error_iff.2 ⟨hstars, rfl⟩]
    rfl

theorem ofText_eq_ok {field : TextField} {text : String} {quick : Bool} {p : Predicate}
    (h : ofText field text quick = .ok p) : p = .text field text quick := by
  rw [ofText_eq] at h
  split at h
  · cases h
    rfl
  · cases h

theorem ofStringRange_eq_ok {column : StringColumn} {text : String} {p : Predicate}
    (h : ofStringRange column text = .ok p) :
    ∃ comparator value, p = .stringRange column comparator value ∧
      comparator.sign ++ value = Text.trim text := by
  unfold ofStringRange at h
  split at h
  · cases h
  · next comparator value htake =>
    split at h
    · cases h
    · cases h
      exact ⟨comparator, value, rfl, Comparator.sign_append_take htake⟩

theorem searchName_of_comparedColumn {field : TextField} {column : StringColumn}
    (h : comparedColumn field = some column) : column.searchName = field.searchName := by
  unfold comparedColumn at h
  split at h <;> cases h <;> rfl

theorem ofTextField_eq (field : TextField) (value : String) :
    ofTextField field value =
      if (Text.trim value).isEmpty then .error (.emptyValue field.searchName)
      else if field.isAddress && (Text.trim value).toList.head? == some '@' then
        .ok (.domain field (Text.trim value))
      else match comparedColumn field with
        | some column =>
          if startsComparison (Text.trim value) then ofStringRange column (Text.trim value)
          else ofText field value false
        | none => ofText field value false := by
  simp only [ofTextField, nonBlank]
  by_cases h : (Text.trim value).isEmpty = true
  · rw [if_pos h, if_pos h]
    rfl
  · rw [if_neg h, if_neg h]
    rfl

theorem startsComparison_of_head {text : String}
    (h : ∀ c ∈ text.toList.head?, c ≠ '<' ∧ c ≠ '>') : startsComparison text = false := by
  unfold startsComparison
  split
  · next c d cs htext =>
    obtain ⟨hlt, hgt⟩ := h c (by rw [htext]; rfl)
    simp [hlt, hgt]
  · rfl

/-- Where neither a domain nor a comparison begins, the value is words. -/
theorem ofTextField_of_head {field : TextField} {value : String}
    (hblank : (Text.trim value).isEmpty = false)
    (hhead : ∀ c ∈ (Text.trim value).toList.head?, c ∉ ['@', '<', '>']) :
    ofTextField field value = ofText field value false := by
  have hdomain : ((Text.trim value).toList.head? == some '@') = false := by
    rw [beq_eq_false_iff_ne]
    intro hat
    exact hhead '@' hat (by decide)
  have hcompared : startsComparison (Text.trim value) = false := by
    refine startsComparison_of_head fun c hc => ?_
    have hplain := hhead c hc
    simp only [List.mem_cons, not_or] at hplain
    exact ⟨hplain.2.1, hplain.2.2.1⟩
  rw [ofTextField_eq, hblank, hdomain, hcompared, Bool.and_false]
  cases comparedColumn field <;> rfl

/-- A question about words keeps the value; the others keep it trimmed, and are read from that. -/
theorem ofTextField_cases {field : TextField} {value : String} {p : Predicate}
    (h : ofTextField field value = .ok p) :
    p.written = (field.searchName, Text.quote value) ∨
      p.written = (field.searchName, Text.quote (Text.trim value)) ∧
        ofTextField field (Text.trim value) = .ok p := by
  have htext : ofText field value false = .ok p →
      p.written = (field.searchName, Text.quote value) := by
    intro h
    rw [ofText_eq_ok h]
    rfl
  rw [ofTextField_eq] at h
  rw [ofTextField_eq, Text.trim_trim]
  split at h
  · cases h
  next hempty =>
  rw [if_neg hempty]
  split at h
  · next hdomain =>
    rw [if_pos hdomain]
    cases h
    exact .inr ⟨rfl, rfl⟩
  next hdomain =>
  rw [if_neg hdomain]
  cases hcolumn : comparedColumn field with
  | none =>
    rw [hcolumn] at h
    exact .inl (htext h)
  | some column =>
    rw [hcolumn] at h
    by_cases hstarts : startsComparison (Text.trim value) = true
    · simp only [if_pos hstarts] at h ⊢
      obtain ⟨comparator, rest, rfl, hsign⟩ := ofStringRange_eq_ok h
      refine .inr ⟨?_, h⟩
      rw [written, hsign, Text.trim_trim, searchName_of_comparedColumn hcolumn]
    · simp only [if_neg hstarts] at h
      exact .inl (htext h)

theorem reads_ofTextField (searcher : Searcher) {field : TextField} {value : String} {p : Predicate}
    (hfield : (field.searchName, SearchField.text field) ∈ SearchField.named)
    (h : ofTextField field value = .ok p) : searcher.Reads p.written (.ofPredicate p) := by
  rcases ofTextField_cases h with hwritten | ⟨hwritten, htrim⟩
  · rw [hwritten]
    exact searcher.reads_predicate (.text field) (ofTextField field) hfield (fun _ => rfl)
      (Question.valueOf_quote value) h
  · rw [hwritten]
    exact searcher.reads_predicate (.text field) (ofTextField field) hfield (fun _ => rfl)
      (Question.valueOf_quote (Text.trim value)) htrim

theorem ofContact_eq_ok_iff {text : String} {p : Predicate} :
    ofContact text = .ok p ↔
      (Text.trim text).isEmpty = false ∧ WellStarred text ∧ p = .contact text := by
  constructor
  · intro h
    obtain ⟨trimmed, htrim, -⟩ := exists_of_bind h
    obtain ⟨split, hsplit, hk⟩ := exists_of_bind (of_nonBlank h)
    cases hk
    exact ⟨(nonBlank_eq_ok_iff.1 htrim).2, wellStarred_of_split hsplit, rfl⟩
  · rintro ⟨hblank, hstars, rfl⟩
    rw [ofContact, nonBlank_eq_ok_iff.2 ⟨rfl, hblank⟩, splitWildcard_eq_ok_iff.2 ⟨hstars, rfl⟩]
    rfl

theorem reads_ofContact (searcher : Searcher) {text : String} {p : Predicate}
    (h : ofContact text = .ok p) : searcher.Reads p.written (.ofPredicate p) := by
  obtain ⟨-, -, rfl⟩ := ofContact_eq_ok_iff.1 h
  exact searcher.reads_predicate .contact ofContact (SearchField.mem_named (by decide))
    (fun _ => rfl) (Question.valueOf_quote text) h

/-- The whole name stands between the number sign and the first colon. -/
theorem isFieldName_structured {name : String} (h : ':' ∉ name.toList) :
    IsFieldName ("#" ++ name) := by
  have hlist : ("#" ++ name).toList = '#' :: name.toList := by simp
  constructor <;> simp [hlist, h]

theorem ofStructured_eq_ok {name value : String} {p : Predicate}
    (h : ofStructured name value = .ok p) : p = .structured name value := by
  simp only [ofStructured] at h
  split at h
  · cases h
  · obtain ⟨split, -, hk⟩ := exists_of_bind (of_nonBlank h)
    cases hk
    rfl

theorem reads_ofStructured (searcher : Searcher) {name value : String} {p : Predicate}
    (hname : ':' ∉ name.toList) (h : ofStructured name value = .ok p) :
    searcher.Reads p.written (.ofPredicate p) := by
  have hp := ofStructured_eq_ok h
  subst hp
  refine ⟨isFieldName_structured hname, value, Question.valueOf_quoteAlways value, ?_⟩
  have hfield : SearchField.ofName ("#" ++ name) = some (.structured name) :=
    SearchField.ofName_structured List.mem_cons_self
  rw [written, Searcher.node, hfield, Option.map_some, SearchField.read, h]
  rfl

/-! ## Addresses -/

theorem reads_ofAddress (searcher : Searcher) {fields : AddressFields} {text : String}
    {p : Predicate} (hfield : (fields.searchName, SearchField.addresses fields) ∈ SearchField.named)
    (h : ofAddress fields text = .ok p) : searcher.Reads p.written (.ofPredicate p) := by
  obtain ⟨trimmed, htrim, hk⟩ := exists_of_bind h
  obtain ⟨split, hsplit, hp⟩ := exists_of_bind hk
  cases hp
  have hread : ofAddress fields (Text.trim text) = .ok (.address fields trimmed) := by
    rw [ofAddress, nonBlank_trim, htrim, splitWildcard_trim hsplit]
    rfl
  rw [(nonBlank_eq_ok_iff.1 htrim).1] at hread ⊢
  exact searcher.reads_predicate (.addresses fields) (ofAddress fields) hfield (fun _ => rfl)
    (Question.valueOf_quote (Text.trim text)) hread

end Predicate

end Sift
