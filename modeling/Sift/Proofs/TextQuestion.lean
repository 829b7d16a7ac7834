/-
  Sift.Proofs.TextQuestion — the ways from the value of a text search to a question.

  A value is searched as it is, as a contact, in several address fields, as a domain, or it compares
  with a column. The first three look for misplaced stars on the way, the last two do not.
-/

import Sift.Proofs.Reread.Text

namespace Sift

/-- The questions that the value of a text search can become. -/
inductive TextQuestion (value : String) : Predicate → Prop
  | text (field : TextField) : WellStarred value → TextQuestion value (.text field value false)
  | contact : WellStarred value → TextQuestion value (.contact value)
  | address (fields : AddressFields) :
      WellStarred value → TextQuestion value (.address fields (Text.trim value))
  | domain (field : TextField) :
      startsDomain (Text.trim value) = true → TextQuestion value (.domain field (Text.trim value))
  | comparison (column : StringColumn) (comparator : Comparator) (rest : String) :
      TextQuestion value (.stringRange column comparator rest)

namespace TextQuestion

variable {value : String} {p : Predicate}

theorem ofTextField {field : TextField} (h : Predicate.ofTextField field value = .ok p) :
    TextQuestion value p := by
  have htext : Predicate.ofText field value false = .ok p → TextQuestion value p := by
    intro h
    obtain ⟨split, hsplit, hk⟩ := exists_of_bind h
    cases hk
    exact .text field (wellStarred_of_split hsplit)
  rw [Predicate.ofTextField_eq] at h
  split at h
  · cases h
  split at h
  · next hdomain =>
    cases h
    refine .domain field ?_
    simp only [Bool.and_eq_true] at hdomain
    exact hdomain.2
  split at h
  · split at h
    · obtain ⟨comparator, rest, rfl, -⟩ := Predicate.ofStringRange_eq_ok h
      exact .comparison _ comparator rest
    · exact htext h
  · exact htext h

theorem ofContact (h : Predicate.ofContact value = .ok p) : TextQuestion value p := by
  obtain ⟨-, hstars, rfl⟩ := Predicate.ofContact_eq_ok_iff.1 h
  exact .contact hstars

theorem ofAddress {fields : AddressFields} (h : Predicate.ofAddress fields value = .ok p) :
    TextQuestion value p := by
  obtain ⟨trimmed, htrim, hk⟩ := exists_of_bind h
  obtain ⟨split, hsplit, hp⟩ := exists_of_bind hk
  cases hp
  rw [(Predicate.nonBlank_eq_ok_iff.1 htrim).1]
  exact .address fields (wellStarred_of_split hsplit)

end TextQuestion

end Sift
