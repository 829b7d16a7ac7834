/-
  Sift.Proofs.Reread.Word — questions whose values are words from a table or literals are read again
  as they are written.

  A word is kept in lower case and as the table gives it; both leave it as it is a second time
  (`contentType_spec`). A literal is kept beside its text, trimmed, which means the same literal.
-/

import Sift.Proofs.Reread.Text
import Sift.Proofs.Text.Lower

namespace Sift

namespace Predicate

/-! ## Tags -/

theorem ofTagName_trim (name : String) : ofTagName (Text.trim name) = ofTagName name := by
  rw [ofTagName, nonBlank_trim, ofTagName]

/-- The names of the flags, and the two words for priorities. -/
theorem flag_words :
    (∀ flag ∈ Flag.all, ofTagName flag.name = .ok (.tag (.flag flag))) ∧
    ofPriority "high" = .ok (.tag (.flag .urgent)) ∧
    ofPriority "low" = .ok (.tag (.flag .bulk)) := by
  decide +kernel

/-- Every flag is written as a question that asks for it, by its name or as a priority. -/
theorem reads_flag (searcher : Searcher) (flag : Flag) :
    searcher.Reads (TagTarget.flag flag).written (.ofPredicate (.tag (.flag flag))) := by
  have hbare : flag.name.toList.head? ≠ some '"' := by cases flag <;> decide
  cases flag with
  | urgent =>
    exact searcher.reads_predicate .priority ofPriority (SearchField.mem_named (by decide))
      (fun _ => rfl) (Question.valueOf_bare (by decide)) flag_words.2.1
  | bulk =>
    exact searcher.reads_predicate .priority ofPriority (SearchField.mem_named (by decide))
      (fun _ => rfl) (Question.valueOf_bare (by decide)) flag_words.2.2
  | _ =>
    exact searcher.reads_predicate .tag ofTagName (SearchField.mem_named (by decide))
      (fun _ => rfl) (Question.valueOf_bare hbare) (flag_words.1 _ (by decide))

theorem ofTagName_cases {name : String} {p : Predicate} (h : ofTagName name = .ok p) :
    (∃ flag, p = .tag (.flag flag)) ∨ p = .tag (.named (Text.trim name)) := by
  have hk := of_nonBlank h
  split at hk
  · split at hk
    · next flag _ =>
      cases hk
      exact .inl ⟨flag, rfl⟩
    · cases hk
      exact .inr rfl
  · cases hk
    exact .inr rfl

theorem reads_ofTagName (searcher : Searcher) {name : String} {p : Predicate}
    (h : ofTagName name = .ok p) : searcher.Reads p.written (.ofPredicate p) := by
  rcases ofTagName_cases h with ⟨flag, rfl⟩ | rfl
  · exact reads_flag searcher flag
  · rw [← ofTagName_trim] at h
    exact searcher.reads_predicate .tag ofTagName (SearchField.mem_named (by decide))
      (fun _ => rfl) (Question.valueOf_quote (Text.trim name)) h

theorem reads_ofPriority (searcher : Searcher) {value : String} {p : Predicate}
    (h : ofPriority value = .ok p) : searcher.Reads p.written (.ofPredicate p) := by
  unfold ofPriority at h
  split at h
  · cases h
    exact reads_flag searcher .urgent
  · cases h
    exact reads_flag searcher .bulk
  · cases h

/-! ## Terms -/

/-- A text in the form in which the tables are looked up. -/
def IsWord (word : String) : Prop := Text.lower (Text.trim word) = word

theorem isWord_lower_trim (value : String) : IsWord (Text.lower (Text.trim value)) :=
  Text.lower_trim_lower_trim value

/-- The content types that the table gives, and the one that every attachment has. -/
def contentTypes : List String :=
  ["any", "application", "image/bmp", "image/gif", "image", "image/jpeg", "application/vnd.ms-excel",
    "application/vnd.ms-powerpoint", "application/ms-tnef", "application/msword", "application/pdf",
    "text"]

theorem contentType_cases (word : String) :
    contentType word = word ∨ contentType word ∈ contentTypes := by
  unfold contentType
  split
  all_goals first | exact .inl rfl | exact .inr (by decide)

theorem contentTypes_spec : ∀ type ∈ contentTypes,
    Text.lower (Text.trim type) = type ∧ contentType type = type ∧ type.isEmpty = false := by
  decide +kernel

/-- No content type of the table means another one. -/
theorem contentType_spec {word : String} (hword : IsWord word) (hempty : word.isEmpty = false) :
    IsWord (contentType word) ∧ contentType (contentType word) = contentType word ∧
      (contentType word).isEmpty = false := by
  rcases contentType_cases word with h | h
  · rw [h]
    exact ⟨hword, h, hempty⟩
  · exact contentTypes_spec _ h

theorem ofContentType_of_isWord (field : TextField) {word : String} (hword : IsWord word)
    (hempty : word.isEmpty = false) :
    ofContentType field word = .ok (.term field (contentType word)) := by
  unfold IsWord at hword
  simp only [ofContentType]
  rw [hword, if_neg (by rw [hempty]; decide)]

theorem reads_ofContentType (searcher : Searcher) {field : TextField} {value : String}
    {p : Predicate}
    (hfield : (field.searchName, SearchField.contentType field) ∈ SearchField.named)
    (h : ofContentType field value = .ok p) : searcher.Reads p.written (.ofPredicate p) := by
  simp only [ofContentType] at h
  split at h
  · cases h
  next hempty =>
  cases h
  obtain ⟨hword, hagain, hmore⟩ :=
    contentType_spec (isWord_lower_trim value) (Bool.eq_false_iff.2 hempty)
  have hread := ofContentType_of_isWord field hword hmore
  rw [hagain] at hread
  exact searcher.reads_predicate (.contentType field) (ofContentType field) hfield (fun _ => rfl)
    (Question.valueOf_quote _) hread

theorem ofContentType_any : ofContentType .attachments "any" = .ok (.term .attachments "any") := by
  obtain ⟨hword, hsame, hempty⟩ := contentTypes_spec "any" List.mem_cons_self
  rw [ofContentType_of_isWord .attachments hword hempty, hsame]

/-- Anything attached is written as the content type that every attachment has. -/
theorem reads_ofObject (searcher : Searcher) {value : String} {p : Predicate}
    (h : ofObject value = .ok p) : searcher.Reads p.written (.ofPredicate p) := by
  have hagain : ofObject (Text.lower (Text.trim value)) = .ok p := by
    rw [← h, ofObject, Text.lower_trim_lower_trim, ofObject]
  have hany : searcher.Reads (Predicate.term .attachments "any").written
      (.ofPredicate (.term .attachments "any")) :=
    searcher.reads_predicate (.contentType .attachments) (ofContentType .attachments)
      (SearchField.mem_named (by decide)) (fun _ => rfl) (Question.valueOf_quote "any")
      ofContentType_any
  unfold ofObject at h
  split at h
  · cases h
  · cases h
    exact hany
  · cases h
    exact hany
  · cases h
    exact searcher.reads_predicate .object ofObject (SearchField.mem_named (by decide))
      (fun _ => rfl) (Question.valueOf_quote _) hagain

/-! ## Literals -/

theorem ofDate_trim (settings : Settings) (field : DateField) (text : String) :
    ofDate settings field (Text.trim text) = ofDate settings field text := by
  rw [ofDate, nonBlank_trim, ofDate]

theorem ofDate_eq_ok {settings : Settings} {field : DateField} {text : String} {p : Predicate}
    (h : ofDate settings field text = .ok p) :
    ∃ literal, p = .date field (Text.trim text) literal := by
  obtain ⟨literal, -, hk⟩ := exists_of_bind (of_nonBlank h)
  refine ⟨literal, ?_⟩
  split at hk
  · cases hk
  · cases hk
    rfl

theorem reads_ofDate (searcher : Searcher) {field : DateField} {text : String} {p : Predicate}
    (hfield : (field.searchName, SearchField.date field) ∈ SearchField.named)
    (h : ofDate searcher.settings field text = .ok p) :
    searcher.Reads p.written (.ofPredicate p) := by
  obtain ⟨literal, rfl⟩ := ofDate_eq_ok h
  rw [← ofDate_trim] at h
  exact searcher.reads_predicate (.date field) (ofDate searcher.settings field) hfield
    (fun _ => rfl) (Question.valueOf_quote (Text.trim text)) h

theorem ofSize_trim (field : SizeField) (text : String) :
    ofSize field (Text.trim text) = ofSize field text := by
  rw [ofSize, nonBlank_trim, ofSize]

theorem reads_ofSize (searcher : Searcher) {field : SizeField} {text : String} {p : Predicate}
    (hfield : (field.searchName, SearchField.size field) ∈ SearchField.named)
    (h : ofSize field text = .ok p) : searcher.Reads p.written (.ofPredicate p) := by
  obtain ⟨literal, -, hk⟩ := exists_of_bind (of_nonBlank h)
  cases hk
  rw [← ofSize_trim] at h
  exact searcher.reads_predicate (.size field) (ofSize field) hfield (fun _ => rfl)
    (Question.valueOf_quote (Text.trim text)) h

theorem ofCount_trim (field : CountField) (text : String) :
    ofCount field (Text.trim text) = ofCount field text := by
  rw [ofCount, nonBlank_trim, ofCount]

theorem reads_ofCount (searcher : Searcher) {field : CountField} {text : String} {p : Predicate}
    (hfield : (field.searchName, SearchField.count field) ∈ SearchField.named)
    (h : ofCount field text = .ok p) : searcher.Reads p.written (.ofPredicate p) := by
  obtain ⟨literal, -, hk⟩ := exists_of_bind (of_nonBlank h)
  cases hk
  rw [← ofCount_trim] at h
  exact searcher.reads_predicate (.count field) (ofCount field) hfield (fun _ => rfl)
    (Question.valueOf_quote (Text.trim text)) h

end Predicate

end Sift
