/-
  Sift.Proofs.Reread.DefaultField — a text for the default field, when it is written and read again.

  A text that is searched without a field asks for its words in the default field, whichever that is,
  and is written under the name of the field. For fourteen of the fields the name stands for the same
  kind of question. For four it stands for another: a single word is the beginning of a contact; the
  values of attachments, types and objects are whole words, which a star does not shorten and some of
  which mean another. The field of the structured values has a name that is no search field at all.

  - `Searcher.standard_rereads`: so the text is read again as it was meant if the default field keeps it
    (`TextField.KeepsText`), and otherwise as a question that compiles to something else for every
    mailbox, or as none.
  - `contact_begun`: a contact `john` that becomes the beginning of one.
-/

import Sift.Proofs.Contact
import Sift.Proofs.Reread.Node
import Sift.Proofs.Star

namespace Sift

/-! ## Questions under the name of the default field -/

/-- Whether a text that is searched in the field asks the same under the name of the field. -/
def TextField.KeepsText (value : String) : TextField → Prop
  | .contact => hasWildcard value = true ∨ (tokens .contact value).length ≠ 1
  | .attachments | .type =>
    hasWildcard value = false ∧
      Predicate.contentType (Text.lower (Text.trim value)) = Text.lower (Text.trim value)
  | .objects =>
    hasWildcard value = false ∧ Text.lower (Text.trim value) ∉ ["attachment", "att"]
  | .structured => False
  | _ => True

namespace Predicate

variable {value : String} {p : Predicate}

theorem ofObject_eq_ok (h : (Text.trim value).isEmpty = false) :
    ofObject value = .ok (if Text.lower (Text.trim value) ∈ ["attachment", "att"] then
      .term .attachments "any" else .term .objects (Text.lower (Text.trim value))) := by
  have hempty : (Text.lower (Text.trim value)).isEmpty = false := by rw [Text.isEmpty_lower, h]
  unfold ofObject
  split
  · next hword =>
    rw [hword] at hempty
    cases hempty
  · next hword => rw [hword, if_pos (by decide)]
  · next hword => rw [hword, if_pos (by decide)]
  · next hattachment hatt =>
    rw [if_neg]
    intro hmem
    rcases List.mem_pair.1 hmem with hword | hword
    · exact hattachment hword
    · exact hatt hword

/-- The default field takes a text as one of words, where its name is that of another question. -/
theorem ofTextField_eq_text {field : TextField}
    (hfield : field ∈ [TextField.contact, .attachments, .type, .objects, .structured])
    (h : ofTextField field value = .ok p) : p = .text field value false := by
  have hother : field.isAddress = false ∧ comparedColumn field = none := by
    revert hfield
    cases field <;> decide
  rw [ofTextField_eq, hother.1, hother.2] at h
  split at h
  · cases h
  · exact ofText_eq_ok h

theorem trim_ne_empty_of_ofTextField {field : TextField} (h : ofTextField field value = .ok p) :
    (Text.trim value).isEmpty = false := by
  obtain ⟨trimmed, htrim, -⟩ := exists_of_bind h
  exact (nonBlank_eq_ok_iff.1 htrim).2

end Predicate

/-! ## Questions that are read again -/

/-- What is written is read as a node again, and both can be compiled. They agree for all mailboxes and
    both answers if they are alike, and otherwise for none. -/
def Searcher.RereadsIff (searcher : Searcher) (node : Node) (alike : Prop) : Prop :=
  ∃ question reread, Question.ofText node.write = some question ∧
    question.node searcher = some (.ok reread) ∧
    ∀ mailbox requested,
      (∃ operation, node.compile mailbox searcher.settings requested = .ok operation) ∧
      (reread.compile mailbox searcher.settings requested =
        node.compile mailbox searcher.settings requested ↔ alike)

theorem Searcher.Reads.rereadsIff {searcher : Searcher} {value : String} {p q : Predicate}
    {alike : Prop} (h : searcher.Reads p.written (.ofPredicate q)) (hp : TextQuestion value p)
    (hcompile : ∀ mailbox truth, q.compile mailbox searcher.settings truth =
      p.compile mailbox searcher.settings truth ↔ alike) :
    searcher.RereadsIff (.ofPredicate p) alike := by
  obtain ⟨question, htext, hquestion⟩ := h.question .plain
  exact ⟨question, _, htext, hquestion, fun mailbox requested => ⟨hp.compiles, hcompile mailbox _⟩⟩

namespace Searcher

variable (searcher : Searcher) {value : String}

theorem rereadsIff_contact (hstars : WellStarred value) (hblank : (Text.trim value).isEmpty = false) :
    searcher.RereadsIff (.ofPredicate (.text .contact value false))
      (TextField.contact.KeepsText value) := by
  have hread : Predicate.ofContact value = .ok (.contact value) :=
    Predicate.ofContact_eq_ok_iff.2 ⟨hblank, hstars, rfl⟩
  have hreads := Predicate.reads_ofContact searcher hread
  exact Reads.rereadsIff (p := .text .contact value false) hreads (.text .contact hstars)
    fun _ truth => compileContact_eq_iff hstars truth

theorem rereadsIff_contentType {field : TextField} (hfield : field = .attachments ∨ field = .type)
    (hstars : WellStarred value) (hblank : (Text.trim value).isEmpty = false) :
    searcher.RereadsIff (.ofPredicate (.text field value false)) (field.KeepsText value) := by
  have hnamed : (field.searchName, SearchField.contentType field) ∈ SearchField.named := by
    rcases hfield with rfl | rfl <;> decide +kernel
  have hwhole : field.analysis = .whole := by
    rcases hfield with rfl | rfl <;> rfl
  have hkeeps : field.KeepsText value ↔ hasWildcard value = false ∧
      Predicate.contentType (Text.lower (Text.trim value)) = Text.lower (Text.trim value) := by
    rcases hfield with rfl | rfl <;> exact Iff.rfl
  have hread : Predicate.ofContentType field value =
      .ok (.term field (Predicate.contentType (Text.lower (Text.trim value)))) := by
    simp only [Predicate.ofContentType]
    rw [if_neg (by simp [Text.isEmpty_lower, hblank])]
  have hreads := searcher.reads_predicate (.contentType field) (Predicate.ofContentType field) hnamed
    (fun _ => rfl) (Question.valueOf_quote value) hread
  refine Reads.rereadsIff (p := .text field value false) hreads (.text field hstars)
    fun _ truth => ?_
  rw [hkeeps]
  refine (compileText_eq_term_iff hwhole hstars hblank truth).trans ?_
  rw [and_iff_right rfl]

theorem rereadsIff_object (hstars : WellStarred value) (hblank : (Text.trim value).isEmpty = false) :
    searcher.RereadsIff (.ofPredicate (.text .objects value false))
      (TextField.objects.KeepsText value) := by
  have hreads := searcher.reads_predicate .object Predicate.ofObject
    (SearchField.mem_named (by decide)) (fun _ => rfl) (Question.valueOf_quote value)
    (Predicate.ofObject_eq_ok hblank)
  refine Reads.rereadsIff (p := .text .objects value false) hreads (.text .objects hstars)
    fun _ truth => ?_
  by_cases hany : Text.lower (Text.trim value) ∈ ["attachment", "att"]
  · rw [if_pos hany]
    refine (compileText_eq_term_iff rfl hstars hblank truth).trans ?_
    simp [TextField.KeepsText, hany]
  · rw [if_neg hany]
    refine (compileText_eq_term_iff rfl hstars hblank truth).trans ?_
    simp [TextField.KeepsText, hany]

end Searcher

/-- How a text for the default field is read again, once it is written. -/
structure Searcher.StandardRereads (searcher : Searcher) (value : String) (node : Node) : Prop where
  /-- What the field of structured values is called is no search field. -/
  unnamed : searcher.settings.defaultField = .structured →
    ∃ question, Question.ofText node.write = some question ∧ question.node searcher = none
  named : searcher.settings.defaultField ≠ .structured →
    searcher.RereadsIff node (searcher.settings.defaultField.KeepsText value)

theorem Searcher.unread_structured (searcher : Searcher) (value : String) :
    ∃ question, Question.ofText (Node.ofPredicate (.text .structured value false)).write =
      some question ∧ question.node searcher = none := by
  have hname : IsFieldName "field" := by decide
  have hnone : SearchField.ofName "field" = none := by decide +kernel
  refine ⟨⟨.plain, "field", value⟩,
    Question.ofText_written .plain hname (Question.valueOf_quote value), ?_⟩
  simp only [Question.node, Searcher.node, hnone, Option.map_none]

/-- Every value that the default field takes, whichever field that is. -/
theorem Searcher.standard_rereads (searcher : Searcher) {value : String} {node : Node}
    (h : searcher.node "text" value = some (.ok node)) : searcher.StandardRereads value node := by
  have hfield : SearchField.ofName "text" = some .standard := by decide +kernel
  rw [Searcher.node, hfield, Option.map_some, Option.some.injEq, SearchField.read] at h
  obtain ⟨p, hp, rfl⟩ := exists_of_map h
  by_cases hplain : searcher.settings.defaultField ∉
      [TextField.contact, .attachments, .type, .objects, .structured]
  · have hreads := Predicate.reads_ofTextField searcher (SearchField.text_mem_named hplain) hp
    have hkeeps : searcher.settings.defaultField.KeepsText value := by
      revert hplain
      cases searcher.settings.defaultField <;> simp [TextField.KeepsText]
    refine ⟨fun hdefault => absurd hdefault (by rintro h; simp [h] at hplain), fun _ => ?_⟩
    exact hreads.rereadsIff (.ofTextField hp) fun _ _ => iff_of_true rfl hkeeps
  have hspecial := not_not.1 hplain
  have hblank := Predicate.trim_ne_empty_of_ofTextField hp
  have hquestion := TextQuestion.ofTextField hp
  rw [Predicate.ofTextField_eq_text hspecial hp] at hquestion ⊢
  cases hquestion with
  | text _ hstars =>
    constructor
    · intro hdefault
      rw [hdefault]
      exact searcher.unread_structured value
    · intro hdefault
      simp only [List.mem_cons, List.not_mem_nil, or_false] at hspecial
      rcases hspecial with h | h | h | h | h
      · rw [h]
        exact searcher.rereadsIff_contact hstars hblank
      · exact searcher.rereadsIff_contentType (.inl h) hstars hblank
      · exact searcher.rereadsIff_contentType (.inr h) hstars hblank
      · rw [h]
        exact searcher.rereadsIff_object hstars hblank
      · exact absurd h hdefault

/-- A word for objects is the same in either case and without the blank after it. -/
theorem object_kept :
    let searcher : Searcher :=
      ⟨⟨List.replicate 32 0, rfl⟩, { Settings.standard ⟨0, 0⟩ with defaultField := .objects }⟩
    let node : Node := .ofPredicate (.text .objects "Phone " false)
    searcher.node "text" "Phone " = some (.ok node) ∧
      TextField.objects.KeepsText "Phone " ∧
      ∃ question reread, Question.ofText node.write = some question ∧
        question.node searcher = some (.ok reread) ∧
        ∀ mailbox requested, reread.compile mailbox searcher.settings requested =
          node.compile mailbox searcher.settings requested := by
  intro searcher node
  have hnode : searcher.node "text" "Phone " = some (.ok node) := by decide +kernel
  have hkeeps : TextField.objects.KeepsText "Phone " := by
    refine ⟨?_, ?_⟩ <;> decide +kernel
  obtain ⟨question, reread, htext, hquestion, hcompile⟩ :=
    (searcher.standard_rereads hnode).named (by decide)
  exact ⟨hnode, hkeeps, question, reread, htext, hquestion,
    fun mailbox requested => (hcompile mailbox requested).2.2 hkeeps⟩

/-- The word itself is searched first, and any word that begins with it the second time. -/
theorem contact_begun :
    let searcher : Searcher :=
      ⟨⟨List.replicate 32 0, rfl⟩, { Settings.standard ⟨0, 0⟩ with defaultField := .contact }⟩
    let node : Node := .ofPredicate (.text .contact "john" false)
    let question : Question := ⟨.plain, "contact", "john"⟩
    let reread : Node := .ofPredicate (.contact "john")
    searcher.node "text" "john" = some (.ok node) ∧ Question.ofText node.write = some question ∧
      question.node searcher = some (.ok reread) ∧
      ∀ mailbox settings,
        node.compile mailbox settings true = .ok (.index .contact (.term "john") true) ∧
        reread.compile mailbox settings true =
          .ok (.index .contact (.stem [] ⟨0, "john"⟩) true) := by
  intro searcher node question reread
  have hword : PhraseShape.ofText .contact "john" false = .ok (.term "john") := by decide +kernel
  have hbegun : PhraseShape.ofText .contact "john" true = .ok (.stem [] ⟨0, "john"⟩) := by
    decide +kernel
  have hsplit : splitWildcard "john" = .ok ⟨"john", false⟩ := by decide +kernel
  have hstem : isContactStem ⟨"john", false⟩ = true := by decide +kernel
  refine ⟨by decide +kernel, by decide +kernel, by decide +kernel, fun _ _ => ⟨?_, ?_⟩⟩
  · show compileText .contact "john" false true = _
    rw [compileText, hword]
    rfl
  · show compileContact "john" true = _
    rw [compileContact, hsplit]
    show compileText .contact "john" (isContactStem ⟨"john", false⟩) true = _
    rw [hstem, compileText, hbegun]
    rfl

end Sift
