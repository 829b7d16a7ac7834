/-
  Sift.Proofs.Reread.Quick — a quick search, when it is written and read again.

  What is written says nothing of a flag. A quick search is written with a star in its place: after the
  blanks at the end are cut off, and only if no star stands there already (`starred`).

  - `ofText_starred`: the starred text has the shape without the flag that the text has with it.
  - `Searcher.quick_rereads`: so a quick search is read again as a question that compiles to the same,
    unless the field takes what it begins with for a domain or a comparison.
-/

import Sift.Proofs.BegunWord
import Sift.Proofs.Reread.Node

namespace Sift

variable {text : String}

/-! ## The starred text -/

theorem hasWildcard_of_getLast? (h : (Text.trimEnd text).toList.getLast? = some '*') :
    hasWildcard text = true := by
  by_contra hstar
  -- Then no star is taken off the text, so it does not end in one.
  have hbody : wildcardBody text = (Text.trimEnd text).toList := by
    rw [← ofList_wildcardBody (Bool.not_eq_true _ ▸ hstar), String.toList_ofList]
  have hlast := Text.getLast?_dropTrailing (· == '*') (Text.dropTrailing Text.isBlank text.toList)
  rw [← wildcardBody, hbody, h] at hlast
  exact absurd (hlast '*' rfl) (by decide)

/-- The star is put, or the text has one. -/
theorem starred_cases (text : String) :
    starred text true = Text.trimEnd text ++ "*" ∨
      starred text true = text ∧ hasWildcard text = true := by
  rw [starred]
  split
  · exact .inl rfl
  · next h => exact .inr ⟨rfl, hasWildcard_of_getLast? (by simpa using h)⟩

theorem wildcardBody_starred (text : String) :
    wildcardBody (starred text true) = wildcardBody text := by
  rcases starred_cases text with h | ⟨h, -⟩
  · rw [h]
    exact wildcardBody_trimEnd_stars text 0
  · rw [h]

theorem ofText_starred (h : WellStarred text) (field : TextField) :
    PhraseShape.ofText field (starred text true) false = PhraseShape.ofText field text true := by
  rcases starred_cases text with hput | ⟨hsame, hstar⟩
  · rw [hput, ofText_trimEnd_star h]
  · rw [hsame, ofText_begun h (by rw [hstar]; rfl), ofText_begun h (Bool.or_true _)]

theorem trim_trimEnd_star (text : String) :
    Text.trim (Text.trimEnd text ++ "*") = Text.trim text ++ "*" := by
  obtain ⟨lead, hlead, htext⟩ := Text.exists_dropTrailing_eq Text.isBlank text.toList
  have hstar : Text.trimEnd text ++ "*" =
      String.ofList (lead ++ ((Text.trim text).toList ++ ['*'])) := by
    rw [String.ext_iff, String.toList_append, Text.toList_trimEnd, htext, ← Text.toList_trim,
      List.append_assoc]
    exact String.toList_ofList.symm
  rw [hstar, Text.trim_lead hlead, Text.trim, String.toList_ofList,
    Text.dropAround_append_cons (Text.trimmed_trim text).head (by decide)]
  rw [String.ext_iff, String.toList_ofList, String.toList_append]
  rfl

/-- A star is all that the starred text can begin with and the text does not. -/
theorem head?_trim_starred {c : Char} (h : c ∈ (Text.trim (starred text true)).toList.head?) :
    c ∈ (Text.trim text).toList.head? ∨ c = '*' := by
  rcases starred_cases text with hput | ⟨hsame, -⟩
  · rw [hput, trim_trimEnd_star, String.toList_append, List.head?_append] at h
    cases hhead : (Text.trim text).toList.head? with
    | none =>
      rw [hhead] at h
      exact .inr (Option.some.inj h).symm
    | some first =>
      rw [hhead] at h
      exact .inl h
  · rw [hsame] at h
    exact .inl h

theorem isEmpty_trim_starred (text : String) : (Text.trim (starred text true)).isEmpty = false := by
  have hmem : '*' ∈ (starred text true).toList := by
    rcases starred_cases text with hput | ⟨hsame, hstar⟩
    · rw [hput, String.toList_append]
      exact List.mem_append_right _ (List.mem_singleton_self '*')
    · rw [hsame]
      by_contra hnone
      rw [hasWildcard_of_starless hnone] at hstar
      cases hstar
  exact Text.isEmpty_trim_of_mem hmem (by decide)

/-! ## Quick searches -/

variable {field : TextField}

theorem ofTextField_starred (h : WellStarred text)
    (hhead : ∀ c ∈ (Text.trim text).toList.head?, c ∉ ['@', '<', '>']) :
    Predicate.ofTextField field (starred text true) =
      .ok (.text field (starred text true) false) := by
  have hstars : WellStarred (starred text true) := by
    rw [WellStarred, wildcardBody_starred]
    exact h
  have hplain : ∀ c ∈ (Text.trim (starred text true)).toList.head?, c ∉ ['@', '<', '>'] := by
    intro c hc
    rcases head?_trim_starred hc with hc | rfl
    · exact hhead c hc
    · decide
  rw [Predicate.ofTextField_of_head (isEmpty_trim_starred text) hplain, Predicate.ofText_eq,
    if_pos hstars]

theorem Searcher.rereads_quick (searcher : Searcher)
    (hfield : field ∉ [TextField.contact, .attachments, .type, .objects, .structured])
    (h : WellStarred text) (hhead : ∀ c ∈ (Text.trim text).toList.head?, c ∉ ['@', '<', '>']) :
    searcher.Rereads (.text field text true) := by
  have hreads : searcher.Reads (field.searchName, Text.quote (starred text true))
      (.ofPredicate (.text field (starred text true) false)) :=
    searcher.reads_predicate (.text field) (Predicate.ofTextField field)
      (SearchField.text_mem_named hfield) (fun _ => rfl) (Question.valueOf_quote _)
      (ofTextField_starred h hhead)
  refine ⟨_, hreads, rfl, fun mailbox settings truth => ?_⟩
  show compileText field (starred text true) false truth = compileText field text true truth
  rw [compileText, compileText, ofText_starred h]

/-- What a quick search is written as is read as a question that compiles to the same, whatever the
    mailbox. -/
theorem Searcher.quick_rereads (searcher : Searcher) (field : TextField) {text : String}
    {split : WildcardSplit} (h : splitWildcard text = .ok split) :
    (∃ shape, PhraseShape.ofText field text true = .ok shape ∧
      PhraseShape.ofText field (Text.trimEnd text ++ "*") false = .ok shape) ∧
    (field ∉ [TextField.contact, .attachments, .type, .objects, .structured] →
      (∀ c ∈ (Text.trim text).toList.head?, c ∉ ['@', '<', '>']) →
      ∃ p question node, Predicate.ofText field text true = .ok p ∧
        Question.ofText p.write = some question ∧ question.node searcher = some (.ok node) ∧
        ∀ mailbox settings requested, ∃ operation,
          p.compile mailbox settings requested = .ok operation ∧
          node.compile mailbox settings requested = .ok operation) := by
  have hstars := wellStarred_of_split h
  refine ⟨⟨_, ofText_of_split h, ?_⟩, fun hfield hhead => ?_⟩
  · rw [ofText_trimEnd_star hstars, ofText_of_split h]
  · obtain ⟨node, hreads, hpositive, hcompile⟩ := searcher.rereads_quick hfield hstars hhead
    obtain ⟨question, hquestion, hnode⟩ := hreads.question .plain
    refine ⟨.text field text true, question, _, ?_, hquestion, hnode, ?_⟩
    · rw [Predicate.ofText_eq, if_pos hstars]
    · intro mailbox settings requested
      have htruth : Node.effectiveTruth { node with modifier := .plain } requested = requested := by
        rw [Node.effectiveTruth, hpositive]
        exact beq_true requested
      refine ⟨_, compileText_eq_ok hstars field true requested, ?_⟩
      rw [Node.compile, htruth, hcompile]
      exact compileText_eq_ok hstars field true requested

/-- Blanks at the end go, and the star comes where they were. -/
theorem quick_report_rereads :
    let searcher : Searcher := ⟨⟨List.replicate 32 0, rfl⟩, .standard ⟨0, 0⟩⟩
    let text := " annual rep\u2003 "
    let question : Question := ⟨.plain, "subject", " annual rep*"⟩
    splitWildcard text = .ok ⟨" annual rep", false⟩ ∧
      TextField.subject ∉ [TextField.contact, .attachments, .type, .objects, .structured] ∧
      (∀ c ∈ (Text.trim text).toList.head?, c ∉ ['@', '<', '>']) ∧
      PhraseShape.ofText .subject text true = PhraseShape.ofText .subject " annual rep*" false ∧
      Question.ofText (Predicate.text .subject text true).write = some question ∧
      ∃ node, question.node searcher = some (.ok node) ∧
        ∀ mailbox settings requested, ∃ operation,
          (Predicate.text .subject text true).compile mailbox settings requested = .ok operation ∧
          node.compile mailbox settings requested = .ok operation := by
  intro searcher text question
  have hsplit : splitWildcard text = .ok ⟨" annual rep", false⟩ := by decide +kernel
  have hfield : TextField.subject ∉
      [TextField.contact, .attachments, .type, .objects, .structured] := by decide
  have hhead : ∀ c ∈ (Text.trim text).toList.head?, c ∉ ['@', '<', '>'] := by
    have hfirst : (Text.trim text).toList.head? = some 'a' := by decide +kernel
    intro c hc
    rw [hfirst] at hc
    cases hc
    decide
  have htrim : Text.trimEnd text ++ "*" = " annual rep*" := by decide +kernel
  have hquestion : Question.ofText (Predicate.text .subject text true).write = some question := by
    decide +kernel
  obtain ⟨⟨shape, hquick, hstar⟩, hrereads⟩ := searcher.quick_rereads .subject hsplit
  obtain ⟨p, read, node, hp, hread, hnode, hsame⟩ := hrereads hfield hhead
  obtain rfl := Predicate.ofText_eq_ok hp
  obtain rfl : question = read := Option.some.inj (hquestion.symm.trans hread)
  rw [htrim] at hstar
  exact ⟨hsplit, hfield, hhead, hquick.trans hstar.symm, hquestion, node, hnode, hsame⟩

end Sift
