/-
  Sift.Proofs.Write.Search — the text of a search says which search it is.

  A clause is told from one of another kind by how it begins (`IsQuestionText.ne_group`,
  `IsQuestionText.ne_word`, `group_ne_word`), and it is followed by a blank, a closing parenthesis or
  nothing. `Clause.write_inj` goes through two texts from left to right and finds the same clauses in
  both; the induction carries what follows the clause, so that the next one begins at the same place.

  Its hypothesis, that each leaf is written as a question, holds of what is read from a document:
  `answers_readSearch`. `write_unambiguous` puts the two together.
-/

import Sift.Proofs.Document.Spelling
import Sift.Proofs.Write.Node

namespace Sift

/-! ## The three kinds of clauses -/

section

variable {text : String} {rest : List Char}

theorem takeSign_group (modifier : Modifier) (inner : List Char) :
    Question.takeSign (modifier.sign.toList ++ '(' :: inner) = (modifier, '(' :: inner) :=
  Question.takeSign_sign modifier (by simp) (by simp)

theorem takeSign_word (c : Conjunction) (rest : List Char) :
    Question.takeSign (c.text.toList ++ rest) = (.plain, c.text.toList ++ rest) := by
  cases c <;> rfl

theorem IsQuestionText.takeSign (h : IsQuestionText text) (rest : List Char) :
    ∃ modifier field after, IsBareField field ∧
      Question.takeSign (text.toList ++ rest) = (modifier, field.toList ++ ':' :: after) := by
  cases h with
  | @intro modifier field value hfield _ =>
    refine ⟨modifier, field, value.toList ++ rest, hfield, ?_⟩
    rw [Question.toList_question, List.append_assoc, List.append_assoc, List.cons_append,
      Question.takeSign_field modifier hfield.toIsFieldName]

theorem IsBareField.head?_ne {field : String} (h : IsBareField field) {c : Char} (hc : c ≠ ':')
    (hquotes : Text.needsQuotes c = true) (rest : List Char) :
    (field.toList ++ ':' :: rest).head? ≠ some c := by
  refine Question.head?_field ?_ hc rest
  intro hhead
  have hbare := h.bare c (List.mem_of_head? hhead)
  rw [hquotes] at hbare
  cases hbare

theorem IsQuestionText.ne_group (h : IsQuestionText text) (modifier : Modifier)
    (rest inner : List Char) : text.toList ++ rest ≠ modifier.sign.toList ++ '(' :: inner := by
  intro heq
  obtain ⟨sign, field, value, hfield, htake⟩ := h.takeSign rest
  rw [heq, takeSign_group, Prod.mk.injEq] at htake
  refine hfield.head?_ne (c := '(') (by decide) (by decide) value ?_
  rw [← htake.2]
  rfl

/-- A question has a colon before anything that could end one of the words. -/
theorem IsQuestionText.ne_word (h : IsQuestionText text) (c : Conjunction) {after : List Char}
    (hafter : Text.Ends after) (rest : List Char) : text.toList ++ rest ≠ c.text.toList ++ after := by
  intro heq
  obtain ⟨sign, field, value, hfield, htake⟩ := h.takeSign rest
  rw [heq, takeSign_word, Prod.mk.injEq] at htake
  have hword : Text.IsBare c.text.toList ∧ ':' ∉ c.text.toList := by
    cases c <;> decide
  have hcolon : ':' ∈ c.text.toList := by
    rw [← (Text.takeWhile_bare hword.1 hafter).1, htake.2,
      List.takeWhile_append_of_pos hfield.bare.not_endsValue,
      List.takeWhile_cons_of_pos (by decide)]
    exact List.mem_append_right _ List.mem_cons_self
  exact hword.2 hcolon

theorem word_inj {c d : Conjunction} {after : List Char}
    (h : c.text.toList ++ rest = d.text.toList ++ after) : c = d ∧ rest = after := by
  cases c <;> cases d <;> simp_all [Conjunction.text]

theorem group_ne_word (modifier : Modifier) (c : Conjunction) (inner after : List Char) :
    modifier.sign.toList ++ '(' :: inner ≠ c.text.toList ++ after := by
  intro heq
  have htake := takeSign_group modifier inner
  rw [heq, takeSign_word, Prod.mk.injEq] at htake
  cases c <;> simp [Conjunction.text] at htake

end

/-! ## From where a clause begins -/

namespace Clause

/-- The text that follows a clause in a group, when these clauses come after it. -/
def textAfter : List Search → List Char → List Char
  | [], rest => ')' :: rest
  | clause :: clauses, rest => ' ' :: (clause.write.toList ++ textAfter clauses rest)

/-- The text from the opening parenthesis of a group on. -/
def textInside : List Search → List Char → List Char
  | [], rest => ')' :: rest
  | clause :: clauses, rest => clause.write.toList ++ textAfter clauses rest

theorem ends_textAfter (clauses : List Search) (rest : List Char) :
    Text.Ends (textAfter clauses rest) := by
  intro c hc
  cases clauses with
  | nil =>
    cases hc
    rfl
  | cons clause clauses =>
    cases hc
    rfl

theorem intercalate_writeEach (clauses : List Search) (rest : List Char) :
    (String.intercalate " " (writeEach clauses)).toList ++ ')' :: rest =
      textInside clauses rest := by
  rw [String.toList_intercalate]
  induction clauses with
  | nil => rfl
  | cons clause clauses ih =>
    cases clauses with
    | nil => simp [writeEach, textInside, textAfter]
    | cons next clauses =>
      rw [writeEach, writeEach, List.map_cons, List.map_cons, List.intercalate_cons_cons] at *
      rw [List.append_assoc, List.append_assoc, ih]
      rfl

theorem toList_write_group (modifier : Modifier) (clauses : List Search) (rest : List Char) :
    (write (group modifier clauses)).toList ++ rest =
      modifier.sign.toList ++ '(' :: textInside clauses rest := by
  rw [← intercalate_writeEach]
  simp [write]

/-- Every leaf is written as a question. -/
def IsLegible (clause : Search) : Prop := ∀ node ∈ clause.toList, IsQuestionText node.write

theorem head?_write_ne {clause : Search} (h : clause.IsLegible) (rest : List Char) :
    (clause.write.toList ++ rest).head? ≠ some ')' := by
  cases clause with
  | leaf node =>
    intro hhead
    obtain ⟨sign, field, after, hfield, htake⟩ := (h node List.mem_cons_self).takeSign rest
    rw [write] at hhead
    have hplain : Question.takeSign (node.write.toList ++ rest) =
        (.plain, node.write.toList ++ rest) :=
      Question.takeSign_plain (by simp [hhead]) (by simp [hhead])
    rw [hplain, Prod.mk.injEq] at htake
    exact hfield.head?_ne (by decide) (by decide) after (htake.2 ▸ hhead)
  | group modifier clauses =>
    rw [toList_write_group]
    cases modifier <;> simp [Modifier.sign]
  | conjunction c => cases c <;> simp [write, Conjunction.text]

theorem IsLegible.of_group {modifier : Modifier} {clauses : List Search}
    (h : IsLegible (group modifier clauses)) : ∀ clause ∈ clauses, IsLegible clause := by
  intro clause hmem node hnode
  refine h node ?_
  rw [toList, toListOf_eq_flatMap]
  exact List.mem_flatMap_of_mem hmem hnode

/-- A group that has clauses does not begin like one that has none. -/
theorem textAfter_of_textInside {clauses others : List Search} {rest after : List Char}
    (hclauses : ∀ clause ∈ clauses, IsLegible clause) (hothers : ∀ clause ∈ others, IsLegible clause)
    (h : textInside clauses rest = textInside others after) :
    textAfter clauses rest = textAfter others after := by
  cases clauses with
  | nil =>
    cases others with
    | nil => exact h
    | cons other others =>
      have hhead := head?_write_ne (hothers other List.mem_cons_self) (textAfter others after)
      rw [← textInside, ← h] at hhead
      exact absurd rfl hhead
  | cons clause clauses =>
    cases others with
    | nil =>
      have hhead := head?_write_ne (hclauses clause List.mem_cons_self) (textAfter clauses rest)
      rw [← textInside, h] at hhead
      exact absurd rfl hhead
    | cons other others => exact congrArg (' ' :: ·) h

/-! ## To the end of the search -/

mutual

theorem write_inj : (clause : Search) → clause.IsLegible → (other : Search) → other.IsLegible →
    ∀ {rest after : List Char}, Text.Ends rest → Text.Ends after →
    clause.write.toList ++ rest = other.write.toList ++ after →
    clause.map Node.write = other.map Node.write ∧ rest = after
  | leaf node, hclause, other, hother, rest, after, hrest, hafter, h => by
    have hnode := hclause node List.mem_cons_self
    rw [write] at h
    cases other with
    | leaf node' =>
      have hnode' := hother node' List.mem_cons_self
      have hskip := Question.skip_append hnode hrest
      rw [h, write, Question.skip_append hnode' hafter] at hskip
      obtain rfl := Option.some.inj hskip
      have htext : node.write = node'.write := String.toList_inj.1 (List.append_cancel_right h)
      exact ⟨by rw [map, map, htext], rfl⟩
    | group modifier others =>
      rw [toList_write_group] at h
      exact absurd h (hnode.ne_group modifier rest (textInside others after))
    | conjunction c => exact absurd h (hnode.ne_word c hafter rest)
  | group modifier clauses, hclause, other, hother, rest, after, hrest, hafter, h => by
    rw [toList_write_group] at h
    cases other with
    | leaf node' =>
      exact absurd h.symm ((hother node' List.mem_cons_self).ne_group modifier after
        (textInside clauses rest))
    | group modifier' others =>
      rw [toList_write_group] at h
      have htake := takeSign_group modifier (textInside clauses rest)
      rw [h, takeSign_group, Prod.mk.injEq, List.cons.injEq] at htake
      obtain ⟨rfl, -, hinside⟩ := htake
      have hafter' := textAfter_of_textInside hclause.of_group hother.of_group hinside.symm
      obtain ⟨hmap, hrest'⟩ := textAfter_inj clauses hclause.of_group others hother.of_group hafter'
      exact ⟨by rw [map, map, hmap], hrest'⟩
    | conjunction c => exact absurd h (group_ne_word modifier c (textInside clauses rest) after)
  | conjunction c, _, other, hother, rest, after, hrest, hafter, h => by
    rw [write] at h
    cases other with
    | leaf node' =>
      exact absurd h.symm ((hother node' List.mem_cons_self).ne_word c hrest after)
    | group modifier others =>
      rw [toList_write_group] at h
      exact absurd h.symm (group_ne_word modifier c (textInside others after) rest)
    | conjunction c' =>
      obtain ⟨rfl, hrest'⟩ := word_inj h
      exact ⟨rfl, hrest'⟩

theorem textAfter_inj : (clauses : List Search) → (∀ clause ∈ clauses, IsLegible clause) →
    (others : List Search) → (∀ clause ∈ others, IsLegible clause) → ∀ {rest after : List Char},
    textAfter clauses rest = textAfter others after →
    mapEach Node.write clauses = mapEach Node.write others ∧ rest = after
  | [], _, [], _, _, _, h => ⟨rfl, List.tail_eq_of_cons_eq h⟩
  | [], _, _ :: _, _, _, _, h => absurd (List.head_eq_of_cons_eq h) (by decide)
  | _ :: _, _, [], _, _, _, h => absurd (List.head_eq_of_cons_eq h) (by decide)
  | clause :: clauses, hclauses, other :: others, hothers, rest, after, h => by
    obtain ⟨hclause, hclauses⟩ := List.forall_mem_cons.1 hclauses
    obtain ⟨hother, hothers⟩ := List.forall_mem_cons.1 hothers
    obtain ⟨hmap, hafter⟩ := write_inj clause hclause other hother
      (ends_textAfter clauses rest) (ends_textAfter others after) (List.tail_eq_of_cons_eq h)
    obtain ⟨hmaps, hrest⟩ := textAfter_inj clauses hclauses others hothers hafter
    exact ⟨by rw [mapEach, mapEach, hmap, hmaps], hrest⟩

end

end Clause

/-! ## Searches that are read -/

namespace Document

/-- The leaves of a search that is read are the answers to its questions. -/
theorem answers_readSearch {searcher : Searcher} {tree : JsonTree} {search : Search}
    (h : readSearch searcher tree = .ok search) :
    ∀ node ∈ search.toList, ∃ question, answerQuestion searcher question = .ok node := by
  obtain ⟨questions, -, hanswers⟩ := exists_saysSearch_of_readSearch h
  intro node hnode
  obtain ⟨question, -, hquestion⟩ := hanswers.exists_question hnode
  exact ⟨question, answerQuestion_eq_ok_iff.2 hquestion⟩

end Document

/-- A node that a field makes has no name, unless it is a built-in question. -/
theorem SearchField.builtin_of_read {searcher : Searcher} {field : SearchField} {value : String}
    {node : Node} (h : field.read searcher value = .ok node) {name : String}
    (hname : node.builtin = some name) : ∃ builtin ∈ Builtin.all, builtin.name = name := by
  cases field with
  | builtin =>
    rw [read] at h
    obtain ⟨builtin, hmem, rfl⟩ := mem_all_of_read h
    exact ⟨builtin, hmem, Option.some.inj hname⟩
  | _ =>
    rw [read] at h
    obtain ⟨p, -, rfl⟩ := exists_of_map h
    cases hname

namespace Document

theorem builtin_of_answerQuestion {searcher : Searcher} {question : Question} {node : Node}
    (h : answerQuestion searcher question = .ok node) {name : String}
    (hname : node.builtin = some name) : ∃ builtin ∈ Builtin.all, builtin.name = name := by
  unfold answerQuestion at h
  split at h
  · next answer hnode =>
    cases h
    obtain ⟨read, hread, hmap⟩ := Option.map_eq_some_iff.1 hnode
    obtain ⟨found, rfl, rfl⟩ := exists_of_map hmap
    obtain ⟨field, -, hfield⟩ := Option.map_eq_some_iff.1 hread
    exact SearchField.builtin_of_read hfield hname
  · cases h
  · cases h

/-- The names of a search's structured fields are plain. -/
def HasPlainNames (search : Search) : Prop := ∀ node ∈ search.toList, node.predicate.IsPlain

theorem isLegible_of_readSearch {searcher : Searcher} {tree : JsonTree} {search : Search}
    (h : readSearch searcher tree = .ok search) (hplain : HasPlainNames search) :
    search.IsLegible := by
  intro node hnode
  obtain ⟨question, hanswer⟩ := answers_readSearch h node hnode
  exact Node.isQuestionText_write (hplain node hnode) fun _ => builtin_of_answerQuestion hanswer

/-- Two searches that are written alike have the same groups with the same signs and the same words
    in the same places, and each question of one is written like its counterpart in the other. -/
theorem write_unambiguous {searcher searcher' : Searcher} {tree tree' : JsonTree}
    {search search' : Search} (hread : readSearch searcher tree = .ok search)
    (hread' : readSearch searcher' tree' = .ok search') (hplain : HasPlainNames search)
    (hplain' : HasPlainNames search') (h : search.write = search'.write) :
    search.map Node.write = search'.map Node.write := by
  have hends : Text.Ends [] := fun _ hc => nomatch hc
  exact (Clause.write_inj search (isLegible_of_readSearch hread hplain) search'
    (isLegible_of_readSearch hread' hplain') hends hends (by rw [h])).1

theorem scope_and_builtin_unambiguous :
    let searcher : Searcher := ⟨⟨List.replicate 32 0, rfl⟩, .standard ⟨0, 0⟩⟩
    let note : Node := .ofPredicate (.structured "note" ") OR (\"is:local")
    let scope : Node := .ofPredicate (.folder (.locality .own) false)
    let tree := JsonTree.array [.object [("#note", .string ") OR (\"is:local")], .string "Or",
      .object [("exclude", .array [.object [("scope", .string "LOCAL")]])]]
    let tree' := JsonTree.array [.object [("field[note]", .string ") OR (\"is:local")], .string "or",
      .object [("exclude", .array [.object [("is", .string "local")]])]]
    let search : Search :=
      .group .plain [.leaf note, .conjunction .or, .group .exclude [.leaf scope]]
    let search' : Search := .group .plain
      [.leaf note, .conjunction .or, .group .exclude [.leaf { scope with builtin := some "local" }]]
    readSearch searcher tree = .ok search ∧ readSearch searcher tree' = .ok search' ∧
      HasPlainNames search ∧ HasPlainNames search' ∧ search.write = search'.write ∧
      search.map Node.write = search'.map Node.write := by
  intro searcher note scope tree tree' search search'
  have hread : readSearch searcher tree = .ok search := by rfl
  have hread' : readSearch searcher tree' = .ok search' := by rfl
  have hnote : IsPlainName "note" := by decide +kernel
  have hplain : HasPlainNames search :=
    List.forall_mem_cons.2 ⟨hnote, List.forall_mem_singleton.2 trivial⟩
  have hplain' : HasPlainNames search' :=
    List.forall_mem_cons.2 ⟨hnote, List.forall_mem_singleton.2 trivial⟩
  have h : search.write = search'.write := by decide +kernel
  exact ⟨hread, hread', hplain, hplain', h, write_unambiguous hread hread' hplain hplain' h⟩

end Document

end Sift
