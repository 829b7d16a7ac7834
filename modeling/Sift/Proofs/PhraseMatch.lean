/-
  Sift.Proofs.PhraseMatch — which documents a text query selects.

  A document is the list of its words, and a text stands in it at a shift if every word that is
  searched stands as far on as its position says (`StandsAt`). The three shapes of a query count from
  the first word that is kept instead, and are tried at every index of the document.

  - `selects_text_iff`: a text that asks for something is compiled to an operation that selects an
    item exactly if the text stands somewhere in the item's words; in particular, an item is selected
    if it has all the words of the text in a row (`Spells`), whatever comes before and after.
-/

import Sift.Operation.Facts
import Sift.Phrase
import Sift.Proofs.Tokens
import Sift.Proofs.Wildcard

namespace Sift

/-! ## Where a text stands -/

/-- The word at an index, which may lie outside of the document. -/
def wordAt (words : List String) (index : Int) : Option String :=
  if 0 ≤ index then words[index.toNat]? else none

/-- The last word of all has been begun at its place in the document, and the words before it that
    are kept stand at theirs. -/
def BegunAt (field : TextField) (body : String) (words : List String) (shift : Int) : Prop :=
  ∃ last, (allTokens field body).getLast? = some last ∧
    (∀ t ∈ tokens field body, t.position < last.position →
      wordAt words (shift + t.position) = some t.term) ∧
    ∃ word, wordAt words (shift + last.position) = some word ∧
      last.term.toList <+: word.toList

/-- Every word that is kept stands at its place in the document. -/
def WrittenAt (field : TextField) (body : String) (words : List String) (shift : Int) : Prop :=
  ∀ t ∈ tokens field body, wordAt words (shift + t.position) = some t.term

def StandsAt (field : TextField) (split : WildcardSplit) (quick : Bool) (words : List String)
    (shift : Int) : Prop :=
  if split.wildcard || quick then BegunAt field split.body words shift
  else WrittenAt field split.body words shift

/-- The words of the text, stop words included; the last may go on if it is only begun. -/
def Spells (field : TextField) (split : WildcardSplit) (quick : Bool) (block : List String) : Prop :=
  if split.wildcard || quick then
    ∃ leading last word, (allTokens field split.body).map (·.term) = leading ++ [last] ∧
      block = leading ++ [word] ∧ last.toList <+: word.toList
  else block = (allTokens field split.body).map (·.term)

/-! ## Indices -/

@[simp] theorem wordAt_natCast (words : List String) (i : Nat) : wordAt words i = words[i]? := by
  simp [wordAt]

theorem wordAt_bounds {words : List String} {index : Int} {word : String}
    (h : wordAt words index = some word) : 0 ≤ index ∧ index < words.length := by
  unfold wordAt at h
  split at h
  · obtain ⟨hlt, -⟩ := List.getElem?_eq_some_iff.1 h
    omega
  · cases h

/-- To try every index as the place of a position is to try every shift, if a shift puts the position
    inside the document. -/
theorem exists_start_iff (words : List String) (start : Nat) {P : Int → Prop}
    (h : ∀ shift, P shift → ∃ word, wordAt words (shift + start) = some word) :
    (∃ i < words.length, P ((i : Int) - start)) ↔ ∃ shift, P shift := by
  constructor
  · rintro ⟨i, -, hi⟩
    exact ⟨_, hi⟩
  · rintro ⟨shift, hs⟩
    obtain ⟨word, hw⟩ := h shift hs
    obtain ⟨hlow, hhigh⟩ := wordAt_bounds hw
    refine ⟨(shift + start).toNat, by omega, ?_⟩
    have : ((shift + start).toNat : Int) - start = shift := by omega
    rwa [this]

/-- A position counted from an earlier one. -/
theorem wordAt_rebased (words : List String) {i start position : Nat} (h : start ≤ position) :
    wordAt words ((i : Int) - start + position) = words[i + (position - start)]? := by
  have : (i : Int) - start + position = ((i + (position - start) : Nat) : Int) := by omega
  rw [this, wordAt_natCast]

theorem phraseAt_termsFrom {words : List String} {i start : Nat} {ts : List Token}
    (h : ∀ t ∈ ts, start ≤ t.position) :
    ItemFacts.phraseAt words i (PhraseShape.termsFrom start ts) = true ↔
      ∀ t ∈ ts, wordAt words ((i : Int) - start + t.position) = some t.term := by
  unfold ItemFacts.phraseAt PhraseShape.termsFrom
  rw [List.all_map, List.all_eq_true]
  refine forall_congr' fun t => forall_congr' fun ht => ?_
  simp [wordAt_rebased words (h t ht)]

/-! ## The shapes -/

/-- Whether the words of a document answer the query of a shape, if it has one. -/
def PhraseShape.foundIn (words : List String) : PhraseShape → Bool
  | empty => true
  | term t => ItemFacts.answers words (.term t)
  | phrase terms => ItemFacts.answers words (.phrase terms)
  | stem leading last => ItemFacts.answers words (.stem leading last)

theorem selects_operation {item : ItemFacts} {field : TextField} {words : List String}
    (h : item.terms.lookup field = some words) (shape : PhraseShape) :
    (shape.operation field true).selects item = shape.foundIn words := by
  cases shape <;>
    simp [PhraseShape.operation, PhraseShape.foundIn, Operation.selects, ItemFacts.meetsQuery, h]

/-- A shape that asks for something selects an item only if something is known about the field. -/
theorem selects_operation_iff {item : ItemFacts} {field : TextField} {shape : PhraseShape}
    (h : shape ≠ .empty) : (shape.operation field true).selects item = true ↔
      ∃ words, item.terms.lookup field = some words ∧ shape.foundIn words = true := by
  cases hterms : item.terms.lookup field with
  | some words =>
    rw [selects_operation hterms]
    simp
  | none =>
    cases shape with
    | empty => exact absurd rfl h
    | _ => simp [PhraseShape.operation, Operation.selects, ItemFacts.meetsQuery, hterms]

theorem foundIn_term_iff {words : List String} {t : Token} :
    (PhraseShape.term t.term).foundIn words = true ↔
      ∃ shift, wordAt words (shift + t.position) = some t.term := by
  rw [← exists_start_iff words t.position fun shift hs => ⟨_, hs⟩]
  simp only [Int.sub_add_cancel, wordAt_natCast]
  rw [PhraseShape.foundIn, ItemFacts.answers, List.contains_iff_mem, List.mem_iff_getElem?]
  constructor
  · rintro ⟨i, hi⟩
    exact ⟨i, (List.getElem?_eq_some_iff.1 hi).1, hi⟩
  · rintro ⟨i, -, hi⟩
    exact ⟨i, hi⟩

theorem foundIn_ofWords_iff {field : TextField} {body : String}
    (h : PhraseShape.ofWords field body ≠ .empty) (words : List String) :
    (PhraseShape.ofWords field body).foundIn words = true ↔
      ∃ shift, WrittenAt field body words shift := by
  unfold WrittenAt
  rcases ht : tokens field body with _ | ⟨t, _ | ⟨t', ts⟩⟩
  · simp [PhraseShape.ofWords, ht] at h
  · rw [PhraseShape.ofWords, ht]
    simpa using foundIn_term_iff
  · have hle : ∀ u ∈ t :: t' :: ts, t.position ≤ u.position := by
      rw [← ht]
      exact fun u hu => head_position_le (pairwise_tokens field body) (by rw [ht]; rfl) hu
    rw [← exists_start_iff words t.position fun shift hs => ⟨_, hs t List.mem_cons_self⟩]
    rw [PhraseShape.ofWords, ht]
    simp only [PhraseShape.foundIn, ItemFacts.answers]
    rw [Bool.and_eq_true, List.any_eq_true]
    simp only [List.mem_range, phraseAt_termsFrom hle]
    simp [PhraseShape.termsFrom]

/-- The words that are kept and come before the last of all. -/
def tokensBefore (field : TextField) (body : String) (last : Token) : List Token :=
  (tokens field body).filter fun t => t.position < last.position

theorem mem_tokensBefore {field : TextField} {body : String} {last t : Token} :
    t ∈ tokensBefore field body last ↔ t ∈ tokens field body ∧ t.position < last.position := by
  simp [tokensBefore]

/-- The position that a begun phrase counts from: that of its first word. -/
def stemStart (field : TextField) (body : String) (last : Token) : Nat :=
  ((tokensBefore field body last).head?.map (·.position)).getD last.position

theorem ofStem_eq {field : TextField} {body : String} {last : Token}
    (h : (allTokens field body).getLast? = some last) :
    PhraseShape.ofStem field body =
      .stem (PhraseShape.termsFrom (stemStart field body last) (tokensBefore field body last))
        ⟨last.position - stemStart field body last, last.term⟩ := by
  rw [PhraseShape.ofStem, h]
  rfl

/-- It is the position of one of the words. -/
theorem stemStart_mem (field : TextField) (body : String) (last : Token) :
    stemStart field body last = last.position ∨
      ∃ t ∈ tokensBefore field body last, stemStart field body last = t.position := by
  unfold stemStart
  cases tokensBefore field body last with
  | nil => exact .inl rfl
  | cons first rest => exact .inr ⟨first, List.mem_cons_self, rfl⟩

/-- No word comes before it. -/
theorem stemStart_le (field : TextField) (body : String) (last : Token) :
    (∀ t ∈ tokensBefore field body last, stemStart field body last ≤ t.position) ∧
      stemStart field body last ≤ last.position := by
  have hp : (tokensBefore field body last).Pairwise (·.position < ·.position) :=
    (pairwise_tokens field body).filter _
  have hl : ∀ t ∈ tokensBefore field body last, t.position < last.position :=
    fun t ht => (mem_tokensBefore.1 ht).2
  unfold stemStart
  cases hb : tokensBefore field body last with
  | nil => exact ⟨by simp, Nat.le_refl _⟩
  | cons first rest =>
    rw [hb] at hp hl
    refine ⟨fun t ht => head_position_le hp rfl ht, ?_⟩
    exact Nat.le_of_lt (hl first List.mem_cons_self)

theorem stemAt_iff {words : List String} {i start : Nat} {last : Token}
    (h : start ≤ last.position) :
    ItemFacts.stemAt words i ⟨last.position - start, last.term⟩ = true ↔
      ∃ word, wordAt words ((i : Int) - start + last.position) = some word ∧
        last.term.toList <+: word.toList := by
  rw [wordAt_rebased words h, ItemFacts.stemAt, Option.any_eq_true]
  simp only [List.isPrefixOf_iff_prefix]

theorem foundIn_ofStem_iff {field : TextField} {body : String}
    (h : PhraseShape.ofStem field body ≠ .empty) (words : List String) :
    (PhraseShape.ofStem field body).foundIn words = true ↔
      ∃ shift, BegunAt field body words shift := by
  unfold BegunAt
  cases hlast : (allTokens field body).getLast? with
  | none => simp [PhraseShape.ofStem, hlast] at h
  | some last =>
    obtain ⟨hlead, hle⟩ := stemStart_le field body last
    simp only [Option.some.injEq, exists_eq_left']
    rw [← exists_start_iff words (stemStart field body last), ofStem_eq hlast]
    · simp only [PhraseShape.foundIn, ItemFacts.answers, List.any_eq_true, List.mem_range,
        Bool.and_eq_true, phraseAt_termsFrom hlead, stemAt_iff hle, mem_tokensBefore, and_imp]
    · rintro shift ⟨hwords, word, hword, -⟩
      rcases stemStart_mem field body last with hs | ⟨t, ht, hs⟩
      · exact ⟨word, by rw [hs]; exact hword⟩
      · obtain ⟨htok, hlt⟩ := mem_tokensBefore.1 ht
        exact ⟨t.term, by rw [hs]; exact hwords t htok hlt⟩

/-! ## All the words in a row -/

/-- The word that the block has in the place of a word of the text. -/
theorem wordAt_block {before block after : List String} {word : String} {i : Nat}
    (h : block[i]? = some word) :
    wordAt (before ++ block ++ after) ((before.length : Int) - 1 + (i + 1 : Nat)) = some word := by
  have hi : i < block.length := (List.getElem?_eq_some_iff.1 h).1
  have : (before.length : Int) - 1 + (i + 1 : Nat) = ((before.length + i : Nat) : Int) := by omega
  rw [this, wordAt_natCast, List.getElem?_append_left (by simp; omega),
    List.getElem?_append_right (by omega), Nat.add_sub_cancel_left, h]

/-- A word that is kept is one of all the words, and its position is one more than its index. -/
theorem exists_index {field : TextField} {body : String} {t : Token} (h : t ∈ tokens field body) :
    ∃ i, (allTokens field body)[i]? = some t ∧ t.position = i + 1 := by
  obtain ⟨i, hi⟩ := List.mem_iff_getElem?.1 ((tokens_sublist field body).subset h)
  exact ⟨i, hi, position_of_getElem? hi⟩

theorem writtenAt_of_block {field : TextField} {body : String} (before after : List String) :
    WrittenAt field body (before ++ (allTokens field body).map (·.term) ++ after)
      ((before.length : Int) - 1) := by
  intro t ht
  obtain ⟨i, hi, hposition⟩ := exists_index ht
  rw [hposition]
  exact wordAt_block (by simp [hi])

theorem begunAt_of_block {field : TextField} {body : String} {leading : List String}
    {stem word : String} (h : (allTokens field body).map (·.term) = leading ++ [stem])
    (hword : stem.toList <+: word.toList) (before after : List String) :
    BegunAt field body (before ++ (leading ++ [word]) ++ after) ((before.length : Int) - 1) := by
  obtain ⟨ts, last, hall, hleading, hstem⟩ : ∃ ts last, allTokens field body = ts ++ [last] ∧
      ts.map (·.term) = leading ∧ last.term = stem := by
    obtain ⟨ts, rest, hall, hts, hrest⟩ := List.map_eq_append_iff.1 h
    obtain ⟨last, rfl, hlast⟩ := List.map_eq_singleton_iff.1 hrest
    exact ⟨ts, last, hall, hts, hlast⟩
  subst hleading hstem
  have hindex : (allTokens field body)[ts.length]? = some last := by simp [hall]
  have hposition : last.position = ts.length + 1 := position_of_getElem? hindex
  refine ⟨last, by simp [hall], fun t ht hlt => ?_, word, ?_, hword⟩
  · obtain ⟨i, hi, hti⟩ := exists_index ht
    have his : i < ts.length := by omega
    rw [hall, List.getElem?_append_left his] at hi
    rw [hti]
    exact wordAt_block (by rw [List.getElem?_append_left (by simpa using his)]; simp [hi])
  · rw [hposition]
    exact wordAt_block (by simp)

/-! ## Texts -/

theorem ofText_of_split {field : TextField} {text : String} {quick : Bool} {split : WildcardSplit}
    (h : splitWildcard text = .ok split) :
    PhraseShape.ofText field text quick = .ok
      (if split.wildcard || quick then .ofStem field split.body else .ofWords field split.body) := by
  rw [PhraseShape.ofText, h]
  rfl

theorem foundIn_text_iff {field : TextField} {text : String} {quick : Bool} {split : WildcardSplit}
    {shape : PhraseShape} (hs : splitWildcard text = .ok split)
    (hshape : PhraseShape.ofText field text quick = .ok shape) (hne : shape ≠ .empty)
    (words : List String) :
    shape.foundIn words = true ↔ ∃ shift, StandsAt field split quick words shift := by
  rw [ofText_of_split hs] at hshape
  cases hshape
  unfold StandsAt
  split at hne <;> rename_i hb
  · simp only [hb, if_true]
    exact foundIn_ofStem_iff hne words
  · simp only [hb]
    exact foundIn_ofWords_iff hne words

theorem standsAt_of_spells {field : TextField} {split : WildcardSplit} {quick : Bool}
    {block : List String} (h : Spells field split quick block) (before after : List String) :
    StandsAt field split quick (before ++ block ++ after) ((before.length : Int) - 1) := by
  unfold Spells at h
  unfold StandsAt
  split at h <;> rename_i hb
  · rw [if_pos hb]
    obtain ⟨leading, stem, word, hall, rfl, hword⟩ := h
    exact begunAt_of_block hall hword before after
  · rw [if_neg hb, h]
    exact writtenAt_of_block before after

/-- A text whose stars stand at the end always has a shape. If the shape asks for something, its
    operation selects the items in whose words the text stands somewhere; all the words of the text
    in a row are enough for that. -/
theorem selects_text_iff (field : TextField) {text : String} {split : WildcardSplit}
    (hs : splitWildcard text = .ok split) (quick : Bool) :
    ∃ shape, PhraseShape.ofText field text quick = .ok shape ∧ (shape ≠ .empty →
      ∀ (item : ItemFacts) (words : List String), item.terms.lookup field = some words →
        ((shape.operation field true).selects item = true ↔
          ∃ shift, StandsAt field split quick words shift) ∧
        ∀ before block after, Spells field split quick block → words = before ++ block ++ after →
          (shape.operation field true).selects item = true) := by
  refine ⟨_, ofText_of_split hs, fun hne item words hterms => ?_⟩
  have hiff := foundIn_text_iff hs (ofText_of_split hs) hne words
  rw [selects_operation hterms]
  refine ⟨hiff, ?_⟩
  rintro before block after hb rfl
  exact hiff.2 ⟨_, standsAt_of_spells hb before after⟩

theorem begun_appointment_selected :
    let text := "Dinner at the app*"
    let split : WildcardSplit := ⟨"Dinner at the app", true⟩
    let shape := PhraseShape.stem [⟨0, "dinner"⟩] ⟨3, "app"⟩
    let words := ["no", "dinner", "at", "the", "appointment", "today"]
    let item : ItemFacts := ⟨none, none, none, none, [], [], none, none, none, none, none,
      [(.content, words)], []⟩
    splitWildcard text = .ok split ∧ PhraseShape.ofText .content text false = .ok shape ∧
      shape ≠ .empty ∧ item.terms.lookup .content = some words ∧
      Spells .content split false ["dinner", "at", "the", "appointment"] ∧
      (shape.operation .content true).selects item = true := by
  intro text split shape words item
  have hs : splitWildcard text = .ok split := by decide +kernel
  have hshape : PhraseShape.ofText .content text false = .ok shape := by decide +kernel
  have hne : shape ≠ .empty := by simp [shape]
  have hterms : item.terms.lookup .content = some words := rfl
  have hspells : Spells .content split false ["dinner", "at", "the", "appointment"] :=
    ⟨["dinner", "at", "the"], "app", "appointment", by decide +kernel, rfl, by decide⟩
  obtain ⟨found, hfound, h⟩ := selects_text_iff .content hs false
  obtain rfl : shape = found := Except.ok.inj (hshape.symm.trans hfound)
  exact ⟨hs, hshape, hne, hterms, hspells, (h hne item words hterms).2 ["no"] _ ["today"] hspells rfl⟩

end Sift
