/-
  Sift.Proofs.Tokens — the words of a text and their positions.

  - `position_of_getElem?`: the words are numbered from 1, in their order.
  - `tokens_sublist`: leaving stop words out keeps the order and the numbers of the others.
  - `pairwise_allTokens` / `pairwise_tokens`: so positions ascend.
  - `exists_word_of_mem` / `Analysis.mem_of_mem_split`: a term is the lower case of a word, and a word
    is made of characters of the text.
  - `tokens_trim` / `tokens_whole`: addresses and whole values have their words between the blanks
    around them, and a whole value is one word.
-/

import Sift.Analysis
import Sift.Proofs.Text.Word

namespace Sift

variable {field : TextField} {text : String}

theorem getElem?_allTokens (field : TextField) (text : String) (i : Nat) :
    (allTokens field text)[i]? =
      (field.analysis.split text)[i]?.map fun word => ⟨Text.lower word, i + 1⟩ := by
  simp [allTokens, numberTokens, List.getElem?_zipIdx, Function.comp_def, Token.lower, Nat.add_comm]

theorem position_of_getElem? {i : Nat} {t : Token} (h : (allTokens field text)[i]? = some t) :
    t.position = i + 1 := by
  rw [getElem?_allTokens] at h
  obtain ⟨word, -, rfl⟩ := Option.map_eq_some_iff.1 h
  rfl

theorem tokens_sublist (field : TextField) (text : String) :
    (tokens field text).Sublist (allTokens field text) := by
  unfold tokens dropStopWords
  split
  · exact List.filter_sublist
  · exact .refl _
  · exact .refl _

theorem pairwise_allTokens (field : TextField) (text : String) :
    (allTokens field text).Pairwise (·.position < ·.position) := by
  rw [List.pairwise_iff_getElem]
  intro i j hi hj hij
  rw [position_of_getElem? (List.getElem?_eq_getElem hi),
    position_of_getElem? (List.getElem?_eq_getElem hj)]
  omega

theorem pairwise_tokens (field : TextField) (text : String) :
    (tokens field text).Pairwise (·.position < ·.position) :=
  (pairwise_allTokens field text).sublist (tokens_sublist field text)

/-- The first of some words in ascending order has the least position. -/
theorem head_position_le {ts : List Token} {t first : Token}
    (hp : ts.Pairwise (·.position < ·.position)) (hf : ts.head? = some first) (ht : t ∈ ts) :
    first.position ≤ t.position := by
  cases ts with
  | nil => cases hf
  | cons a as =>
    cases hf
    rcases List.mem_cons.1 ht with rfl | ht
    · exact Nat.le_refl _
    · exact Nat.le_of_lt ((List.pairwise_cons.1 hp).1 t ht)

/-! ## Words -/

theorem exists_word_of_mem {t : Token} (h : t ∈ allTokens field text) :
    ∃ word ∈ field.analysis.split text, t.term = Text.lower word := by
  obtain ⟨i, hi⟩ := List.mem_iff_getElem?.1 h
  rw [getElem?_allTokens] at hi
  obtain ⟨word, hword, rfl⟩ := Option.map_eq_some_iff.1 hi
  exact ⟨word, List.mem_of_getElem? hword, rfl⟩

theorem Analysis.mem_of_mem_split {analysis : Analysis} {word : String} {c : Char}
    (h : word ∈ analysis.split text) (hc : c ∈ word.toList) : c ∈ text.toList := by
  cases analysis with
  | words => exact Text.mem_of_mem_words h hc
  | addresses => exact Text.mem_of_mem_addressWords h hc
  | whole =>
    simp only [split, wholeWord] at h
    split at h
    · cases h
    · rw [List.mem_singleton.1 h, Text.toList_trim] at hc
      exact Text.mem_of_mem_dropAround hc

/-! ## Fields that are not cut at the boundaries of words -/

theorem Analysis.split_trim {analysis : Analysis} (h : analysis ≠ .words) (text : String) :
    analysis.split (Text.trim text) = analysis.split text := by
  cases analysis with
  | words => exact absurd rfl h
  | addresses => exact Text.addressWords_trim text
  | whole => simp only [split, wholeWord, Text.trim_trim]

/-- No stop words are left out of them. -/
theorem tokens_eq_allTokens (h : field.analysis ≠ .words) (text : String) :
    tokens field text = allTokens field text := by
  unfold tokens
  split
  · next hwords => exact absurd hwords h
  · rfl
  · rfl

theorem tokens_trim (h : field.analysis ≠ .words) (text : String) :
    tokens field (Text.trim text) = tokens field text := by
  rw [tokens_eq_allTokens h, tokens_eq_allTokens h, allTokens, Analysis.split_trim h, allTokens]

theorem tokens_trimEnd (h : field.analysis ≠ .words) (text : String) :
    tokens field (Text.trimEnd text) = tokens field text := by
  rw [← tokens_trim h (Text.trimEnd text), Text.trim_trimEnd, tokens_trim h]

theorem tokens_whole (h : field.analysis = .whole) (hblank : (Text.trim text).isEmpty = false) :
    tokens field text = [⟨Text.lower (Text.trim text), 1⟩] := by
  rw [tokens_eq_allTokens (by simp [h]), allTokens, h]
  simp [Analysis.split, wholeWord, hblank, numberTokens, Token.lower]

end Sift
