/-
  Sift.Proofs.BegunWord — a text as it stands, and the same text with its last word only begun.

  Stars after a text say that its last word has only been begun; so does the flag of a quick search,
  without them. The words before the last are the same either way, but they are not the same shape:
  a begun phrase counts from the first word that is kept and comes before the last of all, a whole
  phrase from the first that is kept.

  - `compileText_stars`: any stars after a text, and the flag, compile to the begun phrase.
  - `begunAt_of_writtenAt`: wherever all words of a text stand, its last one has been begun, if that is
    one of those that are kept.
  - `selects_begun`: so an item that the text selects is selected by the begun text too.
-/

import Sift.Proofs.Compiled
import Sift.Proofs.Negation
import Sift.Proofs.PhraseMatch

namespace Sift

variable {field : TextField} {text : String}

/-! ## Texts without stars -/

theorem wellStarred_stars (hstar : '*' ∉ text.toList) (n : Nat) :
    WellStarred (text ++ stars (n + 1)) := by
  rw [WellStarred, wildcardBody_stars, dropTrailing_star_of_starless hstar]
  exact hstar

/-- One star says as much as any others. -/
theorem compileText_stars (hstar : '*' ∉ text.toList) (n : Nat) (field : TextField)
    (quick truth : Bool) : compileText field (text ++ stars (n + 1)) quick truth =
      .ok ((PhraseShape.ofStem field text).operation field truth) := by
  rw [compileText_eq_ok (wellStarred_stars hstar n), hasWildcard_stars, wildcardBody_stars,
    dropTrailing_star_of_starless hstar, String.ofList_toList]
  rfl

theorem compileText_of_starless (hstar : '*' ∉ text.toList) (field : TextField)
    (quick truth : Bool) : compileText field text quick truth =
      .ok ((if quick then PhraseShape.ofStem field (Text.trimEnd text)
        else PhraseShape.ofWords field (Text.trimEnd text)).operation field truth) := by
  have hplain := hasWildcard_of_starless hstar
  rw [compileText_eq_ok (wellStarred_of_starless hstar), ofList_wildcardBody hplain, hplain,
    Bool.false_or]

/-! ## Stars and the flag -/

theorem wildcardBody_trimEnd_stars (text : String) (n : Nat) :
    wildcardBody (Text.trimEnd text ++ stars (n + 1)) = wildcardBody text := by
  rw [wildcardBody_stars, Text.toList_trimEnd, wildcardBody]

theorem ofText_begun {quick : Bool} (h : WellStarred text)
    (hbegun : (hasWildcard text || quick) = true) (field : TextField) :
    PhraseShape.ofText field text quick =
      .ok (.ofStem field (String.ofList (wildcardBody text))) := by
  rw [ofText_of_split (splitWildcard_eq_ok_iff.2 ⟨h, rfl⟩), if_pos hbegun]

/-- A star, put where the text ends but for blanks, says what the flag says. -/
theorem ofText_trimEnd_star (h : WellStarred text) (field : TextField) :
    PhraseShape.ofText field (Text.trimEnd text ++ "*") false =
      PhraseShape.ofText field text true := by
  have hbody : wildcardBody (Text.trimEnd text ++ "*") = wildcardBody text :=
    wildcardBody_trimEnd_stars text 0
  have hstars : WellStarred (Text.trimEnd text ++ "*") := by
    rw [WellStarred, hbody]
    exact h
  have hstar : hasWildcard (Text.trimEnd text ++ "*") = true := hasWildcard_stars _ 0
  rw [ofText_begun hstars (by rw [hstar]; rfl), ofText_begun h (Bool.or_true _), hbody]

/-! ## The last word -/

/-- The last word of all is one of those that are kept. -/
def KeepsLast (field : TextField) (text : String) : Prop :=
  ∀ last ∈ (allTokens field text).getLast?, last ∈ tokens field text

instance (field : TextField) (text : String) : Decidable (KeepsLast field text) := by
  unfold KeepsLast
  infer_instance

/-- A word that stands at its place has been begun there. -/
theorem begunAt_of_writtenAt {words : List String} {shift : Int} {last : Token}
    (hlast : (allTokens field text).getLast? = some last) (hkept : last ∈ tokens field text)
    (h : WrittenAt field text words shift) : BegunAt field text words shift :=
  ⟨last, hlast, fun t ht _ => h t ht, last.term, h last hkept, List.prefix_rfl⟩

theorem selects_ofStem {item : ItemFacts} (hkept : KeepsLast field text)
    (h : ((PhraseShape.ofWords field text).operation field true).selects item = true) :
    ((PhraseShape.ofStem field text).operation field true).selects item = true := by
  cases hlast : (allTokens field text).getLast? with
  | none =>
    -- Without any word the begun text asks for nothing.
    rw [PhraseShape.ofStem_eq_empty_iff.2 (List.getLast?_eq_none_iff.1 hlast)]
    rfl
  | some last =>
    have hmem := hkept last hlast
    have hwords : PhraseShape.ofWords field text ≠ .empty := by
      rw [Ne, PhraseShape.ofWords_eq_empty_iff]
      exact List.ne_nil_of_mem hmem
    have hstem : PhraseShape.ofStem field text ≠ .empty := by
      rw [ofStem_eq hlast]
      simp
    obtain ⟨words, hterms, hfound⟩ := (selects_operation_iff hwords).1 h
    obtain ⟨shift, hwritten⟩ := (foundIn_ofWords_iff hwords words).1 hfound
    refine (selects_operation_iff hstem).2 ⟨words, hterms, ?_⟩
    exact (foundIn_ofStem_iff hstem words).2 ⟨shift, begunAt_of_writtenAt hlast hmem hwritten⟩

/-- All three compile, and the two that take the last word as begun compile to the same. -/
theorem selects_begun (field : TextField) {text : String} (hstar : '*' ∉ text.toList)
    (hend : ∀ c ∈ text.toList.getLast?, Text.isBlank c = false) (hkept : KeepsLast field text) :
    ∃ written begun, compileText field text false true = .ok written ∧
      compileText field (text ++ "*") false true = .ok begun ∧
      compileText field text true true = .ok begun ∧
      ∀ item : ItemFacts, written.selects item = true → begun.selects item = true := by
  have hwhole : Text.trimEnd text = text := by
    rw [Text.trimEnd, Text.dropTrailing_of_getLast? hend, String.ofList_toList]
  have hwritten := compileText_of_starless hstar field false true
  have hquick := compileText_of_starless hstar field true true
  rw [hwhole] at hwritten hquick
  exact ⟨_, _, hwritten, compileText_stars hstar 0 field false true, hquick,
    fun item => selects_ofStem hkept⟩

/-- Two words of five are kept, and the last of them is begun. -/
theorem annual_report_begun :
    let text := "The report of the year"
    let item : ItemFacts := ⟨none, none, none, none, [], [], none, none, none, none, none,
      [(.subject, ["a", "report", "for", "that", "year"])], []⟩
    '*' ∉ text.toList ∧ (∀ c ∈ text.toList.getLast?, Text.isBlank c = false) ∧
      KeepsLast .subject text ∧
      ∃ begun, compileText .subject (text ++ "*") false true = .ok begun ∧
        compileText .subject text true true = .ok begun ∧ begun.selects item = true := by
  intro text item
  have hstar : '*' ∉ text.toList := by decide
  have hend : ∀ c ∈ text.toList.getLast?, Text.isBlank c = false := by
    have hlast : text.toList.getLast? = some 'r' := by decide +kernel
    intro c hc
    rw [hlast] at hc
    cases hc
    decide
  have hkept : KeepsLast .subject text := by decide +kernel
  obtain ⟨written, begun, hwritten, hstarred, hquick, hselects⟩ :=
    selects_begun .subject hstar hend hkept
  have hshape : PhraseShape.ofText .subject text false =
      .ok (.phrase [⟨0, "report"⟩, ⟨3, "year"⟩]) := by decide +kernel
  rw [compileText, hshape] at hwritten
  cases hwritten
  exact ⟨hstar, hend, hkept, begun, hstarred, hquick, hselects item (by decide)⟩

/-- A stop word at the end is asked for once it is only begun. -/
example :
    PhraseShape.ofText .subject "dinner at" false = .ok (.term "dinner") ∧
      PhraseShape.ofText .subject "dinner at*" false = .ok (.stem [⟨0, "dinner"⟩] ⟨1, "at"⟩) := by
  decide +kernel

end Sift
