/-
  Sift.Proofs.Wildcard — what is left of a text when the stars at its end are taken off.

  - `splitWildcard_eq_ok_iff`: a text is accepted if no star is left, and the rest is its body.
  - `mem_body`: no character but blanks and stars is lost, and without stars only the blanks at the
    end (`ofList_wildcardBody`).
  - `exists_lead`: the blanks before a text stay before its body, and no stars are gained or lost; so a
    text that is accepted is accepted without the blanks around it (`splitWildcard_trim`).
  - `wildcardBody_stars`: stars put after a text are taken off together with those it ends in.
  - `wellStarred_append`: what is put before a text that does not vanish must have no stars at all.
  - `compileText_eq_error_iff`: only a misplaced star keeps a text from being compiled.
-/

import Sift.Predicate.Compile
import Sift.Proofs.Text.Trim

namespace Sift

/-- The text without the blanks at its end and the stars before them. -/
def wildcardBody (text : String) : List Char :=
  Text.dropTrailing (· == '*') (Text.dropTrailing Text.isBlank text.toList)

/-- Whether there are stars to take off. -/
def hasWildcard (text : String) : Bool :=
  (wildcardBody text).length < (Text.dropTrailing Text.isBlank text.toList).length

theorem splitWildcard_eq (text : String) :
    splitWildcard text =
      if (wildcardBody text).contains '*' then .error (.misplacedWildcard text)
      else .ok ⟨String.ofList (wildcardBody text), hasWildcard text⟩ := rfl

theorem splitWildcard_eq_ok_iff {text : String} {split : WildcardSplit} :
    splitWildcard text = .ok split ↔
      '*' ∉ wildcardBody text ∧ split = ⟨String.ofList (wildcardBody text), hasWildcard text⟩ := by
  rw [splitWildcard_eq]
  split
  · next h => simp [List.contains_iff_mem.1 h]
  · next h =>
    have hm : '*' ∉ wildcardBody text := fun hm => h (List.contains_iff_mem.2 hm)
    simp [hm, eq_comm]

/-- No star stands in the text but at its end. -/
def WellStarred (text : String) : Prop := '*' ∉ wildcardBody text

instance (text : String) : Decidable (WellStarred text) := by
  unfold WellStarred
  infer_instance

theorem splitWildcard_eq_error_iff {text : String} {fault : Fault} :
    splitWildcard text = .error fault ↔ ¬ WellStarred text ∧ fault = .misplacedWildcard text := by
  rw [splitWildcard_eq, WellStarred]
  split
  · next h => simp [List.contains_iff_mem.1 h, eq_comm]
  · next h =>
    have hm : '*' ∉ wildcardBody text := fun hm => h (List.contains_iff_mem.2 hm)
    simp [hm]

/-- Without stars none is in a wrong place, and none is taken off. -/
theorem wellStarred_of_starless {text : String} (h : '*' ∉ text.toList) : WellStarred text :=
  fun hstar => h (Text.mem_of_mem_dropTrailing (Text.mem_of_mem_dropTrailing hstar))

theorem star_mem {text : String} (h : ¬ WellStarred text) : '*' ∈ text.toList :=
  by_contra fun hstar => h (wellStarred_of_starless hstar)

theorem dropTrailing_star_of_starless {cs : List Char} (h : '*' ∉ cs) :
    Text.dropTrailing (· == '*') cs = cs := by
  apply Text.dropTrailing_of_getLast?
  intro c hc
  rw [beq_eq_false_iff_ne]
  rintro rfl
  exact h (List.mem_of_getLast? hc)

theorem hasWildcard_of_starless {text : String} (h : '*' ∉ text.toList) : hasWildcard text = false := by
  have hkept : wildcardBody text = Text.dropTrailing Text.isBlank text.toList :=
    dropTrailing_star_of_starless fun hstar => h (Text.mem_of_mem_dropTrailing hstar)
  rw [hasWildcard, hkept]
  simp

theorem wellStarred_of_split {text : String} {split : WildcardSplit}
    (h : splitWildcard text = .ok split) : WellStarred text :=
  (splitWildcard_eq_ok_iff.1 h).1

/-! ## The rest of a text -/

theorem mem_wildcardBody {text : String} {c : Char} (h : c ∈ text.toList)
    (hb : Text.isBlank c = false) (hc : c ≠ '*') : c ∈ wildcardBody text :=
  Text.mem_dropTrailing (Text.mem_dropTrailing h hb) (by simpa using hc)

theorem mem_body {text : String} {split : WildcardSplit} {c : Char}
    (hs : splitWildcard text = .ok split) (h : c ∈ text.toList) (hb : Text.isBlank c = false)
    (hc : c ≠ '*') : c ∈ split.body.toList := by
  obtain ⟨-, rfl⟩ := splitWildcard_eq_ok_iff.1 hs
  simpa using mem_wildcardBody h hb hc

theorem dropTrailing_star_of_blank {cs : List Char} (h : ∀ c ∈ cs, Text.isBlank c = true) :
    Text.dropTrailing (· == '*') cs = cs := by
  apply Text.dropTrailing_of_getLast?
  intro c hc
  have hblank := h c (List.mem_of_getLast? hc)
  by_contra hstar
  rw [show c = '*' by simpa using hstar] at hblank
  revert hblank
  decide

/-- The blanks before a text stay before its body, and that is all the difference they make. -/
theorem exists_lead (text : String) : ∃ lead : List Char, (∀ c ∈ lead, Text.isBlank c = true) ∧
    Text.dropTrailing Text.isBlank text.toList = lead ++ (Text.trim text).toList ∧
    wildcardBody text = lead ++ wildcardBody (Text.trim text) := by
  obtain ⟨lead, hlead, htext⟩ := Text.exists_dropTrailing_eq Text.isBlank text.toList
  rw [← Text.toList_trim] at htext
  refine ⟨lead, hlead, htext, ?_⟩
  have htrimmed := Text.dropTrailing_of_getLast? (Text.trimmed_trim text).last
  rw [wildcardBody, wildcardBody, htrimmed, htext, Text.dropTrailing_append,
    dropTrailing_star_of_blank hlead]
  split
  · next hbody => rw [hbody, List.append_nil]
  · rfl

theorem hasWildcard_trim (text : String) : hasWildcard (Text.trim text) = hasWildcard text := by
  obtain ⟨lead, -, htext, hbody⟩ := exists_lead text
  have hlast := (Text.trimmed_trim text).last
  rw [hasWildcard, hasWildcard, htext, hbody, Text.dropTrailing_of_getLast? hlast]
  simp

theorem ofList_wildcardBody {text : String} (h : hasWildcard text = false) :
    String.ofList (wildcardBody text) = Text.trimEnd text := by
  have hprefix := List.rdropWhile_prefix (· == '*') (Text.dropTrailing Text.isBlank text.toList)
  have hlength := Nat.not_lt.1 (of_decide_eq_false h)
  rw [Text.trimEnd, ← hprefix.eq_of_length_le hlength]
  rfl

/-- Where something is left of the second of two texts, nothing is taken off the first. -/
theorem wildcardBody_append (s : String) {t : String} (h : wildcardBody t ≠ []) :
    wildcardBody (s ++ t) = s.toList ++ wildcardBody t := by
  have hblank : Text.dropTrailing Text.isBlank t.toList ≠ [] := by
    intro hnil
    rw [wildcardBody, hnil] at h
    exact h rfl
  rw [wildcardBody, String.toList_append, Text.dropTrailing_append, if_neg hblank,
    Text.dropTrailing_append, ← wildcardBody, if_neg h]

theorem wellStarred_append {s t : String} (h : wildcardBody t ≠ []) :
    WellStarred (s ++ t) ↔ '*' ∉ s.toList ∧ WellStarred t := by
  rw [WellStarred, wildcardBody_append s h, List.mem_append, not_or, WellStarred]

theorem mem_of_mem_wildcardBody_append {s t : String} {c : Char} (h : c ∈ wildcardBody (s ++ t)) :
    c ∈ s.toList ∨ c ∈ wildcardBody t := by
  rw [wildcardBody, String.toList_append, Text.dropTrailing_append] at h
  split at h
  · exact .inl (Text.mem_of_mem_dropTrailing (Text.mem_of_mem_dropTrailing h))
  · rw [Text.dropTrailing_append, ← wildcardBody] at h
    split at h
    · exact .inl (Text.mem_of_mem_dropTrailing h)
    · exact List.mem_append.1 h

theorem WellStarred.append {s t : String} (ht : WellStarred t) (hs : '*' ∉ s.toList) :
    WellStarred (s ++ t) :=
  fun h => (mem_of_mem_wildcardBody_append h).elim hs ht

theorem wellStarred_trim {text : String} (h : WellStarred text) : WellStarred (Text.trim text) := by
  intro hstar
  obtain ⟨lead, -, -, hbody⟩ := exists_lead text
  apply h
  rw [hbody]
  exact List.mem_append_right lead hstar

theorem star_mem_trim {text : String} (h : ¬ WellStarred text) : '*' ∈ (Text.trim text).toList := by
  rw [Text.toList_trim]
  exact Text.mem_dropAround (star_mem h) (by decide)

theorem splitWildcard_trim {text : String} {split : WildcardSplit}
    (h : splitWildcard text = .ok split) :
    splitWildcard (Text.trim text) =
      .ok ⟨String.ofList (wildcardBody (Text.trim text)), hasWildcard (Text.trim text)⟩ := by
  exact splitWildcard_eq_ok_iff.2 ⟨wellStarred_trim (wellStarred_of_split h), rfl⟩

/-! ## Stars put after a text -/

/-- That many stars. -/
def stars (n : Nat) : String := String.ofList (List.replicate n '*')

theorem dropTrailing_blank_stars (text : String) (n : Nat) :
    Text.dropTrailing Text.isBlank (text ++ stars (n + 1)).toList =
      text.toList ++ List.replicate (n + 1) '*' := by
  have htext : (text ++ stars (n + 1)).toList = text.toList ++ List.replicate (n + 1) '*' := by
    rw [String.toList_append, stars, String.toList_ofList]
  rw [htext]
  apply Text.dropTrailing_of_getLast?
  intro c hc
  rw [List.replicate_succ', ← List.append_assoc, List.getLast?_concat] at hc
  rw [← Option.some.inj hc]
  decide

/-- They are taken off together with those that the text ends in. -/
theorem wildcardBody_stars (text : String) (n : Nat) :
    wildcardBody (text ++ stars (n + 1)) = Text.dropTrailing (· == '*') text.toList := by
  have hall : Text.dropTrailing (· == '*') (List.replicate (n + 1) '*') = [] :=
    List.rdropWhile_eq_nil_iff.2 fun c hc => by simp [List.eq_of_mem_replicate hc]
  rw [wildcardBody, dropTrailing_blank_stars, Text.dropTrailing_append, if_pos hall]

theorem hasWildcard_stars (text : String) (n : Nat) : hasWildcard (text ++ stars (n + 1)) = true := by
  have hle : (Text.dropTrailing (· == '*') text.toList).length ≤ text.toList.length :=
    (List.rdropWhile_prefix _ _).length_le
  rw [hasWildcard, wildcardBody_stars, dropTrailing_blank_stars, decide_eq_true_eq, List.length_append,
    List.length_replicate]
  omega

/-! ## Texts that are compiled -/

/-- A misplaced star is all that can be wrong with a text. -/
theorem compileText_eq_error_iff {field : TextField} {text : String} {quick truth : Bool}
    {fault : Fault} : compileText field text quick truth = .error fault ↔
      ¬ WellStarred text ∧ fault = .misplacedWildcard text := by
  rw [← splitWildcard_eq_error_iff, compileText, PhraseShape.ofText]
  cases splitWildcard text with
  | error found =>
    constructor
    · intro h
      cases h
      rfl
    · intro h
      cases h
      rfl
  | ok split =>
    constructor
    · intro h
      cases h
    · intro h
      cases h

end Sift
