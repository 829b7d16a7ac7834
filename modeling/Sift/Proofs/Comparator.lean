/-
  Sift.Proofs.Comparator — a comparator before a text, put there and taken off again.

  - `sign_append_take`: what is taken off and the rest are the text.
  - `take_ne_none`: a text that begins as a comparator has one.
  - `take_sign`: a comparator that is put before a text is taken off again, unless the text goes on
    with the `=` of a longer one.
-/

import Sift.Proofs.Text.Trim
import Sift.Range

namespace Sift.Comparator

variable {comparator : Comparator} {cs : List Char} {text : String}

/-! ## Taken off -/

theorem sign_append_takeFrom {rest : List Char}
    (h : takeFrom cs = (some comparator, rest)) : comparator.sign.toList ++ rest = cs := by
  unfold takeFrom at h
  split at h <;> cases h <;> rfl

theorem sign_append_take {rest : String}
    (h : take text = (some comparator, rest)) : comparator.sign ++ rest = text := by
  unfold take at h
  have hrest : takeFrom text.toList = (some comparator, rest.toList) := by
    cases htake : takeFrom text.toList
    rw [htake] at h
    cases h
    rw [String.toList_ofList]
  rw [← String.toList_inj, String.toList_append]
  exact sign_append_takeFrom hrest

theorem takeFrom_none (h : (takeFrom cs).1 = none) : takeFrom cs = (none, cs) := by
  unfold takeFrom at h ⊢
  split at h <;> cases h
  rfl

/-- `=` has no sign of its own. -/
theorem takeFrom_ne_eq {rest : List Char} (h : takeFrom cs = (some comparator, rest)) :
    comparator ≠ .eq := by
  unfold takeFrom at h
  split at h <;> cases h <;> decide

theorem takeFrom_of_head? (h : ∀ c ∈ cs.head?, c ≠ '<' ∧ c ≠ '>') : takeFrom cs = (none, cs) := by
  unfold takeFrom
  split
  · exact absurd rfl (h '>' rfl).2
  · exact absurd rfl (h '<' rfl).1
  · exact absurd rfl (h '>' rfl).2
  · exact absurd rfl (h '<' rfl).1
  · rfl

theorem take_none (h : (take text).1 = none) : take text = (none, text) := by
  simp only [take, takeFrom_none h, String.ofList_toList]

theorem take_ne_none {rest : String} (h : text.toList.head? = some '<' ∨ text.toList.head? = some '>') :
    take text ≠ (none, rest) := by
  have htake : (takeFrom text.toList).1 ≠ none := by
    unfold takeFrom
    split
    case h_5 hgt hlt =>
      rcases h with h | h
      · exact absurd (List.head?_eq_some_iff.1 h) (not_exists.2 hlt)
      · exact absurd (List.head?_eq_some_iff.1 h) (not_exists.2 hgt)
    all_goals exact Option.some_ne_none _
  intro hnone
  exact htake (congrArg Prod.fst hnone)

/-! ## Put there -/

theorem takeFrom_sign (hsign : comparator ≠ .eq) (h : cs.head? ≠ some '=') :
    takeFrom (comparator.sign.toList ++ cs) = (some comparator, cs) := by
  cases comparator with
  | eq => exact absurd rfl hsign
  | le | ge => rfl
  | lt | gt =>
    cases cs with
    | nil => rfl
    | cons c cs =>
      have hc : c ≠ '=' := fun heq => h (congrArg some heq)
      simp [sign, takeFrom, hc]

theorem take_sign (hsign : comparator ≠ .eq) (h : text.toList.head? ≠ some '=') :
    take (comparator.sign ++ text) = (some comparator, text) := by
  simp only [take, String.toList_append, takeFrom_sign hsign h, String.ofList_toList]

/-- Neither end of the text becomes a blank when a comparator is put before it. -/
theorem trim_sign_append (comparator : Comparator) (h : Text.trim text = text) (hne : text ≠ "") :
    Text.trim (comparator.sign ++ text) = comparator.sign ++ text := by
  have htrimmed : Text.Trimmed Text.isBlank text.toList := h ▸ Text.trimmed_trim text
  have hcs : text.toList ≠ [] := by simpa using hne
  refine Text.trim_of_trimmed ⟨?_, ?_⟩
  · cases comparator with
    | eq => simpa [sign] using htrimmed.head
    | lt | le | gt | ge =>
      rw [String.toList_append]
      rintro c ⟨⟩
      decide
  · rw [String.toList_append, List.getLast?_append_of_ne_nil _ hcs]
    exact htrimmed.last

end Sift.Comparator
