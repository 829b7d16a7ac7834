/-
  Sift.Proofs.Text.Word — the words of a text are parts of it: no character of a word is anything but a
  character of the text.

  - `mem_of_mem_words` / `mem_of_mem_addressWords`: for both ways to cut a text into words.
  - `addressRuns_append`: a character that addresses are not written with parts the words before it
    from those after it.
  - `addressWords_trim`: so the blanks around a text hold none of its words.
-/

import Sift.Proofs.Text.Lower
import Sift.Text.AddressWord

namespace Sift.Text

/-- The segments follow one another without a gap. -/
theorem flatten_segments (cs : List Char) : (segments cs).flatten = cs := by
  fun_induction segments cs with
  | case1 => rfl
  | case2 c cs ih => rw [List.flatten_cons, ih, List.cons_append, List.take_append_drop]

theorem mem_of_mem_words {s word : String} {c : Char} (h : word ∈ words s) (hc : c ∈ word.toList) :
    c ∈ s.toList := by
  obtain ⟨segment, hsegment, rfl⟩ := List.mem_map.1 h
  rw [String.toList_ofList] at hc
  rw [← flatten_segments s.toList]
  exact List.mem_flatten_of_mem (List.mem_of_mem_filter hsegment) hc

theorem mem_of_mem_addressWords {s word : String} {c : Char} (h : word ∈ addressWords s)
    (hc : c ∈ word.toList) : c ∈ s.toList := by
  obtain ⟨run, hrun, rfl⟩ := List.mem_map.1 h
  obtain ⟨piece, hpiece, rfl⟩ := List.mem_map.1 (List.mem_of_mem_filter hrun)
  rw [String.toList_ofList] at hc
  exact (spec_of_mem_splitOnP hpiece (mem_of_mem_dropAround hc)).1

/-! ## Words of addresses -/

/-- The runs of characters that are the words of addresses, where something is left of them. -/
def addressRuns (cs : List Char) : List (List Char) :=
  ((cs.splitOnP fun c => !isAddressChar c).map (dropAround isEdgeMark)).filter (!·.isEmpty)

theorem addressWords_eq (s : String) : addressWords s = (addressRuns s.toList).map String.ofList :=
  rfl

theorem addressRuns_append {c : Char} (hc : isAddressChar c = false) (cs rest : List Char) :
    addressRuns (cs ++ c :: rest) = addressRuns cs ++ addressRuns rest := by
  have hsep : (fun c => !isAddressChar c) c = true := by simp [hc]
  rw [addressRuns, List.splitOnP_append_cons cs rest hsep, List.map_append, List.filter_append]
  rfl

theorem addressRuns_dropWhile {p : Char → Bool} (hp : ∀ c, p c = true → isAddressChar c = false)
    (cs : List Char) : addressRuns (cs.dropWhile p) = addressRuns cs := by
  induction cs with
  | nil => rfl
  | cons c cs ih =>
    by_cases hc : p c = true
    · rw [List.dropWhile_cons_of_pos hc, ih]
      exact (addressRuns_append (hp c hc) [] cs).symm
    · rw [List.dropWhile_cons_of_neg hc]

theorem addressRuns_dropAround {p : Char → Bool} (hp : ∀ c, p c = true → isAddressChar c = false)
    (cs : List Char) : addressRuns (dropAround p cs) = addressRuns cs := by
  rw [← addressRuns_dropWhile hp cs, dropAround]
  induction cs.dropWhile p using List.reverseRecOn with
  | nil => rfl
  | append_singleton cs c ih =>
    rw [dropTrailing_eq_rdropWhile] at ih ⊢
    by_cases hc : p c = true
    · rw [List.rdropWhile_concat_pos p cs c hc, ih, addressRuns_append (hp c hc)]
      exact (List.append_nil _).symm
    · rw [List.rdropWhile_concat_neg p cs c hc]

theorem isAddressChar_of_blank {c : Char} (h : isBlank c = true) : isAddressChar c = false := by
  have hpoints : ∀ n ∈ (rangePoints Table.blank).flatten, isAddressChar (Char.ofNat n) = false := by
    decide +kernel
  have hc := hpoints c.toNat (mem_rangePoints h)
  rwa [Char.ofNat_toNat] at hc

theorem addressWords_trim (s : String) : addressWords (trim s) = addressWords s := by
  rw [addressWords_eq, toList_trim, addressRuns_dropAround (fun _ => isAddressChar_of_blank),
    addressWords_eq]

end Sift.Text
