/-
  Sift.Proofs.Account — an account's name is read back from the form in which it is written.

  - `ungroup_group`: the dashes between the groups are found again.
  - `read_text`: no written name is taken for one of the other forms.
-/

import Mathlib.Algebra.GroupWithZero.Nat
import Mathlib.Data.List.Basic
import Sift.Account

namespace Sift.AccountId

/-! ## Groups -/

theorem ungroup_cons (n m : Nat) (ns : List Nat) (cs : List Char) :
    ungroup (n :: m :: ns) cs =
      match cs.drop n with
      | '-' :: rest => (ungroup (m :: ns) rest).map (cs.take n ++ ·)
      | _ => none := rfl

/-- What the groups of a long enough text are written as. -/
def grouped (ns : List Nat) (cs : List Char) : List Char := List.intercalate ['-'] (group ns cs)

theorem grouped_singleton {n : Nat} {cs : List Char} (h : cs.length = n) : grouped [n] cs = cs := by
  rw [grouped, group, group, List.intercalate_singleton, ← h, List.take_length]

theorem grouped_cons (n m : Nat) (ns : List Nat) (cs : List Char) :
    grouped (n :: m :: ns) cs = cs.take n ++ '-' :: grouped (m :: ns) (cs.drop n) := by
  rw [grouped, group, group, List.intercalate_cons_cons, List.append_assoc]
  rfl

theorem ungroup_group {ns : List Nat} (hns : ns ≠ []) {cs : List Char} (h : cs.length = ns.sum) :
    ungroup ns (grouped ns cs) = some cs := by
  induction ns generalizing cs with
  | nil => exact absurd rfl hns
  | cons n ns ih =>
    cases ns with
    | nil =>
      have hn : cs.length = n := by simpa using h
      rw [grouped_singleton hn, ungroup, if_pos hn]
    | cons m ns =>
      have htake : (cs.take n).length = n := by
        rw [List.length_take, h, List.sum_cons]
        omega
      have hdrop : (cs.drop n).length = (m :: ns).sum := by
        rw [List.length_drop, h, List.sum_cons]
        omega
      rw [grouped_cons, ungroup_cons, List.drop_left' htake, List.take_left' htake]
      simp only [ih (List.cons_ne_nil m ns) hdrop, Option.map_some, List.take_append_drop]

theorem length_grouped {ns : List Nat} (hns : ns ≠ []) {cs : List Char} (h : cs.length = ns.sum) :
    (grouped ns cs).length + 1 = ns.sum + ns.length := by
  induction ns generalizing cs with
  | nil => exact absurd rfl hns
  | cons n ns ih =>
    cases ns with
    | nil =>
      have hn : cs.length = n := by simpa using h
      rw [grouped_singleton hn, hn, List.sum_singleton, List.length_singleton]
    | cons m ns =>
      rw [List.sum_cons] at h
      have hdrop : (cs.drop n).length = (m :: ns).sum := by
        rw [List.length_drop]
        omega
      have hlength := ih (List.cons_ne_nil m ns) hdrop
      rw [grouped_cons, List.length_append, List.length_take, List.length_cons, List.sum_cons,
        List.length_cons]
      omega

theorem mem_grouped {ns : List Nat} {cs : List Char} {c : Char} (h : c ∈ grouped ns cs) :
    c ∈ cs ∨ c = '-' := by
  induction ns generalizing cs with
  | nil => cases h
  | cons n ns ih =>
    cases ns with
    | nil =>
      rw [grouped, group, group, List.intercalate_singleton] at h
      exact .inl (List.mem_of_mem_take h)
    | cons m ns =>
      rw [grouped_cons, List.mem_append, List.mem_cons] at h
      rcases h with h | rfl | h
      · exact .inl (List.mem_of_mem_take h)
      · exact .inr rfl
      · exact (ih h).imp_left List.mem_of_mem_drop

/-! ## Digits -/

theorem hexValue_hexDigit (d : Fin 16) : Text.hexValue (hexDigit d) = some d := by
  revert d
  decide

theorem mapM_hexValue (digits : List (Fin 16)) :
    (digits.map hexDigit).mapM Text.hexValue = some digits := by
  induction digits with
  | nil => rfl
  | cons d digits ih =>
    rw [List.map_cons, List.mapM_cons, hexValue_hexDigit, ih]
    rfl

theorem ofDigits_map (a : AccountId) : ofDigits (a.digits.map hexDigit) = some a := by
  rw [ofDigits, mapM_hexValue]
  exact dif_pos a.size_digits

/-! ## Names -/

/-- The characters that a name is written with. -/
def alphabet : List Char := '-' :: (List.finRange 16).map hexDigit

theorem toList_text (a : AccountId) : a.text.toList = grouped groups (a.digits.map hexDigit) :=
  String.toList_ofList

theorem groups_ne_nil : groups ≠ [] := by decide

theorem length_digits (a : AccountId) : (a.digits.map hexDigit).length = groups.sum := by
  rw [List.length_map, a.size_digits]
  rfl

theorem length_text (a : AccountId) : a.text.toList.length = 36 := by
  have h := length_grouped groups_ne_nil a.length_digits
  rw [← toList_text] at h
  exact Nat.succ.inj h

theorem mem_text {a : AccountId} {c : Char} (h : c ∈ a.text.toList) : c ∈ alphabet := by
  rw [toList_text] at h
  rcases mem_grouped h with h | rfl
  · obtain ⟨d, -, rfl⟩ := List.mem_map.1 h
    exact List.mem_cons_of_mem _ (List.mem_map.2 ⟨d, List.mem_finRange d, rfl⟩)
  · exact List.mem_cons_self

/-- A brace or a `u` would begin one of the other forms. -/
theorem not_mem_alphabet : '\x7b' ∉ alphabet ∧ 'u' ∉ alphabet ∧ 'U' ∉ alphabet := by decide

theorem read_text (a : AccountId) : read a.text = some a := by
  have hmem : ∀ c rest, a.text.toList = c :: rest → c ∈ alphabet := fun c rest h =>
    mem_text (h ▸ List.mem_cons_self)
  unfold read
  split
  · next h => exact absurd (hmem _ _ h) not_mem_alphabet.1
  · next h => exact absurd (hmem _ _ h) not_mem_alphabet.2.1
  · next h => exact absurd (hmem _ _ h) not_mem_alphabet.2.2
  · rw [if_neg (by rw [length_text]; decide), toList_text, ofGroups,
      ungroup_group groups_ne_nil a.length_digits]
    exact ofDigits_map a

end Sift.AccountId
