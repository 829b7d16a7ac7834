/-
  Sift.Proofs.Literal.Item — an item's id is read back from the form in which it is written, alone
  or in a list.

  - `read_text`: whoever searches, for the account is written too.
  - `not_mem_alphabet`: no written id holds a character that would be taken for something else.
-/

import Sift.Literal.Item
import Sift.Proofs.Account
import Sift.Proofs.Text.Decimal
import Sift.Proofs.Text.Quoted
import Sift.Proofs.Text.Trim

namespace Sift.ItemId

/-- The characters that an id is written with. -/
def alphabet : List Char := ':' :: AccountId.alphabet

/-- An id keeps within 32 bits wherever it is read. -/
def Fits (item : ItemId) : Prop := Text.fitsSigned 32 item.id = true

theorem toList_text (item : ItemId) :
    item.text.toList = item.account.text.toList ++ ':' :: (toString item.id).toList := by
  rw [text, String.toList_append, String.toList_append, List.append_assoc]
  rfl

theorem mem_of_isDigit {c : Char} (h : c.isDigit = true) : c ∈ AccountId.alphabet := by
  have hdigits : ∀ n < 58, 48 ≤ n → Char.ofNat n ∈ AccountId.alphabet := by decide
  obtain ⟨hlow, hhigh⟩ : 48 ≤ c.toNat ∧ c.toNat ≤ 57 := Char.isDigit_iff_toNat.1 h
  rw [← Char.ofNat_toNat c]
  exact hdigits c.toNat (by omega) hlow

theorem mem_text {item : ItemId} {c : Char} (h : c ∈ item.text.toList) : c ∈ alphabet := by
  rw [toList_text, List.mem_append, List.mem_cons] at h
  rcases h with h | rfl | h
  · exact List.mem_cons_of_mem _ (AccountId.mem_text h)
  · exact List.mem_cons_self
  · rcases Text.mem_toString h with h | rfl
    · exact List.mem_cons_of_mem _ (mem_of_isDigit h)
    · exact List.mem_cons_of_mem _ List.mem_cons_self

/-- What surrounds an id where it is written. -/
theorem not_mem_alphabet :
    ∀ c ∈ alphabet, Text.needsQuotes c = false ∧ (c == ',') = false ∧ (c == '/') = false := by
  have hall : (alphabet.all fun c => !Text.needsQuotes c && !(c == ',') && !(c == '/')) = true := by
    decide +kernel
  intro c hc
  simpa [and_assoc] using List.all_eq_true.1 hall c hc

theorem not_blank {item : ItemId} {c : Char} (h : c ∈ item.text.toList) : Text.isBlank c = false :=
  Text.isBlank_of_needsQuotes (not_mem_alphabet c (mem_text h)).1

theorem text_ne_nil (item : ItemId) : item.text.toList ≠ [] := by
  rw [toList_text]
  simp

theorem trim_text (item : ItemId) : Text.trim item.text = item.text :=
  Text.trim_of_trimmed (Text.trimmed_of_forall fun _ h => not_blank h)

theorem quote_text (item : ItemId) : Text.quote item.text = item.text :=
  Text.quote_of_forall item.text_ne_nil fun c h => (not_mem_alphabet c (mem_text h)).1

/-- The number's own characters have no colon, so the last one is the one before it. -/
theorem readParts_text (own : AccountId) {item : ItemId} (h : item.Fits) :
    readParts own item.text.toList = .ok item := by
  have hcolon : ∀ c ∈ (toString item.id).toList, (c == ':') = false := by
    intro c hc
    rcases Text.mem_toString hc with hc | rfl
    · refine beq_eq_false_iff_ne.2 ?_
      rintro rfl
      exact absurd hc (by decide)
    · rfl
  rw [readParts, toList_text, Text.breakAtLast_append hcolon (beq_self_eq_true ':')]
  simp only [String.ofList_toList, AccountId.read_text, bind, Except.bind, Text.readSigned_toString h]

theorem read_text (own : AccountId) {item : ItemId} (h : item.Fits) : read own item.text = .ok item := by
  rw [read, trim_text, readParts_text own h]

/-- Whatever the account is, the number has been read as one of 32 bits. -/
theorem fits_of_number {account : AccountId} {cs : List Char} {item : ItemId}
    (h : (match Text.readSigned 32 cs with
      | some id => .ok (ItemId.mk account id)
      | none => .error Flaw.notItemNumber) = Except.ok item) : item.Fits := by
  split at h
  · next hid =>
    cases h
    exact Text.fitsSigned_of_readSigned hid
  · cases h

theorem fits_of_readParts {own : AccountId} {cs : List Char} {item : ItemId}
    (h : readParts own cs = .ok item) : item.Fits := by
  simp only [readParts, bind, Except.bind] at h
  split at h
  · exact fits_of_number h
  · split at h
    · exact fits_of_number h
    · cases h

theorem fits_of_read {own : AccountId} {text : String} {item : ItemId}
    (h : read own text = .ok item) : item.Fits := by
  simp only [read] at h
  split at h
  · next hparts =>
    cases h
    exact fits_of_readParts hparts
  · cases h

end Sift.ItemId
