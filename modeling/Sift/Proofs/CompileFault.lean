/-
  Sift.Proofs.CompileFault — what can still go wrong with a question that could be read.

  A text is searched when the question is compiled, so its reader has looked for misplaced stars. It
  looks at the text as it was put; what is searched may have been trimmed, or have a name before it. The
  two agree but for the name of a structured field, which nobody has looked at.

  - `SearchField.isChecked_of_read`: the reader of every field that keeps a text has looked at it.
  - `Predicate.compile_of_starredText` / `Predicate.ofMailbox_of_compile`: a star in such a name fails
    the question; any other fails only for what the mailbox is like (`Fault.OfMailbox`).
  - `Searcher.fails_late`: the two, for all that a field and a value make.
-/

import Sift.Proofs.Mailbox.Fault
import Sift.Proofs.Reread.Node
import Sift.Proofs.TextQuestion

namespace Sift

/-! ## Texts that have been checked -/

/-- The text that a reader looks through for misplaced stars. -/
def Predicate.checkedText : Predicate → Option String
  | .text _ body _ | .contact body | .structured _ body | .address _ body => some body
  | _ => none

def Predicate.IsChecked (p : Predicate) : Prop := ∀ text ∈ p.checkedText, WellStarred text

namespace Predicate

theorem isChecked_of_none {p : Predicate} (h : p.checkedText = none) : p.IsChecked := by
  intro text htext
  rw [h] at htext
  cases htext

theorem isChecked_of_split {p : Predicate} {text : String} {split : WildcardSplit}
    (hsplit : splitWildcard text = .ok split) (h : p.checkedText = some text) : p.IsChecked := by
  intro found hfound
  rw [h] at hfound
  cases hfound
  exact wellStarred_of_split hsplit

variable {p : Predicate} {value : String}

theorem isChecked_ofStructured {name : String} (h : ofStructured name value = .ok p) :
    p.IsChecked := by
  simp only [ofStructured] at h
  split at h
  · cases h
  · obtain ⟨split, hsplit, hk⟩ := exists_of_bind (of_nonBlank h)
    cases hk
    exact isChecked_of_split hsplit rfl

/-! ### Questions without such a text -/

theorem isChecked_ofItems (ids : List ItemId) : (ofItems ids).IsChecked := by
  refine isChecked_of_none ?_
  unfold ofItems
  split <;> rfl

theorem isChecked_ofTagName (h : ofTagName value = .ok p) : p.IsChecked := by
  rcases ofTagName_cases h with ⟨flag, rfl⟩ | rfl
  · exact isChecked_of_none rfl
  · exact isChecked_of_none rfl

theorem isChecked_ofPriority (h : ofPriority value = .ok p) : p.IsChecked := by
  unfold ofPriority at h
  split at h <;> cases h <;> exact isChecked_of_none rfl

theorem isChecked_ofObject (h : ofObject value = .ok p) : p.IsChecked := by
  unfold ofObject at h
  split at h <;> cases h <;> exact isChecked_of_none rfl

theorem isChecked_ofContentType {field : TextField} (h : ofContentType field value = .ok p) :
    p.IsChecked := by
  simp only [ofContentType] at h
  split at h <;> cases h
  exact isChecked_of_none rfl

theorem isChecked_ofDate {settings : Settings} {field : DateField}
    (h : ofDate settings field value = .ok p) : p.IsChecked := by
  obtain ⟨literal, rfl⟩ := ofDate_eq_ok h
  exact isChecked_of_none rfl

theorem isChecked_ofSize {field : SizeField} (h : ofSize field value = .ok p) : p.IsChecked := by
  obtain ⟨literal, -, hk⟩ := exists_of_bind (of_nonBlank h)
  cases hk
  exact isChecked_of_none rfl

theorem isChecked_ofCount {field : CountField} (h : ofCount field value = .ok p) :
    p.IsChecked := by
  obtain ⟨literal, -, hk⟩ := exists_of_bind (of_nonBlank h)
  cases hk
  exact isChecked_of_none rfl

theorem isChecked_ofConversationText {own : AccountId} (h : ofConversationText own value = .ok p) :
    p.IsChecked := by
  obtain ⟨id, -, hk⟩ := exists_of_bind h
  split at hk
  · cases hk
    exact isChecked_ofItems _
  · unfold ofConversation at hk
    split at hk <;> cases hk
    exact isChecked_of_none rfl

theorem isChecked_ofItemList {own : AccountId} (h : ofItemList own value = .ok p) :
    p.IsChecked := by
  simp only [ofItemList] at h
  split at h
  · cases h
    exact isChecked_of_none rfl
  split at h
  · cases h
    exact isChecked_of_none rfl
  obtain ⟨ids, -, hk⟩ := exists_of_bind h
  cases hk
  exact isChecked_ofItems ids

theorem isChecked_ofFolderPath {deep : Bool} (h : ofFolderPath deep value = .ok p) :
    p.IsChecked := by
  have hk := of_nonBlank h
  cases hk
  exact isChecked_of_none rfl

theorem isChecked_ofFolderId {own : AccountId} {deep : Bool}
    (h : ofFolderId own deep value = .ok p) : p.IsChecked := by
  rw [ofFolderId_eq] at h
  obtain ⟨item, -, hk⟩ := exists_of_bind (of_nonBlank h)
  cases hk
  exact isChecked_of_none rfl

end Predicate

/-- What is kept of an address is trimmed, and what is checked is not. -/
theorem TextQuestion.isChecked {value : String} {p : Predicate} (h : TextQuestion value p) :
    p.IsChecked := by
  cases h with
  | text field hstars | contact hstars =>
    rintro text ⟨⟩
    exact hstars
  | address fields hstars =>
    rintro text ⟨⟩
    exact wellStarred_trim hstars
  | domain | comparison => exact Predicate.isChecked_of_none rfl

theorem Builtin.checkedText_of_mem : ∀ builtin ∈ Builtin.all,
    builtin.predicate.checkedText = none := by
  intro builtin h
  simp only [Builtin.all, List.mem_cons, List.not_mem_nil, or_false] at h
  rcases h with rfl | rfl | rfl | rfl | rfl | rfl | rfl | rfl | rfl | rfl | rfl | rfl | rfl | rfl |
    rfl | rfl | rfl | rfl | rfl | rfl | rfl | rfl <;> rfl

theorem SearchField.isChecked_of_read {searcher : Searcher} {value : String} {field : SearchField}
    {node : Node} (h : field.read searcher value = .ok node) : node.predicate.IsChecked := by
  have hof : ∀ {result : Except Fault Predicate}, result.map Node.ofPredicate = .ok node →
      (∀ p, result = .ok p → p.IsChecked) → node.predicate.IsChecked := by
    intro result hmap hresult
    obtain ⟨p, hp, rfl⟩ := exists_of_map hmap
    exact hresult p hp
  unfold read at h
  cases field with
  | standard => exact hof h fun p hp => (TextQuestion.ofTextField hp).isChecked
  | text field => exact hof h fun p hp => (TextQuestion.ofTextField hp).isChecked
  | contact => exact hof h fun p hp => (TextQuestion.ofContact hp).isChecked
  | addresses fields => exact hof h fun p hp => (TextQuestion.ofAddress hp).isChecked
  | structured name => exact hof h fun p hp => Predicate.isChecked_ofStructured hp
  | tag => exact hof h fun p hp => Predicate.isChecked_ofTagName hp
  | priority => exact hof h fun p hp => Predicate.isChecked_ofPriority hp
  | object => exact hof h fun p hp => Predicate.isChecked_ofObject hp
  | contentType field => exact hof h fun p hp => Predicate.isChecked_ofContentType hp
  | date field => exact hof h fun p hp => Predicate.isChecked_ofDate hp
  | size field => exact hof h fun p hp => Predicate.isChecked_ofSize hp
  | count field => exact hof h fun p hp => Predicate.isChecked_ofCount hp
  | conversation => exact hof h fun p hp => Predicate.isChecked_ofConversationText hp
  | items => exact hof h fun p hp => Predicate.isChecked_ofItemList hp
  | folderPath deep => exact hof h fun p hp => Predicate.isChecked_ofFolderPath hp
  | folderId deep => exact hof h fun p hp => Predicate.isChecked_ofFolderId hp
  | builtin =>
    obtain ⟨builtin, hmem, rfl⟩ := mem_all_of_read h
    exact Predicate.isChecked_of_none (builtin.checkedText_of_mem hmem)
  | locality =>
    obtain ⟨l, -, rfl⟩ := exists_of_map h
    exact Predicate.isChecked_of_none rfl

/-! ## Texts that are searched -/

/-- What a structured field is searched for, if the stars in its name keep it from being searched. -/
def Predicate.starredText : Predicate → Option String
  | .structured name value =>
    if '*' ∈ name.toList ∧ numericRange value = none then some (name ++ ":" ++ Text.trim value)
    else none
  | _ => none

/-- The colon stays, so no star of the name stands at the end. -/
theorem wellStarred_structured {name value : String} (h : WellStarred value) :
    WellStarred (name ++ ":" ++ Text.trim value) ↔ '*' ∉ name.toList := by
  have hcolon : ':' ∈ wildcardBody (":" ++ Text.trim value) :=
    mem_wildcardBody (by simp) (by decide) (by decide)
  have hrest : WellStarred (":" ++ Text.trim value) := (wellStarred_trim h).append (by decide)
  rw [String.append_assoc, wellStarred_append (List.ne_nil_of_mem hcolon)]
  exact and_iff_left hrest

/-- Contacts and addresses fail as their texts do. -/
theorem not_wellStarred_of_compileContact {text : String} {truth : Bool} {fault : Fault}
    (h : compileContact text truth = .error fault) : ¬ WellStarred text := by
  rcases error_of_bind h with h | ⟨split, -, h⟩
  · exact (splitWildcard_eq_error_iff.1 h).1
  · exact (compileText_eq_error_iff.1 h).1

theorem not_wellStarred_of_compileAddress {fields : AddressFields} {text : String} {truth : Bool}
    {fault : Fault} (h : compileAddress fields text truth = .error fault) : ¬ WellStarred text := by
  rcases error_of_bind h with h | ⟨operations, -, h⟩
  · obtain ⟨field, -, hfield⟩ := error_of_mapM h
    split at hfield
    · cases hfield
    · exact (compileText_eq_error_iff.1 hfield).1
  · cases h

namespace Predicate

variable {p : Predicate} {mailbox : Mailbox} {settings : Settings} {truth : Bool} {fault : Fault}

theorem compile_of_starredText {text : String} (hchecked : p.IsChecked)
    (h : p.starredText = some text) :
    p.compile mailbox settings truth = .error (.misplacedWildcard text) := by
  unfold starredText at h
  split at h
  · next name value =>
    split at h
    · next hstar =>
      cases h
      have hbad : ¬ WellStarred (name ++ ":" ++ Text.trim value) := fun hgood =>
        (wellStarred_structured (hchecked value rfl)).1 hgood hstar.1
      rw [compile, compileStructured, hstar.2]
      exact compileText_eq_error_iff.2 ⟨hbad, rfl⟩
    · cases h
  · cases h

theorem ofMailbox_of_compile (hchecked : p.IsChecked) (hme : ∀ fields, p ≠ .me fields)
    (hstar : p.starredText = none) (h : p.compile mailbox settings truth = .error fault) :
    fault.OfMailbox := by
  cases p with
  | text field body quick =>
    exact absurd (hchecked body rfl) (compileText_eq_error_iff.1 h).1
  | contact body => exact absurd (hchecked body rfl) (not_wellStarred_of_compileContact h)
  | structured name value =>
    rw [compile, compileStructured] at h
    split at h
    · cases h
    · next hnumber =>
      -- The one text of which the reader has looked at a part only.
      have hname : '*' ∉ name.toList := by
        intro hmem
        rw [starredText, if_pos ⟨hmem, hnumber⟩] at hstar
        cases hstar
      have hgood := (wellStarred_structured (hchecked value rfl)).2 hname
      exact absurd hgood (compileText_eq_error_iff.1 h).1
  | address fields body => exact absurd (hchecked body rfl) (not_wellStarred_of_compileAddress h)
  | me fields => exact absurd rfl (hme fields)
  | tag target =>
    rcases error_of_bind h with h | ⟨id, -, h⟩
    · exact Mailbox.ofMailbox_of_tagId h
    · cases h
  | folder target withSubfolders => exact Mailbox.ofMailbox_of_compileFolder h
  | domain | term | date | size | count | stringRange | item | conversation => cases h

end Predicate

/-! ## All questions -/

/-- How a question that could be read can fail to compile, whatever its sign and its truth. -/
structure Node.FailsLate (node : Node) (mailbox : Mailbox) (settings : Settings) : Prop where
  /-- A star in the name of a structured field is found out only now. -/
  starred : ∀ text, node.predicate.starredText = some text → ∀ modifier truth requested,
    (node.put modifier truth).compile mailbox settings requested = .error (.misplacedWildcard text)
  others : node.predicate.starredText = none → ∀ modifier truth requested fault,
    (node.put modifier truth).compile mailbox settings requested = .error fault → fault.OfMailbox

theorem Searcher.fails_late (searcher : Searcher) {field value : String} {node : Node}
    (h : searcher.node field value = some (.ok node)) (hme : ∀ fields, node.predicate ≠ .me fields)
    (mailbox : Mailbox) (settings : Settings) : node.FailsLate mailbox settings := by
  obtain ⟨name, -, hread⟩ := Option.map_eq_some_iff.1 h
  have hchecked := SearchField.isChecked_of_read hread
  constructor
  · intro text hstar modifier truth requested
    exact Predicate.compile_of_starredText hchecked hstar
  · intro hstar modifier truth requested fault hfault
    exact Predicate.ofMailbox_of_compile hchecked hme hstar hfault

/-- A folder that is not there is missed only when the question is compiled. -/
theorem missing_folder_fails_late :
    let searcher : Searcher := ⟨⟨List.replicate 32 0, rfl⟩, .standard ⟨0, 0⟩⟩
    let mailbox := Mailbox.new searcher.account ""
    let node : Node := .ofPredicate (.folder (.path "Inbox/Old") false)
    searcher.node "in" "Inbox/Old " = some (.ok node) ∧
      (∀ fields, node.predicate ≠ .me fields) ∧
      node.compile mailbox searcher.settings true =
        .error (.notFound (.folderPath "/Inbox/Old")) ∧
      node.FailsLate mailbox searcher.settings := by
  intro searcher mailbox node
  have hnode : searcher.node "in" "Inbox/Old " = some (.ok node) := by decide +kernel
  have hme : ∀ fields, node.predicate ≠ .me fields := by
    intro fields h
    cases h
  have hplace : mailbox.placeOfPath searcher.settings.mountpointLimit "Inbox/Old" =
      .error (.notFound (.folderPath "/Inbox/Old")) := by decide +kernel
  have hcompile : node.compile mailbox searcher.settings true =
      .error (.notFound (.folderPath "/Inbox/Old")) := by
    simp only [node, Node.ofPredicate, Node.compile, Predicate.compile, Mailbox.compileFolder, hplace]
    rfl
  exact ⟨hnode, hme, hcompile, searcher.fails_late hnode hme mailbox searcher.settings⟩

/-- The star in the name is found out when the name is searched with the value. -/
theorem starred_name_fails_late :
    let searcher : Searcher := ⟨⟨List.replicate 32 0, rfl⟩, .standard ⟨0, 0⟩⟩
    let mailbox := Mailbox.new searcher.account ""
    let node : Node := .ofPredicate (.structured "a*b" "x")
    mailbox.Acyclic ∧ searcher.node "#a*b" "x" = some (.ok node) ∧
      (∀ fields, node.predicate ≠ .me fields) ∧
      node.compile mailbox searcher.settings true = .error (.misplacedWildcard "a*b:x") ∧
      ¬ (Fault.misplacedWildcard "a*b:x").OfMailbox := by
  intro searcher mailbox node
  have hacyclic : mailbox.Acyclic := Mailbox.acyclic_of_all (by decide +kernel)
  have hnode : searcher.node "#a*b" "x" = some (.ok node) := by decide +kernel
  have hsplit : splitWildcard "x" = .ok ⟨"x", false⟩ := by decide +kernel
  have hchecked : node.predicate.IsChecked := Predicate.isChecked_of_split hsplit rfl
  have hstar : node.predicate.starredText = some "a*b:x" := by decide +kernel
  have hcompile : node.compile mailbox searcher.settings true =
      .error (.misplacedWildcard "a*b:x") := Predicate.compile_of_starredText hchecked hstar
  refine ⟨hacyclic, hnode, ?_, hcompile, ?_⟩
  · intro fields h
    cases h
  · intro h
    cases h

end Sift
