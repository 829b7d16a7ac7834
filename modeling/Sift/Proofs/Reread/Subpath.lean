/-
  Sift.Proofs.Reread.Subpath — the path beneath a folder, when a search for the folder by its id is
  written and read again.

  The id always comes back, for whoever reads it, since its account is written with it
  (`ofFolderId_path`). Of the path, the blanks at the end are lost, and then any slashes before those:
  a reader trims the blanks of a value first and the slashes of the path second, so a path may end in
  a blank when it is read for the first time (`5/Work /`) and not when it is read again.

  - `folderId_rereads`: what is read again, and that it is the same question just when the path does
    not end in a blank.
  - `folderPath_shortened`: a folder `Work ` that becomes `Work`.
-/

import Sift.Proofs.Reread.Item

namespace Sift.Predicate

/-- The question that is written for a folder by its id and a path. -/
def idQuestion (item : ItemId) (path : String) (deep : Bool) : Question :=
  ⟨.plain, folderSearchName true deep, item.text ++ "/" ++ path⟩

theorem ofText_folderId (item : ItemId) (path : String) (deep : Bool) :
    Question.ofText (folder (.id item (some path)) deep).write = some (idQuestion item path deep) := by
  have hfield : IsFieldName (folderSearchName true deep) := by
    cases deep <;> decide
  have hwrite : (folder (.id item (some path)) deep).write =
      Modifier.plain.sign ++ (folderSearchName true deep ++ ":" ++
        Text.quote (item.text ++ "/" ++ path)) := by
    rw [Modifier.sign, String.empty_append, write, written, FolderTarget.written]
  rw [hwrite]
  exact Question.ofText_written .plain hfield (Question.valueOf_quote (item.text ++ "/" ++ path))

/-- Whoever put the question and whoever reads it again. -/
theorem folderId_rereads {own : AccountId} {deep : Bool} {value path : String} {item : ItemId}
    (h : ofFolderId own deep value = .ok (.folder (.id item (some path)) deep)) (other : AccountId) :
    ∃ question, Question.ofText (folder (.id item (some path)) deep).write = some question ∧
      question.field = folderSearchName true deep ∧
      ofFolderId other deep question.value =
        .ok (.folder (.id item (subpathOf (Text.trimEnd path).toList)) deep) ∧
      (ofFolderId other deep question.value = ofFolderId own deep value ↔
        ∀ c ∈ path.toList.getLast?, Text.isBlank c = false) := by
  obtain ⟨_, _, heq, hfits, hpath⟩ := ofFolderId_cases h
  cases heq
  have hread := ofFolderId_path other deep hfits path
  refine ⟨idQuestion item path deep, ofText_folderId item path deep, rfl, hread, ?_⟩
  rw [idQuestion, hread, h, ← subpathOf_trimEnd_iff (hpath path rfl)]
  simp only [Except.ok.injEq, Predicate.folder.injEq, FolderTarget.id.injEq, true_and, and_true]

/-- For another reader: the blank before the name is kept, those after the last slash are gone. -/
theorem nested_folder_rereads :
    let own : AccountId := ⟨List.replicate 32 0, rfl⟩
    let other : AccountId := ⟨List.replicate 32 15, rfl⟩
    let target : FolderTarget := .id ⟨own, 257⟩ (some " Big Projects/2024")
    ofFolderId own true " 257// Big Projects/2024/ " = .ok (.folder target true) ∧
      (∀ c ∈ " Big Projects/2024".toList.getLast?, Text.isBlank c = false) ∧
      ∃ question, Question.ofText (folder target true).write = some question ∧
        ofFolderId other true question.value = .ok (.folder target true) := by
  intro own other target
  have hvalue : ofFolderId own true " 257// Big Projects/2024/ " = .ok (.folder target true) := by
    decide +kernel
  have hlast : ∀ c ∈ " Big Projects/2024".toList.getLast?, Text.isBlank c = false := by
    have hend : " Big Projects/2024".toList.getLast? = some '4' := by decide +kernel
    intro c hc
    rw [hend] at hc
    cases hc
    decide
  obtain ⟨question, htext, -, -, hsame⟩ := folderId_rereads hvalue other
  exact ⟨hvalue, hlast, question, htext, (hsame.2 hlast).trans hvalue⟩

/-- The slash that kept the blank in the path is not written. -/
theorem folderPath_shortened :
    let own : AccountId := ⟨List.replicate 32 0, rfl⟩
    let question := idQuestion ⟨own, 5⟩ "Work " false
    ofFolderId own false "5/Work /" = .ok (.folder (.id ⟨own, 5⟩ (some "Work ")) false) ∧
      Question.ofText (folder (.id ⟨own, 5⟩ (some "Work ")) false).write = some question ∧
      ofFolderId own false question.value = .ok (.folder (.id ⟨own, 5⟩ (some "Work")) false) := by
  intro own question
  exact ⟨by decide +kernel, ofText_folderId ⟨own, 5⟩ "Work " false, by decide +kernel⟩

end Sift.Predicate
