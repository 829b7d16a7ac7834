/-
  Sift.Proofs.Mailbox.Lookup — folders that are looked up by id, by name or along a path.

  - `folderById_mem` / `descend_mem` / `follow_mem`: what is found is a folder of the mailbox.
  - `follow_error`: the folder that a path starts from is all that can be missing.
-/

import Sift.Mailbox.Tree

namespace Sift.Mailbox

variable {mailbox : Mailbox}

/-! ## By id and by name -/

theorem folderById_mem {id : FolderId} {folder : Folder} (h : mailbox.folderById id = .ok folder) :
    folder ∈ mailbox.folders ∧ folder.id = id := by
  unfold folderById FolderTable.get? at h
  split at h
  · next found hf =>
    cases h
    exact ⟨List.mem_of_find?_eq_some hf, by simpa using List.find?_some hf⟩
  · cases h

theorem folderById_error {id : FolderId} {fault : Fault} (h : mailbox.folderById id = .error fault) :
    fault = .notFound (.folderId id) := by
  unfold folderById at h
  split at h <;> cases h
  rfl

theorem childNamed_mem {id : FolderId} {name : String} {child : Folder}
    (h : mailbox.childNamed id name = some child) : child ∈ mailbox.folders :=
  List.mem_of_find?_eq_some h

/-! ## Along a path -/

theorem descend_mem {folder : Folder} (hmem : folder ∈ mailbox.folders) (names : List String) :
    (mailbox.descend folder names).1 ∈ mailbox.folders := by
  induction names generalizing folder with
  | nil => exact hmem
  | cons name names ih =>
    unfold descend
    split
    · exact hmem
    · split
      · next child hc => exact ih (childNamed_mem hc)
      · exact hmem

theorem folderByPath_eq_follow (mailbox : Mailbox) (start : FolderId) (path : String) :
    mailbox.folderByPath start path = mailbox.follow start (some path) := rfl

theorem follow_mem {start : FolderId} {path rest : Option String} {folder : Folder}
    (h : mailbox.follow start path = .ok (folder, rest)) : folder ∈ mailbox.folders := by
  cases hs : mailbox.folderById start with
  | error fault => cases path <;> simp [follow, folderByPath, hs, bind, Except.bind] at h
  | ok first =>
    have hfirst := (folderById_mem hs).1
    cases path with
    | none =>
      simp only [follow, hs, bind, Except.bind, pure, Except.pure] at h
      cases h
      exact hfirst
    | some path =>
      simp only [follow, folderByPath, hs, bind, Except.bind, pure, Except.pure] at h
      cases h
      exact descend_mem hfirst (pathNames path)

theorem follow_error {start : FolderId} {path : Option String} {fault : Fault}
    (h : mailbox.follow start path = .error fault) : fault = .notFound (.folderId start) := by
  cases hs : mailbox.folderById start with
  | ok first =>
    cases path <;> simp [follow, folderByPath, hs, bind, Except.bind, pure, Except.pure] at h
  | error found =>
    have hfound := folderById_error hs
    cases path <;> simp [follow, folderByPath, hs, bind, Except.bind] at h <;> rw [← h, hfound]

end Sift.Mailbox
