/-
  Sift.Proofs.Mailbox.Fault — what questions about folders and tags fail with.

  A folder or a tag may be missing, mountpoints may lead in a circle or too far, and one into the same
  mailbox may lie in a subtree (`Fault.OfMailbox`). Whatever a question is looked up or compiled from,
  nothing else goes wrong: `ofMailbox_of_tagId` and `ofMailbox_of_compileFolder`.
-/

import Sift.Proofs.Folder.Subfolders

namespace Sift

/-- What only the folders and tags of a mailbox can be wrong with. -/
inductive Fault.OfMailbox : Fault → Prop
  | notFound (missing : Reference) : OfMailbox (.notFound missing)
  | mountpointCycle (folder : FolderId) : OfMailbox (.mountpointCycle folder)
  | mountpointTooDeep (limit : Nat) : OfMailbox (.mountpointTooDeep limit)
  | nestedLocalMountpoint (folder : FolderId) : OfMailbox (.nestedLocalMountpoint folder)

namespace Mailbox

variable {mailbox : Mailbox} {limit : Nat} {fault : Fault}

/-! ## Looking up -/

theorem ofMailbox_of_folderById {id : FolderId} (h : mailbox.folderById id = .error fault) :
    fault.OfMailbox := by
  rw [folderById_error h]
  exact .notFound _

theorem ofMailbox_of_follow {start : FolderId} {path : Option String}
    (h : mailbox.follow start path = .error fault) : fault.OfMailbox := by
  rw [follow_error h]
  exact .notFound _

theorem ofMailbox_of_placeOf {folder : Folder} {rest : Option String}
    (h : mailbox.placeOf limit folder rest = .error fault) : fault.OfMailbox := by
  obtain ⟨passed, stop, -, -, -, hends⟩ := placeOf_eq_iff.1 h
  generalize ha : (Except.error fault : Except Fault Place) = answer at hends
  cases hends with
  | arrived =>
    obtain ⟨path, rfl⟩ := arrival_eq_error ha.symm
    exact .notFound _
  | cycle =>
    cases ha
    exact .mountpointCycle _
  | tooDeep =>
    cases ha
    exact .mountpointTooDeep _
  | lost _ _ _ hfollow =>
    cases ha
    exact ofMailbox_of_follow hfollow

theorem ofMailbox_of_place {start : FolderId} {path : Option String}
    (h : (mailbox.follow start path >>= fun next => mailbox.placeOf limit next.1 next.2) =
      .error fault) : fault.OfMailbox := by
  rcases error_of_bind h with h | ⟨next, -, h⟩
  · exact ofMailbox_of_follow h
  · exact ofMailbox_of_placeOf h

theorem ofMailbox_of_placeOfPath {path : String}
    (h : mailbox.placeOfPath limit path = .error fault) : fault.OfMailbox := by
  unfold placeOfPath at h
  split at h
  · exact ofMailbox_of_place h
  · rw [folderByPath_eq_follow] at h
    exact ofMailbox_of_place h

theorem ofMailbox_of_placeOfId {item : ItemId} {subpath : Option String}
    (h : mailbox.placeOfId limit item subpath = .error fault) : fault.OfMailbox := by
  unfold placeOfId at h
  split at h
  · exact ofMailbox_of_place h
  · cases h

theorem ofMailbox_of_tagId {target : TagTarget} (h : mailbox.tagId target = .error fault) :
    fault.OfMailbox := by
  cases target with
  | flag flag => cases h
  | named name =>
    rcases error_of_bind h with h | ⟨tag, -, h⟩
    · unfold tagByName at h
      split at h <;> cases h
      exact .notFound _
    · cases h

theorem ofMailbox_of_hierarchy {id : FolderId} (h : mailbox.hierarchy id = .error fault) :
    fault.OfMailbox := by
  rcases error_of_bind h with h | ⟨folder, -, h⟩
  · exact ofMailbox_of_folderById h
  · cases h

/-! ## Compiling -/

theorem ofMailbox_of_compileSubtree {id : FolderId} {truth : Bool}
    (h : mailbox.compileSubtree id truth = .error fault) : fault.OfMailbox := by
  rcases error_of_bind h with h | ⟨folders, -, h⟩
  · exact ofMailbox_of_hierarchy h
  rcases error_of_bind h with h | ⟨constraints, -, h⟩
  · obtain ⟨folder, -, hfolder⟩ := error_of_mapM h
    rw [subtreeConstraint_eq] at hfolder
    split at hfolder <;> cases hfolder
    exact .nestedLocalMountpoint _
  · cases h

theorem ofMailbox_of_compileLocality {withSubfolders truth : Bool} {l : Locality}
    (h : mailbox.compileLocality withSubfolders l truth = .error fault) : fault.OfMailbox := by
  have hown : mailbox.compileOwn = .error fault → fault.OfMailbox := by
    intro h
    rcases error_of_bind h with h | ⟨folders, -, h⟩
    · rcases error_of_bind h with h | ⟨trash, -, h⟩
      · exact ofMailbox_of_hierarchy h
      rcases error_of_bind h with h | ⟨all, -, h⟩
      · exact ofMailbox_of_hierarchy h
      · cases h
    · cases h
  have hforeign : mailbox.compileForeign withSubfolders = .error fault → fault.OfMailbox := by
    intro h
    rcases error_of_bind h with h | ⟨targets, -, h⟩
    · rcases error_of_bind h with h | ⟨all, -, h⟩
      · exact ofMailbox_of_hierarchy h
      · cases h
    · cases h
  cases l <;> cases truth
  case own.true | foreign.false => exact hown h
  case own.false | foreign.true => exact hforeign h
  all_goals cases h

theorem ofMailbox_of_compilePlace {withSubfolders truth : Bool} {place : Place}
    (h : mailbox.compilePlace withSubfolders truth place = .error fault) : fault.OfMailbox := by
  cases place with
  | foreign owner folder subpath => cases h
  | own folder =>
    cases withSubfolders with
    | true => exact ofMailbox_of_compileSubtree h
    | false => cases h

theorem ofMailbox_of_compileFolder {withSubfolders truth : Bool} {target : FolderTarget}
    (h : mailbox.compileFolder limit withSubfolders truth target = .error fault) :
    fault.OfMailbox := by
  cases target with
  | locality l => exact ofMailbox_of_compileLocality h
  | path path =>
    rcases error_of_bind h with h | ⟨place, -, h⟩
    · exact ofMailbox_of_placeOfPath h
    · exact ofMailbox_of_compilePlace h
  | id item subpath =>
    rcases error_of_bind h with h | ⟨place, -, h⟩
    · exact ofMailbox_of_placeOfId h
    · exact ofMailbox_of_compilePlace h

end Mailbox

end Sift
