/-
  Sift.Proofs.Folder.Addition — searches for one folder, in a mailbox that another folder is added to.

  A folder whose id is above all others comes last wherever folders are looked through by id, so it is
  found only where nothing was found before (`Extends`). It can take up names of a path that were left
  over. But a search that finds a place has names left only beneath a mountpoint, and no folder beneath
  a mountpoint is looked up there (`IsSettled`).

  - `extends_putBeneath`: whatever was found by its id or its name is found still.
  - `Walk.extends`: a walk that ends well goes the same way.
  - `compile_folder_kept`: so a question about one folder compiles to what it compiled to.
-/

import Sift.Predicate.Compile
import Sift.Proofs.Folder.Target
import Sift.Proofs.Mailbox.Growth

namespace Sift

/-! ## The end of a table -/

theorem putFolder_of_above {folder : Folder} {fs : List Folder} (h : ∀ f ∈ fs, f.id < folder.id) :
    putFolder folder fs = fs ++ [folder] := by
  have happend := putFolder_append h []
  rwa [List.append_nil] at happend

namespace Mailbox

variable {old new : Mailbox} {limit : Nat}

/-- Whatever is looked up in the first mailbox and found is found in the second, and is the same. -/
structure Extends (old new : Mailbox) : Prop where
  account : new.account = old.account
  byId : ∀ id f, old.folderById id = .ok f → new.folderById id = .ok f
  byName : ∀ id name f, old.childNamed id name = some f → new.childNamed id name = some f

theorem extends_putBeneath {id : FolderId} (hnew : ∀ f ∈ old.folders, f.id < id) (parent : Folder)
    (name : String) (kind : FolderKind) : old.Extends (old.putBeneath parent id name kind) := by
  have hfolders : (old.putBeneath parent id name kind).folders =
      old.folders ++ [⟨id, some parent.id, name, pathBeneath parent.path name, kind⟩] :=
    putFolder_of_above hnew
  refine ⟨rfl, fun known f hf => ?_, fun known called f hf => ?_⟩
  · obtain ⟨hmem, rfl⟩ := folderById_mem hf
    apply folderById_id
    rw [hfolders]
    exact List.mem_append_left _ hmem
  · unfold childNamed at hf ⊢
    rw [hfolders, List.find?_append, hf]
    rfl

/-! ## Along a path -/

/-- No names are left, or they are left at a mountpoint. -/
def IsSettled (stop : Stop) : Prop := stop.2 = none ∨ stop.1.isMountpoint = true

theorem Extends.descend (h : old.Extends new) {folder last : Folder} {names left : List String}
    (hdescend : old.descend folder names = (last, left))
    (hleft : left = [] ∨ last.isMountpoint = true) : new.descend folder names = (last, left) := by
  induction names generalizing folder with
  | nil => exact hdescend
  | cons name names ih =>
    rw [Mailbox.descend] at hdescend ⊢
    split at hdescend
    · next hmount => rw [if_pos hmount, hdescend]
    · next hplain =>
      rw [if_neg hplain]
      cases hchild : old.childNamed folder.id name with
      | some child =>
        simp only [hchild] at hdescend
        simp only [h.byName folder.id name child hchild]
        exact ih hdescend
      | none =>
        -- The walk was held up at a folder that is no mountpoint, where a new one may have the name.
        simp only [hchild] at hdescend
        cases hdescend
        rcases hleft with hnil | hmount
        · cases hnil
        · exact absurd hmount hplain

theorem Extends.follow (h : old.Extends new) {start : FolderId} {path : Option String} {stop : Stop}
    (hfollow : old.follow start path = .ok stop) (hstop : IsSettled stop) :
    new.follow start path = .ok stop := by
  rw [follow_eq] at hfollow ⊢
  obtain ⟨first, hfirst, rfl⟩ := exists_of_map hfollow
  rw [h.byId start first hfirst]
  have hleft := hstop.imp_left joinNames_eq_none_iff.1
  simp only [Except.map, h.descend rfl hleft]

/-! ## Through mountpoints -/

theorem Extends.ownTarget (h : old.Extends new) (folder : Folder) :
    new.ownTarget folder = old.ownTarget folder := by
  simp only [Mailbox.ownTarget, h.account]

theorem isMountpoint_of_ownTarget {mailbox : Mailbox} {folder : Folder} {target : FolderId}
    (h : mailbox.ownTarget folder = some target) : folder.isMountpoint = true := by
  unfold Mailbox.ownTarget at h
  cases hkind : folder.kind with
  | mountpoint owner aim => simp [Folder.isMountpoint, hkind]
  | regular | search =>
    rw [hkind] at h
    cases h

/-- Every stop on the way is settled too: a walk goes on from mountpoints only. -/
theorem Walk.extends {start stop : Stop} {passed : List FolderId} (hwalk : old.Walk start passed stop)
    (h : old.Extends new) (hstop : IsSettled stop) :
    new.Walk start passed stop ∧ IsSettled start := by
  induction hwalk with
  | here stop => exact ⟨.here stop, hstop⟩
  | pass htarget hfollow _ ih =>
    obtain ⟨hwalk, hnext⟩ := ih hstop
    have htarget' := (h.ownTarget _).trans htarget
    exact ⟨.pass htarget' (h.follow hfollow hnext) hwalk, .inr (isMountpoint_of_ownTarget htarget)⟩

theorem isSettled_of_arrival {stop : Stop} {place : Place} (h : arrival stop = .ok place) :
    IsSettled stop := by
  cases place with
  | own folder =>
    obtain ⟨rfl, -⟩ := arrival_eq_own h
    exact .inl rfl
  | foreign owner folder rest =>
    obtain ⟨hkind, -⟩ := arrival_eq_foreign h
    exact .inr (by simp [Folder.isMountpoint, hkind])

theorem Extends.placeOf (h : old.Extends new) {start : Stop} {place : Place}
    (hplace : old.placeOf limit start.1 start.2 = .ok place) :
    new.placeOf limit start.1 start.2 = .ok place ∧ IsSettled start := by
  obtain ⟨passed, stop, hwalk, hnodup, hlength, htarget, harrival⟩ := exists_walk_of_placeOf hplace
  obtain ⟨hwalk', hstart⟩ := hwalk.extends h (isSettled_of_arrival harrival)
  refine ⟨placeOf_eq_iff.2 ⟨passed, stop, hwalk', hnodup, hlength, ?_⟩, hstart⟩
  rw [← harrival]
  exact .arrived ((h.ownTarget stop.1).trans htarget)

theorem Extends.placeFrom (h : old.Extends new) {start : FolderId} {path : Option String}
    {place : Place}
    (hplace : (old.follow start path >>= fun next => old.placeOf limit next.1 next.2) = .ok place) :
    (new.follow start path >>= fun next => new.placeOf limit next.1 next.2) = .ok place := by
  obtain ⟨next, hnext, hplace⟩ := exists_of_bind hplace
  obtain ⟨hplace', hsettled⟩ := h.placeOf hplace
  rw [h.follow hnext hsettled]
  exact hplace'

theorem Extends.placeOfPath (h : old.Extends new) {path : String} {place : Place}
    (hplace : old.placeOfPath limit path = .ok place) : new.placeOfPath limit path = .ok place := by
  unfold Mailbox.placeOfPath at hplace ⊢
  cases hsystem : systemFolder path with
  | some id =>
    simp only [hsystem] at hplace ⊢
    exact h.placeFrom hplace
  | none =>
    simp only [hsystem, folderByPath_eq_follow] at hplace ⊢
    exact h.placeFrom hplace

theorem Extends.placeOfId (h : old.Extends new) {item : ItemId} {subpath : Option String}
    {place : Place} (hplace : old.placeOfId limit item subpath = .ok place) :
    new.placeOfId limit item subpath = .ok place := by
  unfold Mailbox.placeOfId at hplace ⊢
  rw [h.account]
  split
  · next hown =>
    rw [if_pos hown] at hplace
    exact h.placeFrom hplace
  · next hown =>
    rw [if_neg hown] at hplace
    exact hplace

/-! ## Questions -/

theorem Extends.compileFolder (h : old.Extends new) {target : FolderTarget} {truth : Bool}
    {operation : Operation} (htarget : target.IsLocality = false)
    (hcompile : old.compileFolder limit false truth target = .ok operation) :
    new.compileFolder limit false truth target = .ok operation := by
  have hplaces : new.compilePlace false truth = old.compilePlace false truth := by
    funext place
    cases place <;> rfl
  cases target with
  | locality l => cases htarget
  | path path =>
    obtain ⟨place, hplace, hoperation⟩ := exists_of_bind hcompile
    rw [Mailbox.compileFolder, h.placeOfPath hplace, hplaces]
    exact hoperation
  | id item subpath =>
    obtain ⟨place, hplace, hoperation⟩ := exists_of_bind hcompile
    rw [Mailbox.compileFolder, h.placeOfId hplace, hplaces]
    exact hoperation

/-- The new folder may have the name of another, and lie beneath a mountpoint or on the path. -/
theorem compile_folder_kept {entry : FolderEntry} (hparent : old.Has entry.parent)
    (hnew : ∀ f ∈ old.folders, f.id < entry.id) :
    ∃ new, old.addFolder entry.parent entry.id entry.name entry.kind = .ok new ∧
      ∀ (settings : Settings) (target : FolderTarget) (truth : Bool) (operation : Operation),
        target.IsLocality = false →
        (Predicate.folder target false).compile old settings truth = .ok operation →
        (Predicate.folder target false).compile new settings truth = .ok operation := by
  obtain ⟨parent, hmem, hid⟩ := hparent
  refine ⟨old.putBeneath parent entry.id entry.name entry.kind, ?_, ?_⟩
  · rw [← hid]
    exact addFolder_eq_ok (folderById_id hmem)
  · intro settings target truth operation htarget hcompile
    exact (extends_putBeneath hnew parent entry.name entry.kind).compileFolder htarget hcompile

/-- A second folder by the name of the one that a path leads to, beneath what the mountpoint on that path
    stands for. -/
theorem second_folder_kept :
    let account : AccountId := ⟨List.replicate 32 0, rfl⟩
    let work : Folder := ⟨257, some rootId, "Work", "/Work", .regular⟩
    let reports : Folder := ⟨258, some 257, "Reports", "/Work/Reports", .regular⟩
    let shared : Folder := ⟨300, some rootId, "Shared", "/Shared", .mountpoint account 257⟩
    let mailbox : Mailbox := ⟨account, "", [], ⟨[root, work, reports, shared], by decide⟩, []⟩
    let entry : FolderEntry := ⟨301, 257, "REPORTS", .mountpoint account rootId⟩
    let question := Predicate.folder (.path "/shared/reports") false
    mailbox.Has entry.parent ∧ (∀ f ∈ mailbox.folders, f.id < entry.id) ∧
      question.compile mailbox (.standard ⟨0, 0⟩) false = .ok (.db (.inFolder 258) false) ∧
      ∃ grown, mailbox.addFolder entry.parent entry.id entry.name entry.kind = .ok grown ∧
        question.compile grown (.standard ⟨0, 0⟩) false = .ok (.db (.inFolder 258) false) := by
  intro account work reports shared mailbox entry question
  have hparent : mailbox.Has entry.parent := ⟨work, by simp [mailbox, folders], rfl⟩
  have hnew : ∀ f ∈ mailbox.folders, f.id < entry.id := by decide
  have hplace : mailbox.placeOfPath 16 "/shared/reports" = .ok (.own reports) := by decide +kernel
  have hcompile : question.compile mailbox (.standard ⟨0, 0⟩) false =
      .ok (.db (.inFolder 258) false) := by
    show (mailbox.placeOfPath 16 "/shared/reports").bind (mailbox.compilePlace false false) = _
    rw [hplace]
    rfl
  obtain ⟨grown, hgrown, hkept⟩ := compile_folder_kept hparent hnew
  exact ⟨hparent, hnew, hcompile, grown, hgrown, hkept _ _ _ _ rfl hcompile⟩

end Mailbox

end Sift
