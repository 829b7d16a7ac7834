/-
  Sift.Proofs.Mailbox.OwnPath — the path that a folder is stored with leads to the folder.

  The path is made when the folder is added, from the path of its parent; a lookup goes by names and by
  the links from folders to their parents. The two meet where every folder that was added had an id of
  its own (`IsFresh`), so that none was put in the place of another.

  - `Grown.placed`: then every folder stands beneath the root in a line of parents, each of which has
    the path that the next one's was made from (`Placed`).
  - `Placed.descend`: the names in that path lead down the line, as long as each name can stand in a
    path and means no other folder beside it (`StandsApart`), and no mountpoint is on the way.
  - `folderByPath_path`: so looking up a folder's own path finds it.
-/

import Sift.Proofs.Mailbox.Growth
import Sift.Proofs.Mailbox.Path

namespace Sift.Mailbox

variable {mailbox : Mailbox}

/-! ## Names in a stored path -/

theorem pathNames_root : pathNames root.path = [] := by decide +kernel

theorem pathNames_pathBeneath {name : String} (h : IsPathName name) (path : String) :
    pathNames (pathBeneath path name) = pathNames path ++ [name] := by
  unfold pathBeneath
  split
  · next hroot =>
    have hname : "/" ++ name = "" ++ "/" ++ name := by rw [String.empty_append]
    rw [hroot, hname, pathNames_slash, pathNames_of_isPathName h]
    exact congrArg (· ++ [name]) pathNames_root.symm
  · rw [pathNames_slash, pathNames_of_isPathName h]

/-! ## Folders that were never put in the place of another -/

/-- No folder has the id. -/
def IsFresh (mailbox : Mailbox) (entry : FolderEntry) : Prop :=
  ∀ f ∈ mailbox.folders, f.id ≠ entry.id

instance (mailbox : Mailbox) (entry : FolderEntry) : Decidable (mailbox.IsFresh entry) :=
  inferInstanceAs (Decidable (∀ f ∈ mailbox.folders, f.id ≠ entry.id))

/-- The folder is the root, or lies beneath a parent that is placed, and its path was made from the
    parent's. -/
inductive Placed (mailbox : Mailbox) : Folder → Prop
  | top : root ∈ mailbox.folders → Placed mailbox root
  | beneath {parent f : Folder} : Placed mailbox parent → f ∈ mailbox.folders →
      f.parent = some parent.id → f.path = pathBeneath parent.path f.name → Placed mailbox f

theorem Placed.mem {f : Folder} (h : mailbox.Placed f) : f ∈ mailbox.folders := by
  cases h with
  | top hmem => exact hmem
  | beneath _ hmem _ _ => exact hmem

theorem Placed.putBeneath {f : Folder} (h : mailbox.Placed f) {id : FolderId}
    (hfresh : ∀ g ∈ mailbox.folders, g.id ≠ id) (parent : Folder) (name : String)
    (kind : FolderKind) : (mailbox.putBeneath parent id name kind).Placed f := by
  have hkeep : ∀ g ∈ mailbox.folders, g ∈ (mailbox.putBeneath parent id name kind).folders :=
    fun g hg => mem_putBeneath_iff.2 (.inr ⟨hg, hfresh g hg⟩)
  induction h with
  | top hmem => exact .top (hkeep _ hmem)
  | beneath _ hmem hparent hpath ih => exact .beneath ih (hkeep _ hmem) hparent hpath

theorem Grown.placed (h : Grown IsFresh mailbox) : ∀ f ∈ mailbox.folders, mailbox.Placed f := by
  induction h with
  | new account accountName =>
    have hroot := root_mem_new account accountName
    intro f hf
    rw [folders_new] at hf
    rcases List.mem_cons.1 hf with rfl | hsystem
    · exact .top hroot
    · obtain ⟨known, -, rfl⟩ := List.mem_map.1 hsystem
      refine .beneath (.top hroot) ?_ rfl rfl
      rw [folders_new]
      exact List.mem_cons_of_mem _ hsystem
  | @addFolder mailbox _ entry _ hfresh hadd ih =>
    obtain ⟨parent, hparent, hk⟩ := exists_of_bind hadd
    cases hk
    have hkeep : ∀ g ∈ mailbox.folders,
        (mailbox.putBeneath parent entry.id entry.name entry.kind).Placed g :=
      fun g hg => (ih g hg).putBeneath hfresh parent entry.name entry.kind
    intro f hf
    rcases mem_putBeneath_iff.1 hf with rfl | ⟨hf, -⟩
    · exact .beneath (hkeep parent (folderById_mem hparent).1) (mem_putBeneath_iff.2 (.inl rfl)) rfl rfl
    · exact hkeep f hf
  | addAlias _ name ih | addTag _ id name ih =>
    intro f hf
    have hplaced := ih f hf
    clear hf
    induction hplaced with
    | top hmem => exact .top hmem
    | beneath _ hmem hparent hpath ih => exact .beneath ih hmem hparent hpath

/-! ## Down the line of parents -/

/-- The name can stand in a path, and is not the name of another folder beside it. -/
structure StandsApart (mailbox : Mailbox) (f : Folder) : Prop where
  name : IsPathName f.name
  apart : ∀ g ∈ mailbox.folders, g.parent = f.parent → Text.sameAscii g.name f.name = true → g = f

theorem StandsApart.childNamed {f : Folder} {id : FolderId} (h : mailbox.StandsApart f)
    (hmem : f ∈ mailbox.folders) (hparent : f.parent = some id) :
    mailbox.childNamed id f.name = some f := by
  cases hchild : mailbox.childNamed id f.name with
  | none =>
    have hnone := childNamed_eq_none_iff.1 hchild f hmem hparent
    simp [Text.sameAscii] at hnone
  | some g =>
    have hg := List.find?_some hchild
    simp only [Bool.and_eq_true, beq_iff_eq] at hg
    rw [h.apart g (childNamed_mem hchild) (hg.1.trans hparent.symm) hg.2]

/-- The induction is on the line from the root; what is asked of a folder's ancestors is asked of its
    parent's too. -/
theorem Placed.descend {f : Folder} (h : mailbox.Placed f)
    (hapart : ∀ g, mailbox.Within g.id f → g ∈ mailbox.folders → g.id ≠ rootId →
      mailbox.StandsApart g)
    (hplain : ∀ g ∈ mailbox.folders, mailbox.Beneath g.id f → g.isMountpoint = false) :
    root ∈ mailbox.folders ∧ mailbox.descend root (pathNames f.path) = (f, []) := by
  induction h with
  | top hmem => exact ⟨hmem, by rw [pathNames_root]; rfl⟩
  | @beneath parent f hup hmem hparent hpath ih =>
    have hbeneath : mailbox.Beneath parent.id f := .child hmem hparent
    have hwithin : ∀ g : Folder, mailbox.Within g.id parent → mailbox.Beneath g.id f :=
      fun g hg => hg.trans_beneath hbeneath
    obtain ⟨hroot, hdescend⟩ := ih (fun g hg hgmem => hapart g (.inr (hwithin g hg)) hgmem)
      (fun g hg hgup => hplain g hg (hwithin g (.inr hgup)))
    have hid : f.id ≠ rootId := by
      intro hid
      rw [eq_of_id_eq hmem hroot hid] at hparent
      cases hparent
    have hf := hapart f (within_id hmem) hmem hid
    refine ⟨hroot, ?_⟩
    rw [hpath, pathNames_pathBeneath hf.name, descend_append, hdescend, if_pos rfl, Mailbox.descend,
      if_neg (by simp [hplain parent hup.mem hbeneath])]
    simp only [hf.childNamed hmem hparent]
    rfl

theorem folderByPath_path (h : Grown IsFresh mailbox) {f : Folder} (hf : f ∈ mailbox.folders)
    (hapart : ∀ g, mailbox.Within g.id f → g ∈ mailbox.folders → g.id ≠ rootId →
      mailbox.StandsApart g)
    (hplain : ∀ g ∈ mailbox.folders, mailbox.Beneath g.id f → g.isMountpoint = false) :
    mailbox.folderByPath rootId f.path = .ok (f, none) := by
  obtain ⟨hroot, hdescend⟩ := (h.placed f hf).descend hapart hplain
  have hfound := folderByPath_of_mem hroot f.path
  rw [hdescend] at hfound
  exact hfound

/-- A mountpoint beneath a folder that has a namesake in another place. -/
theorem partner_found_by_path :
    let account : AccountId := ⟨List.replicate 32 0, rfl⟩
    let other : AccountId := ⟨List.replicate 32 15, rfl⟩
    let work : Folder := ⟨257, some rootId, "Work", "/Work", .regular⟩
    let namesake : Folder := ⟨258, some inboxId, "WORK", "/Inbox/WORK", .regular⟩
    let partner : Folder := ⟨300, some 257, "Our Partner", "/Work/Our Partner", .mountpoint other 55⟩
    let mailbox := { Mailbox.new account "" with
      table := (((Mailbox.new account "").table.put work).put namesake).put partner }
    Grown IsFresh mailbox ∧ partner ∈ mailbox.folders ∧
      (∀ g, mailbox.Within g.id partner → g ∈ mailbox.folders → g.id ≠ rootId →
        mailbox.StandsApart g) ∧
      (∀ g ∈ mailbox.folders, mailbox.Beneath g.id partner → g.isMountpoint = false) ∧
      mailbox.folderByPath rootId partner.path = .ok (partner, none) := by
  intro account other work namesake partner mailbox
  have hgrown : Grown IsFresh mailbox := by
    have hwork := (Grown.new account "").addFolder
      (show IsFresh _ ⟨257, rootId, "Work", .regular⟩ by decide) rfl
    have hnamesake := hwork.addFolder
      (show IsFresh _ ⟨258, inboxId, "WORK", .regular⟩ by decide) rfl
    have hpartner := hnamesake.addFolder
      (show IsFresh _ ⟨300, 257, "Our Partner", .mountpoint other 55⟩ by decide) rfl
    exact hpartner
  have hmem : partner ∈ mailbox.folders := by decide
  have hapart : ∀ g ∈ mailbox.folders, g.id ≠ rootId → (g.name.toList ≠ [] ∧ '/' ∉ g.name.toList) ∧
      ∀ k ∈ mailbox.folders, k.parent = g.parent → Text.sameAscii k.name g.name = true → k = g := by
    decide +kernel
  have hacyclic : mailbox.Acyclic := acyclic_of_all (by decide)
  have habove : ∀ g ∈ mailbox.folders, partner ∈ mailbox.beneath mailbox.folders.length g.id →
      g.isMountpoint = false := by
    decide +kernel
  have hstands : ∀ g, mailbox.Within g.id partner → g ∈ mailbox.folders → g.id ≠ rootId →
      mailbox.StandsApart g := by
    intro g _ hg hid
    obtain ⟨⟨hne, hslash⟩, hother⟩ := hapart g hg hid
    exact ⟨⟨hne, hslash⟩, hother⟩
  have hopen : ∀ g ∈ mailbox.folders, mailbox.Beneath g.id partner → g.isMountpoint = false :=
    fun g hg hbeneath => habove g hg ((mem_beneath_iff hacyclic).2 hbeneath)
  exact ⟨hgrown, hmem, hstands, hopen, folderByPath_path hgrown hmem hstands hopen⟩

end Sift.Mailbox
