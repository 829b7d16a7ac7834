/-
  Sift.Mailbox.Folder — folders, and tables of folders. A table keeps at most one folder under each
  id and lists them by ascending id; putting a folder replaces the one that has its id.
-/

import Sift.Account

namespace Sift

inductive FolderKind where
  | regular
  | search
  /-- Stands for the folder `target` in the mailbox of `owner`. -/
  | mountpoint (owner : AccountId) (target : FolderId)
  deriving DecidableEq

structure Folder where
  id : FolderId
  /-- The root alone has none. -/
  parent : Option FolderId
  name : String
  path : String
  kind : FolderKind
  deriving DecidableEq

def Folder.isMountpoint (folder : Folder) : Bool :=
  match folder.kind with
  | .mountpoint .. => true
  | .regular | .search => false

/-! ## Folders that every mailbox has -/

def rootId : FolderId := 1

def inboxId : FolderId := 2

def trashId : FolderId := 3

def junkId : FolderId := 4

def sentId : FolderId := 5

def draftsId : FolderId := 6

def contactsId : FolderId := 7

def systemFolders : List (FolderId × String) :=
  [(inboxId, "Inbox"), (trashId, "Trash"), (junkId, "Junk"), (sentId, "Sent"),
    (draftsId, "Drafts"), (contactsId, "Contacts")]

/-! ## Tables -/

def putFolder (folder : Folder) : List Folder → List Folder
  | [] => [folder]
  | f :: fs =>
    if folder.id < f.id then folder :: f :: fs
    else if folder.id = f.id then folder :: fs
    else f :: putFolder folder fs

theorem mem_putFolder {folder g : Folder} {fs : List Folder} (h : g ∈ putFolder folder fs) :
    g = folder ∨ g ∈ fs := by
  induction fs with
  | nil => simpa [putFolder] using h
  | cons f fs ih =>
    unfold putFolder at h
    split at h
    · simpa using h
    · split at h
      · simp only [List.mem_cons] at h ⊢
        exact h.imp_right .inr
      · simp only [List.mem_cons] at h ⊢
        rcases h with h | h
        · exact .inr (.inl h)
        · exact (ih h).imp_right .inr

theorem pairwise_putFolder (folder : Folder) {fs : List Folder}
    (h : fs.Pairwise (·.id < ·.id)) : (putFolder folder fs).Pairwise (·.id < ·.id) := by
  induction fs with
  | nil => simp [putFolder]
  | cons f fs ih =>
    rw [List.pairwise_cons] at h
    unfold putFolder
    split
    · next hlt =>
      refine List.pairwise_cons.2 ⟨fun g hg => ?_, List.pairwise_cons.2 h⟩
      rcases List.mem_cons.1 hg with rfl | hg
      · exact hlt
      · exact Int.lt_trans hlt (h.1 g hg)
    · split
      · next heq => exact List.pairwise_cons.2 ⟨fun g hg => heq ▸ h.1 g hg, h.2⟩
      · next hlt hne =>
        refine List.pairwise_cons.2 ⟨fun g hg => ?_, ih h.2⟩
        rcases mem_putFolder hg with rfl | hg
        · exact Int.lt_iff_le_and_ne.2 ⟨Int.not_lt.1 hlt, Ne.symm hne⟩
        · exact h.1 g hg

structure FolderTable where
  folders : List Folder
  ascending : folders.Pairwise (·.id < ·.id) := by simp

namespace FolderTable

def empty : FolderTable := { folders := [] }

def put (table : FolderTable) (folder : Folder) : FolderTable :=
  ⟨putFolder folder table.folders, pairwise_putFolder folder table.ascending⟩

def get? (table : FolderTable) (id : FolderId) : Option Folder :=
  table.folders.find? (·.id == id)

end FolderTable

end Sift
