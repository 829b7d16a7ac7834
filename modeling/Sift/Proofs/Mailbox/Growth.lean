/-
  Sift.Proofs.Mailbox.Growth — mailboxes that grow from a new one by adding folders, aliases and tags.

  A folder may be given again. It then has the new name and kind, and lies beneath the new parent with
  all that is beneath it. In this way a folder can end up as its own ancestor, and the root beneath
  another folder.

  - `Grown.rooted`: no addition loses a system folder or the parent of a folder, and only the root
    lies beneath no other (`Mailbox.Rooted`).
  - `Rooted.beneath_root`: where no folder is its own ancestor, the root is as it was at the start and
    every other folder lies beneath it.
-/

import Mathlib.Data.Fintype.Card
import Mathlib.Data.Fintype.EquivFin
import Mathlib.Data.Fintype.Sets
import Sift.Proofs.Mailbox.Subtree
import Sift.Proofs.Outcome

namespace Sift

/-! ## Putting a folder into a table -/

theorem mem_putFolder_iff {folder g : Folder} {fs : List Folder} (h : fs.Pairwise (·.id < ·.id)) :
    g ∈ putFolder folder fs ↔ g = folder ∨ g ∈ fs ∧ g.id ≠ folder.id := by
  induction fs with
  | nil => simp [putFolder]
  | cons f fs ih =>
    obtain ⟨hf, hfs⟩ := List.pairwise_cons.1 h
    have habove : folder.id ≤ f.id → ∀ x ∈ fs, x.id ≠ folder.id := by
      intro hle x hx
      exact (Int.ne_of_lt (Int.lt_of_le_of_lt hle (hf x hx))).symm
    unfold putFolder
    split
    · next hlt =>
      have hkeep := habove (Int.le_of_lt hlt)
      have hne : f.id ≠ folder.id := (Int.ne_of_lt hlt).symm
      grind
    · split
      · next heq =>
        have hkeep := habove (Int.le_of_eq heq)
        grind
      · next hlt hne =>
        rw [List.mem_cons, ih hfs, List.mem_cons]
        grind

/-- A folder whose id is above those of the first folders is put among the others. -/
theorem putFolder_append {folder : Folder} {fs : List Folder} (h : ∀ f ∈ fs, f.id < folder.id)
    (gs : List Folder) : putFolder folder (fs ++ gs) = fs ++ putFolder folder gs := by
  induction fs with
  | nil => rfl
  | cons f fs ih =>
    have hlt : f.id < folder.id := h f List.mem_cons_self
    rw [List.cons_append, putFolder, if_neg (Int.lt_asymm hlt), if_neg (Int.ne_of_gt hlt),
      ih fun g hg => h g (List.mem_cons_of_mem f hg), List.cons_append]

theorem FolderTable.mem_put_iff {table : FolderTable} {folder g : Folder} :
    g ∈ (table.put folder).folders ↔ g = folder ∨ g ∈ table.folders ∧ g.id ≠ folder.id :=
  mem_putFolder_iff table.ascending

namespace Mailbox

variable {mailbox : Mailbox}

theorem mem_putBeneath_iff {parent : Folder} {id : FolderId} {name : String} {kind : FolderKind}
    {g : Folder} : g ∈ (mailbox.putBeneath parent id name kind).folders ↔
      g = ⟨id, some parent.id, name, pathBeneath parent.path name, kind⟩ ∨
        g ∈ mailbox.folders ∧ g.id ≠ id :=
  FolderTable.mem_put_iff

theorem addFolder_eq_ok {parent id : FolderId} {name : String} {kind : FolderKind} {above : Folder}
    (habove : mailbox.folderById parent = .ok above) :
    mailbox.addFolder parent id name kind = .ok (mailbox.putBeneath above id name kind) := by
  rw [addFolder, habove]
  rfl

/-! ## What additions keep -/

/-- There is a folder with that id. -/
def Has (mailbox : Mailbox) (id : FolderId) : Prop := ∃ f ∈ mailbox.folders, f.id = id

theorem Has.putBeneath {id : FolderId} (h : mailbox.Has id) (parent : Folder) (new : FolderId)
    (name : String) (kind : FolderKind) : (mailbox.putBeneath parent new name kind).Has id := by
  obtain ⟨f, hf, hid⟩ := h
  by_cases hnew : id = new
  · exact ⟨_, mem_putBeneath_iff.2 (.inl rfl), hnew.symm⟩
  · exact ⟨f, mem_putBeneath_iff.2 (.inr ⟨hf, hid ▸ hnew⟩), hid⟩

structure Rooted (mailbox : Mailbox) : Prop where
  system : ∀ id ∈ rootId :: systemFolders.map (·.1), mailbox.Has id
  parent : ∀ f ∈ mailbox.folders, ∀ p, f.parent = some p → mailbox.Has p
  orphan : ∀ f ∈ mailbox.folders, f.parent = none → f = root

theorem Rooted.putBeneath (h : mailbox.Rooted) {parent : Folder} (hparent : parent ∈ mailbox.folders)
    (id : FolderId) (name : String) (kind : FolderKind) :
    (mailbox.putBeneath parent id name kind).Rooted := by
  refine ⟨fun known hknown => (h.system known hknown).putBeneath parent id name kind,
    fun f hf p hp => ?_, fun f hf hnone => ?_⟩
  · rcases mem_putBeneath_iff.1 hf with rfl | ⟨hf, -⟩
    · cases hp
      exact Has.putBeneath ⟨parent, hparent, rfl⟩ parent id name kind
    · exact (h.parent f hf p hp).putBeneath parent id name kind
  · rcases mem_putBeneath_iff.1 hf with rfl | ⟨hf, -⟩
    · cases hnone
    · exact h.orphan f hf hnone

theorem folders_new (account : AccountId) (accountName : String) :
    (Mailbox.new account accountName).folders = root :: systemFolders.map fun known =>
      ⟨known.1, some rootId, known.2, "/" ++ known.2, .regular⟩ := rfl

theorem root_mem_new (account : AccountId) (accountName : String) :
    root ∈ (Mailbox.new account accountName).folders := by
  rw [folders_new]
  exact List.mem_cons_self

theorem rooted_new (account : AccountId) (accountName : String) :
    (Mailbox.new account accountName).Rooted := by
  have hfolders := folders_new account accountName
  have hroot := root_mem_new account accountName
  refine ⟨fun id hid => ?_, fun f hf p hp => ?_, fun f hf hnone => ?_⟩
  · rcases List.mem_cons.1 hid with rfl | hid
    · exact ⟨root, hroot, rfl⟩
    · obtain ⟨known, hknown, rfl⟩ := List.mem_map.1 hid
      rw [Has, hfolders]
      exact ⟨_, List.mem_cons_of_mem _ (List.mem_map.2 ⟨known, hknown, rfl⟩), rfl⟩
  · rw [hfolders] at hf
    rcases List.mem_cons.1 hf with rfl | hf
    · cases hp
    · obtain ⟨known, -, rfl⟩ := List.mem_map.1 hf
      cases hp
      exact ⟨root, hroot, rfl⟩
  · rw [hfolders] at hf
    rcases List.mem_cons.1 hf with rfl | hf
    · rfl
    · obtain ⟨known, -, rfl⟩ := List.mem_map.1 hf
      cases hnone

/-- Grown from a new mailbox by folders that are admitted, aliases and tags. What fails to be added
    leaves the mailbox as it was. -/
inductive Grown (admitted : Mailbox → FolderEntry → Prop) : Mailbox → Prop
  | new (account : AccountId) (accountName : String) :
      Grown admitted (Mailbox.new account accountName)
  | addFolder {mailbox grown : Mailbox} {entry : FolderEntry} : Grown admitted mailbox →
      admitted mailbox entry →
      mailbox.addFolder entry.parent entry.id entry.name entry.kind = .ok grown →
      Grown admitted grown
  | addAlias {mailbox : Mailbox} : Grown admitted mailbox → (name : String) →
      Grown admitted (mailbox.addAlias name)
  | addTag {mailbox : Mailbox} : Grown admitted mailbox → (id : TagId) → (name : String) →
      Grown admitted (mailbox.addTag id name)

section

variable {admitted : Mailbox → FolderEntry → Prop}

theorem Grown.addFolders {entries : List FolderEntry}
    (hadmitted : ∀ entry ∈ entries, ∀ mailbox, admitted mailbox entry) (h : Grown admitted mailbox)
    {grown : Mailbox} (hadd : mailbox.addFolders entries = .ok grown) : Grown admitted grown := by
  induction entries generalizing mailbox with
  | nil =>
    cases hadd
    exact h
  | cons entry entries ih =>
    obtain ⟨next, hnext, hrest⟩ := exists_of_bind hadd
    have hentry := hadmitted entry List.mem_cons_self mailbox
    exact ih (fun e he => hadmitted e (List.mem_cons_of_mem entry he)) (h.addFolder hentry hnext) hrest

theorem Grown.rooted (h : Grown admitted mailbox) : mailbox.Rooted := by
  induction h with
  | new account accountName => exact rooted_new account accountName
  | @addFolder mailbox _ entry _ _ hadd ih =>
    obtain ⟨parent, hparent, hk⟩ := exists_of_bind hadd
    cases hk
    exact ih.putBeneath (folderById_mem hparent).1 entry.id entry.name entry.kind
  | addAlias _ name ih => exact ⟨ih.system, ih.parent, ih.orphan⟩
  | addTag _ id name ih => exact ⟨ih.system, ih.parent, ih.orphan⟩

end

/-! ## Up to the root -/

/-- There is an end to going up. -/
theorem Acyclic.wellFounded (hacyclic : mailbox.Acyclic) :
    WellFounded fun g f : { f // f ∈ mailbox.folders } => mailbox.Beneath g.1.id f.1 := by
  have : IsTrans { f // f ∈ mailbox.folders } fun g f => mailbox.Beneath g.1.id f.1 :=
    ⟨fun _ _ _ h h' => h.trans h'⟩
  have : Std.Irrefl fun g f : { f // f ∈ mailbox.folders } => mailbox.Beneath g.1.id f.1 :=
    ⟨fun f => hacyclic f.1⟩
  exact Finite.wellFounded_of_trans_of_irrefl _

theorem Rooted.root_above (h : mailbox.Rooted) (hacyclic : mailbox.Acyclic) {f : Folder}
    (hf : f ∈ mailbox.folders) :
    root ∈ mailbox.folders ∧ (f = root ∨ mailbox.Beneath rootId f) := by
  suffices hall : ∀ f : { f // f ∈ mailbox.folders },
      root ∈ mailbox.folders ∧ (f.1 = root ∨ mailbox.Beneath rootId f.1) from hall ⟨f, hf⟩
  intro f
  induction f using hacyclic.wellFounded.induction with
  | h f ih =>
    cases hp : f.1.parent with
    | none =>
      have hroot := h.orphan f.1 f.2 hp
      exact ⟨hroot ▸ f.2, .inl hroot⟩
    | some p =>
      obtain ⟨g, hg, rfl⟩ := h.parent f.1 f.2 p hp
      obtain ⟨hroot, hup⟩ := ih ⟨g, hg⟩ (.child f.2 hp)
      refine ⟨hroot, .inr ?_⟩
      rcases hup with heq | hup
      · exact .child f.2 (by rw [hp, show g = root from heq]; rfl)
      · exact .deeper hup f.2 hp

theorem Rooted.root_mem (h : mailbox.Rooted) (hacyclic : mailbox.Acyclic) :
    root ∈ mailbox.folders := by
  obtain ⟨f, hf, -⟩ := h.system rootId List.mem_cons_self
  exact (h.root_above hacyclic hf).1

theorem Rooted.beneath_root (h : mailbox.Rooted) (hacyclic : mailbox.Acyclic) {f : Folder}
    (hf : f ∈ mailbox.folders) : f = root ∨ mailbox.Beneath rootId f :=
  (h.root_above hacyclic hf).2

/-- The subtree of the root is the mailbox. -/
theorem Rooted.mem_subtree_root (h : mailbox.Rooted) (hacyclic : mailbox.Acyclic) {f : Folder} :
    f ∈ mailbox.subtree root ↔ f ∈ mailbox.folders := by
  rw [mem_subtree_iff hacyclic (h.root_mem hacyclic)]
  constructor
  · exact Within.mem
  · intro hf
    rcases h.beneath_root hacyclic hf with heq | hbeneath
    · rw [heq]
      exact within_id (h.root_mem hacyclic)
    · exact .inr hbeneath

end Mailbox

end Sift
