/-
  Sift.Proofs.Mailbox.Hierarchy — a folder and everything beneath it, listed once each.

  The folders are kept in one table by id, and what is beneath a folder is found by going down from each
  folder to those that name it as their parent. Nothing in the table keeps that from going on for ever:
  folders may be given again beneath others, so only what was added and in which order says whether some
  folder is its own ancestor. `Visits` goes down without a limit and has a list only where it ends.

  - `visits_subtree`: where no folder is its own ancestor it ends, with the list that `hierarchy` gives,
    whose limit is never reached. It can end with no other (`Visits.unique`).
  - `hierarchy_lists_subtree`: in a mailbox that has grown from a new one every id leads to its folder,
    every folder but the root has its parent there, and every hierarchy is the folder and what is
    beneath it, in depth-first order and without repetition (`ListsSubtree`). That of the root is the
    whole mailbox.
-/

import Sift.Proofs.Mailbox.Growth

namespace Sift.Mailbox

variable {mailbox : Mailbox}

/-! ## Going down without a limit -/

/-- Some folders are visited in turn, each with all that is beneath it before the next, and these are
    all the folders on the way. -/
inductive Visits (mailbox : Mailbox) : List Folder → List Folder → Prop
  | nil : Visits mailbox [] []
  | cons {f : Folder} {rest below after : List Folder} :
      Visits mailbox (mailbox.children f.id) below → Visits mailbox rest after →
      Visits mailbox (f :: rest) (f :: below ++ after)

theorem Visits.unique {folders visited other : List Folder} (h : mailbox.Visits folders visited)
    (h' : mailbox.Visits folders other) : visited = other := by
  induction h generalizing other with
  | nil =>
    cases h'
    rfl
  | cons _ _ ihbelow ihafter =>
    cases h' with
    | cons hbelow hafter => rw [ihbelow hbelow, ihafter hafter]

theorem visits_flatMap {below : Folder → List Folder} {folders : List Folder}
    (h : ∀ f ∈ folders, mailbox.Visits (mailbox.children f.id) (below f)) :
    mailbox.Visits folders (folders.flatMap fun f => f :: below f) := by
  induction folders with
  | nil => exact .nil
  | cons f folders ih =>
    rw [List.flatMap_cons]
    apply Visits.cons
    · exact h f List.mem_cons_self
    · exact ih fun g hg => h g (List.mem_cons_of_mem f hg)

/-- The induction is on the limit: what is left of it after a step is enough for the lines of descent
    that go on from there. -/
theorem visits_beneath {depth : Nat} {top : FolderId}
    (h : ∀ line, mailbox.Descent top line → line.length ≤ depth) :
    mailbox.Visits (mailbox.children top) (mailbox.beneath depth top) := by
  induction depth generalizing top with
  | zero =>
    have hnone : mailbox.children top = [] := by
      apply List.eq_nil_iff_forall_not_mem.2
      intro c hc
      have hlength := h [c] (.cons hc (.nil c.id))
      simp at hlength
    rw [hnone]
    exact .nil
  | succ depth ih =>
    apply visits_flatMap
    intro c hc
    apply ih
    intro line hline
    have hlength := h (c :: line) (.cons hc hline)
    simp only [List.length_cons] at hlength
    omega

theorem visits_subtree (hacyclic : mailbox.Acyclic) (folder : Folder) :
    mailbox.Visits [folder] (mailbox.subtree folder) := by
  have hbelow : mailbox.Visits (mailbox.children folder.id)
      (mailbox.beneath mailbox.folders.length folder.id) := by
    apply visits_beneath
    intro line hline
    exact hline.length_le hacyclic
  have hvisits := Visits.cons hbelow .nil
  rwa [List.append_nil] at hvisits

/-! ## Hierarchies -/

/-- The list of a folder and everything beneath it. -/
structure ListsSubtree (mailbox : Mailbox) (top : Folder) (folders : List Folder) : Prop where
  /-- Going down from the folder ends, with this list and no other. -/
  visited : ∀ listed, mailbox.Visits [top] listed ↔ listed = folders
  first : folders.head? = some top
  beneath : ∀ f, f ∈ folders.tail ↔ mailbox.Beneath top.id f
  nodup : folders.Nodup
  /-- A folder comes before what is beneath it, and of two siblings the one with the smaller id comes
      first, with all that is beneath it. -/
  ordered : folders.Pairwise mailbox.Precedes
  /-- No two folders come before each other in that order. -/
  strict : ∀ f g, mailbox.Precedes f g → ¬ mailbox.Precedes g f

theorem listsSubtree_subtree (hacyclic : mailbox.Acyclic) (top : Folder) :
    mailbox.ListsSubtree top (mailbox.subtree top) where
  visited := by
    intro listed
    have hvisits := visits_subtree hacyclic top
    constructor
    · intro hlisted
      exact hlisted.unique hvisits
    · intro hlisted
      rw [hlisted]
      exact hvisits
  first := rfl
  beneath := by
    intro f
    exact mem_beneath_iff hacyclic
  nodup := nodup_subtree hacyclic top
  ordered := mailbox.pairwise_subtree top
  strict := by
    intro f g hfg
    exact hfg.asymm hacyclic

/-- The folders are a tree, and its subtrees can be listed. -/
structure ListsHierarchies (mailbox : Mailbox) : Prop where
  stored : ∀ id f, mailbox.folderById id = .ok f ↔ f ∈ mailbox.folders ∧ f.id = id
  parent : ∀ f ∈ mailbox.folders, f.id ≠ rootId →
    ∃ parent ∈ mailbox.folders, f.parent = some parent.id
  present : ∀ top ∈ mailbox.folders, ∃ folders, mailbox.hierarchy top.id = .ok folders ∧
    mailbox.ListsSubtree top folders
  /-- The root's hierarchy has every folder of the mailbox, and no other. -/
  whole : ∃ folders, mailbox.hierarchy rootId = .ok folders ∧ folders.Perm mailbox.folders
  absent : ∀ id, ¬ mailbox.Has id → mailbox.hierarchy id = .error (.notFound (.folderId id))

theorem folderById_eq_ok_iff {id : FolderId} {f : Folder} :
    mailbox.folderById id = .ok f ↔ f ∈ mailbox.folders ∧ f.id = id := by
  constructor
  · exact folderById_mem
  · intro h
    rw [← h.2]
    exact folderById_id h.1

theorem hierarchy_of_not_has {id : FolderId} (h : ¬ mailbox.Has id) :
    mailbox.hierarchy id = .error (.notFound (.folderId id)) := by
  cases hfound : mailbox.folderById id with
  | ok f => exact absurd ⟨f, folderById_mem hfound⟩ h
  | error fault =>
    rw [hierarchy, hfound, folderById_error hfound]
    rfl

theorem nodup_folders (mailbox : Mailbox) : mailbox.folders.Nodup := by
  apply mailbox.table.ascending.imp
  intro f g hlt heq
  rw [heq] at hlt
  exact Int.lt_irrefl g.id hlt

variable {admitted : Mailbox → FolderEntry → Prop}

/-- However the folders were put there and moved about, as long as none is its own ancestor. -/
theorem hierarchy_lists_subtree (h : Grown admitted mailbox) (hacyclic : mailbox.Acyclic) :
    mailbox.ListsHierarchies where
  stored := by
    intro id f
    exact folderById_eq_ok_iff
  parent := by
    intro f hf hid
    cases hparent : f.parent with
    | none =>
      have hroot := h.rooted.orphan f hf hparent
      rw [hroot] at hid
      exact absurd rfl hid
    | some p =>
      obtain ⟨parent, hmem, hp⟩ := h.rooted.parent f hf p hparent
      exact ⟨parent, hmem, by rw [hp]⟩
  present := by
    intro top htop
    exact ⟨mailbox.subtree top, hierarchy_id htop, listsSubtree_subtree hacyclic top⟩
  whole := by
    have hroot := h.rooted.root_mem hacyclic
    refine ⟨mailbox.subtree root, hierarchy_id hroot, ?_⟩
    apply (List.perm_ext_iff_of_nodup (nodup_subtree hacyclic root) (nodup_folders mailbox)).2
    intro f
    exact h.rooted.mem_subtree_root hacyclic
  absent := by
    intro id hid
    exact hierarchy_of_not_has hid

/-- A folder that is moved from the inbox to the trash takes what is beneath it along. -/
theorem moved_folder_listed :
    let account : AccountId := ⟨List.replicate 32 0, rfl⟩
    let entries : List FolderEntry := [⟨257, inboxId, "Work", .regular⟩, ⟨258, 257, "A", .regular⟩,
      ⟨259, inboxId, "B", .search⟩, ⟨257, trashId, "Old work", .regular⟩]
    let mailbox := { Mailbox.new account "" with
      table := [⟨257, some trashId, "Old work", "/Trash/Old work", .regular⟩,
        ⟨258, some 257, "A", "/Inbox/Work/A", .regular⟩,
        ⟨259, some inboxId, "B", "/Inbox/B", .search⟩].foldl FolderTable.put
          (Mailbox.new account "").table }
    (Mailbox.new account "").addFolders entries = .ok mailbox ∧
      Grown (fun _ _ => True) mailbox ∧ mailbox.Acyclic ∧ mailbox.ListsHierarchies ∧
      (mailbox.hierarchy rootId).map (·.map (·.id)) = .ok [1, 2, 259, 3, 257, 258, 4, 5, 6, 7] := by
  intro account entries mailbox
  have hadd : (Mailbox.new account "").addFolders entries = .ok mailbox := by rfl
  have hgrown : Grown (fun _ _ => True) mailbox :=
    (Grown.new account "").addFolders (fun _ _ _ => trivial) hadd
  have hacyclic : mailbox.Acyclic := acyclic_of_all (by decide +kernel)
  exact ⟨hadd, hgrown, hacyclic, hierarchy_lists_subtree hgrown hacyclic, by decide +kernel⟩

end Sift.Mailbox
