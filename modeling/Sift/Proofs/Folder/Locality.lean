/-
  Sift.Proofs.Folder.Locality — which items are the mailbox's own, and which are another account's.

  Both localities go over everything beneath the root. In a mailbox that has grown from a new one that
  is every folder, as long as none is its own ancestor.

  - `exists_ownFolders` / `exists_foreignFolders`: the folders that either locality is made of, said
    without the list that they are picked from.
  - `compile_locality`: each locality compiles to one of two operations, whichever truth is asked for,
    and the items of each are those in its folders (`Mailbox.PartsLocalities`).
-/

import Sift.Proofs.Folder.Constraints
import Sift.Proofs.Mailbox.Growth

namespace Sift

namespace Mailbox

variable {mailbox : Mailbox} {admitted : Mailbox → FolderEntry → Prop}

/-! ## The folders of either locality -/

/-- A folder for the mailbox's own items that holds neither junk nor what was thrown away. -/
structure HoldsOwn (mailbox : Mailbox) (folder : Folder) : Prop where
  mem : folder ∈ mailbox.folders
  regular : folder.kind = .regular
  no_root : folder.id ≠ rootId
  no_junk : folder.id ≠ junkId
  no_trash : ¬ mailbox.Within trashId folder

/-- Some mountpoint stands for that folder of another account. -/
def ReachesForeign (mailbox : Mailbox) (target : ItemId) : Prop :=
  target.account ≠ mailbox.account ∧
    ∃ f ∈ mailbox.folders, f.kind = .mountpoint target.account target.id

/-- The subtrees of the root and of the trash can be listed. -/
theorem Rooted.hierarchy_root (h : mailbox.Rooted) (hacyclic : mailbox.Acyclic) :
    ∃ folders, mailbox.hierarchy rootId = .ok folders ∧ ∀ f, f ∈ folders ↔ f ∈ mailbox.folders := by
  have hroot := h.root_mem hacyclic
  exact ⟨mailbox.subtree root, hierarchy_id hroot, fun f => h.mem_subtree_root hacyclic⟩

theorem Rooted.hierarchy_trash (h : mailbox.Rooted) (hacyclic : mailbox.Acyclic) :
    ∃ folders, mailbox.hierarchy trashId = .ok folders ∧
      ∀ f, f ∈ folders ↔ mailbox.Within trashId f := by
  obtain ⟨trash, htrash, hid⟩ := h.system trashId (by decide)
  rw [← hid]
  exact ⟨mailbox.subtree trash, hierarchy_id htrash, fun f => mem_subtree_iff hacyclic htrash⟩

theorem exists_ownFolders (h : mailbox.Rooted) (hacyclic : mailbox.Acyclic) :
    ∃ folders, mailbox.ownFolders = .ok folders ∧ ∀ f, f ∈ folders ↔ mailbox.HoldsOwn f := by
  obtain ⟨all, hall, hmem⟩ := h.hierarchy_root hacyclic
  obtain ⟨trash, htrash, htrashed⟩ := h.hierarchy_trash hacyclic
  refine ⟨_, by rw [ownFolders, htrash, hall]; rfl, fun f => ?_⟩
  have hids : f ∈ mailbox.folders → (f.id ∈ trash.map (·.id) ↔ mailbox.Within trashId f) := by
    intro hf
    rw [List.mem_map, ← htrashed]
    constructor
    · rintro ⟨g, hg, hid⟩
      rwa [← eq_of_id_eq ((htrashed g).1 hg).mem hf hid]
    · intro hft
      exact ⟨f, hft, rfl⟩
  rw [List.mem_filter, hmem]
  constructor
  · rintro ⟨hf, hkeep⟩
    simp only [Bool.and_eq_true, bne_iff_ne, Bool.not_eq_true', List.contains_eq_mem,
      decide_eq_false_iff_not, beq_iff_eq] at hkeep
    obtain ⟨⟨⟨hroot, hjunk⟩, htrash⟩, hkind⟩ := hkeep
    exact ⟨hf, hkind, hroot, hjunk, fun hft => htrash ((hids hf).2 hft)⟩
  · intro hf
    refine ⟨hf.mem, ?_⟩
    simp only [Bool.and_eq_true, bne_iff_ne, Bool.not_eq_true', List.contains_eq_mem,
      decide_eq_false_iff_not, beq_iff_eq]
    exact ⟨⟨⟨hf.no_root, hf.no_junk⟩, fun hft => hf.no_trash ((hids hf.mem).1 hft)⟩, hf.regular⟩

theorem exists_foreignFolders (h : mailbox.Rooted) (hacyclic : mailbox.Acyclic) :
    ∃ targets, mailbox.foreignFolders = .ok targets ∧
      ∀ target, target ∈ targets ↔ mailbox.ReachesForeign target := by
  obtain ⟨all, hall, hmem⟩ := h.hierarchy_root hacyclic
  refine ⟨_, by rw [foreignFolders, hall]; rfl, fun target => ?_⟩
  rw [List.mem_filterMap, ReachesForeign]
  constructor
  · rintro ⟨f, hf, htarget⟩
    obtain ⟨howner, hk⟩ := foreignTarget_eq_some_iff.1 htarget
    exact ⟨howner, f, (hmem f).1 hf, hk⟩
  · rintro ⟨howner, f, hf, hk⟩
    exact ⟨f, (hmem f).2 hf, foreignTarget_eq_some_iff.2 ⟨howner, hk⟩⟩

/-! ## The operations -/

theorem selects_oneOf (item : ItemFacts) (constraints : List Constraint) :
    (Operation.oneOf constraints).selects item = true ↔
      ∃ constraint ∈ constraints, item.meets constraint = true := by
  unfold Operation.oneOf
  split
  · next h => simp [List.isEmpty_iff.1 h, Operation.selects]
  · simp [Operation.selects]

/-- The two operations that the localities compile to, and which items are in either. -/
structure PartsLocalities (mailbox : Mailbox) (settings : Settings) (withSubfolders : Bool)
    (own foreign : Operation) : Prop where
  compile_own : (Predicate.folder (.locality .own) withSubfolders).compile mailbox settings true =
    .ok own
  compile_foreign : (Predicate.folder (.locality .foreign) withSubfolders).compile mailbox settings
    true = .ok foreign
  own_negated : (Predicate.folder (.locality .own) withSubfolders).compile mailbox settings false =
    .ok foreign
  foreign_negated : (Predicate.folder (.locality .foreign) withSubfolders).compile mailbox settings
    false = .ok own
  selects_own : ∀ item, own.selects item = true ↔
    ∃ f, mailbox.HoldsOwn f ∧ item.folder = some f.id
  selects_foreign : ∀ item, foreign.selects item = true ↔
    ∃ target, mailbox.ReachesForeign target ∧ item.remoteFolder = some target
  /-- Only an item that is known to be in two folders at once can be of both. -/
  apart : ∀ item, item.folder = none ∨ item.remoteFolder = none →
    ¬ (own.selects item = true ∧ foreign.selects item = true)

/-- However the folders were put there and moved about, as long as none is its own ancestor. -/
theorem compile_locality (hgrown : Grown admitted mailbox) (hacyclic : mailbox.Acyclic)
    (settings : Settings) (withSubfolders : Bool) :
    ∃ own foreign, mailbox.PartsLocalities settings withSubfolders own foreign := by
  obtain ⟨folders, hfolders, hown⟩ := exists_ownFolders hgrown.rooted hacyclic
  obtain ⟨targets, htargets, hforeign⟩ := exists_foreignFolders hgrown.rooted hacyclic
  have hcompileOwn : mailbox.compileOwn = .ok (.oneOf (folders.map fun f => .inFolder f.id)) := by
    rw [compileOwn, hfolders]
    rfl
  have hcompileForeign : mailbox.compileForeign withSubfolders = .ok (.oneOf (targets.map
      fun target => .inRemoteFolder target.account target.id none withSubfolders)) := by
    rw [compileForeign, htargets]
    rfl
  have hselectsOwn : ∀ item : ItemFacts,
      (Operation.oneOf (folders.map fun f => .inFolder f.id)).selects item = true ↔
        ∃ f, mailbox.HoldsOwn f ∧ item.folder = some f.id := by
    intro item
    simp [selects_oneOf, ItemFacts.meets, hown]
  have hselectsForeign : ∀ item : ItemFacts,
      (Operation.oneOf (targets.map fun target =>
          .inRemoteFolder target.account target.id none withSubfolders)).selects item = true ↔
        ∃ target, mailbox.ReachesForeign target ∧ item.remoteFolder = some target := by
    intro item
    simp [selects_oneOf, ItemFacts.meets, hforeign]
  refine ⟨_, _, hcompileOwn, hcompileForeign, hcompileForeign, hcompileOwn, hselectsOwn,
    hselectsForeign, fun item hone hboth => ?_⟩
  obtain ⟨f, -, hf⟩ := (hselectsOwn item).1 hboth.1
  obtain ⟨target, -, htarget⟩ := (hselectsForeign item).1 hboth.2
  rcases hone with hnone | hnone
  · rw [hf] at hnone
    cases hnone
  · rw [htarget] at hnone
    cases hnone

/-- A mailbox with mail in the trash, a folder under the junk that was moved there from the inbox, a
    stored search, and a mountpoint with a folder beneath it. -/
theorem sorted_mailbox_parted :
    let account : AccountId := ⟨List.replicate 32 0, rfl⟩
    let other : AccountId := ⟨List.replicate 32 15, rfl⟩
    let entries : List FolderEntry := [⟨257, inboxId, "Offers", .regular⟩,
      ⟨258, trashId, "Old", .regular⟩, ⟨259, rootId, "Unread", .search⟩,
      ⟨260, rootId, "Partner", .mountpoint other 55⟩, ⟨261, 260, "Drafts", .regular⟩,
      ⟨257, junkId, "Offers", .regular⟩]
    let mailbox := { Mailbox.new account "" with
      table := [⟨257, some junkId, "Offers", "/Junk/Offers", .regular⟩,
        ⟨258, some trashId, "Old", "/Trash/Old", .regular⟩,
        ⟨259, some rootId, "Unread", "/Unread", .search⟩,
        ⟨260, some rootId, "Partner", "/Partner", .mountpoint other 55⟩,
        ⟨261, some 260, "Drafts", "/Partner/Drafts", .regular⟩].foldl FolderTable.put
          (Mailbox.new account "").table }
    (Mailbox.new account "").addFolders entries = .ok mailbox ∧
      Grown (fun _ _ => True) mailbox ∧ mailbox.Acyclic ∧
      ∃ own foreign, mailbox.PartsLocalities (Settings.standard ⟨0, 0⟩) false own foreign := by
  intro account other entries mailbox
  have hadd : (Mailbox.new account "").addFolders entries = .ok mailbox := by rfl
  have hgrown : Grown (fun _ _ => True) mailbox :=
    (Grown.new account "").addFolders (fun _ _ _ => trivial) hadd
  have hacyclic : mailbox.Acyclic := acyclic_of_all (by decide +kernel)
  exact ⟨hadd, hgrown, hacyclic, compile_locality hgrown hacyclic _ false⟩

end Mailbox

end Sift
