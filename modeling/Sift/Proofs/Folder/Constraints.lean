/-
  Sift.Proofs.Folder.Constraints — which folders the operation of a folder question asks for.

  A constraint is in place (`Mailbox.InPlace`) if it asks for a folder of the mailbox that holds items
  itself, or for a folder in the mailbox of another account. There are five ways to one: a folder or
  a mountpoint that a path leads to, an id of another account, a subtree, and two lists of folders.

  - `compileSubtree_inPlace`, `compileOwn_inPlace` and `compileForeign_inPlace`: what a subtree and the
    two lists ask for is in place.
  - `compile_folder_in_place`: so is what any folder question asks for. A question for a path or an id
    has the operation of the place that the target leads to (`Mailbox.Finds`).
-/

import Sift.Operation.Leaves
import Sift.Proofs.Folder.Subfolders

namespace Sift

namespace Mailbox

variable {mailbox : Mailbox} {limit : Nat}

/-- The constraint asks for a folder of the mailbox that is no mountpoint, or for one of another
    account. -/
def InPlace (mailbox : Mailbox) : Constraint → Prop
  | .inFolder id => ∃ f ∈ mailbox.folders, f.id = id ∧ f.isMountpoint = false
  | .inRemoteFolder owner _ _ _ => owner ≠ mailbox.account
  | _ => False

/-! ## What the operations ask for -/

theorem inPlace_constraintOf {folder : Folder} (hmem : folder ∈ mailbox.folders)
    (h : ¬ mailbox.IsNested folder) : mailbox.InPlace (constraintOf folder) := by
  unfold constraintOf
  cases hk : folder.kind with
  | mountpoint owner target =>
    intro howner
    exact h (by simp [IsNested, ownTarget, hk, howner])
  | regular => exact ⟨folder, hmem, rfl, by simp [Folder.isMountpoint, hk]⟩
  | search => exact ⟨folder, hmem, rfl, by simp [Folder.isMountpoint, hk]⟩

theorem mem_of_mem_subtree {folder f : Folder} (hmem : folder ∈ mailbox.folders)
    (h : f ∈ mailbox.subtree folder) : f ∈ mailbox.folders := by
  rcases List.mem_cons.1 h with rfl | h
  · exact hmem
  · exact (beneath_of_mem h).mem

/-- The folders and the answer that the leaves of an operation have. -/
def AsksInPlace (mailbox : Mailbox) (answer : Bool) (operation : Operation) : Prop :=
  ∀ leaf ∈ operation.leaves, ∃ constraint, leaf = .db constraint answer ∧ mailbox.InPlace constraint

theorem asksInPlace_db {constraint : Constraint} (h : mailbox.InPlace constraint) (truth : Bool) :
    mailbox.AsksInPlace truth (.db constraint truth) := by
  intro leaf hleaf
  exact ⟨constraint, List.mem_singleton.1 hleaf, h⟩

theorem asksInPlace_of_constraints {operation : Operation} {constraints : List Constraint}
    {answer : Bool} (hleaves : operation.leaves = constraints.map (.db · answer))
    (h : ∀ constraint ∈ constraints, mailbox.InPlace constraint) :
    mailbox.AsksInPlace answer operation := by
  intro leaf hleaf
  rw [hleaves] at hleaf
  obtain ⟨constraint, hc, rfl⟩ := List.mem_map.1 hleaf
  exact ⟨constraint, rfl, h constraint hc⟩

/-- A subtree that compiles has no mountpoint into the same mailbox. -/
theorem compileSubtree_inPlace {folder : Folder} (hmem : folder ∈ mailbox.folders) {truth : Bool}
    {operation : Operation} (h : mailbox.compileSubtree folder.id truth = .ok operation) :
    operation = mailbox.subtreeOperation folder truth ∧ mailbox.AsksInPlace truth operation := by
  rw [compileSubtree_eq hmem] at h
  split at h
  · cases h
  · next hnone =>
    cases h
    have hleaves : (mailbox.subtreeOperation folder truth).leaves =
        ((mailbox.subtree folder).map constraintOf).map (.db · truth) := by
      rw [subtreeOperation, Operation.leaves_anyOf, Operation.flatMap_leaves_db]
    refine ⟨rfl, asksInPlace_of_constraints hleaves fun constraint hc => ?_⟩
    obtain ⟨f, hf, rfl⟩ := List.mem_map.1 hc
    have hnested := List.find?_eq_none.1 hnone f hf
    exact inPlace_constraintOf (mem_of_mem_subtree hmem hf) (by simpa using hnested)

theorem mem_of_hierarchy {id : FolderId} {folders : List Folder}
    (h : mailbox.hierarchy id = .ok folders) : ∀ f ∈ folders, f ∈ mailbox.folders := by
  obtain ⟨folder, hfolder, hk⟩ := exists_of_bind h
  cases hk
  obtain ⟨hmem, rfl⟩ := folderById_mem hfolder
  intro f hf
  exact mem_of_mem_subtree hmem hf

theorem leaves_oneOf (constraints : List Constraint) :
    (Operation.oneOf constraints).leaves = constraints.map (.db · true) := by
  unfold Operation.oneOf
  split
  · next h => simp [List.isEmpty_iff.1 h, Operation.leaves]
  · rw [Operation.leaves, Operation.leavesOf_eq_flatMap, Operation.flatMap_leaves_db]

theorem compileOwn_inPlace {operation : Operation} (h : mailbox.compileOwn = .ok operation) :
    mailbox.AsksInPlace true operation := by
  obtain ⟨folders, hfolders, hk⟩ := exists_of_bind h
  cases hk
  obtain ⟨trash, -, hk⟩ := exists_of_bind hfolders
  obtain ⟨all, hall, hk⟩ := exists_of_bind hk
  cases hk
  refine asksInPlace_of_constraints (leaves_oneOf _) fun constraint hc => ?_
  obtain ⟨f, hf, rfl⟩ := List.mem_map.1 hc
  obtain ⟨hmem, hkeep⟩ := List.mem_filter.1 hf
  have hkind : f.kind = .regular := by simpa using (Bool.and_eq_true_iff.1 hkeep).2
  exact ⟨f, mem_of_hierarchy hall f hmem, rfl, by simp [Folder.isMountpoint, hkind]⟩

theorem foreignTarget_eq_some_iff {folder : Folder} {target : ItemId} :
    mailbox.foreignTarget folder = some target ↔
      target.account ≠ mailbox.account ∧ folder.kind = .mountpoint target.account target.id := by
  constructor
  · intro h
    unfold foreignTarget at h
    split at h
    · next hk =>
      split at h
      · cases h
      · next howner =>
        cases h
        exact ⟨howner, hk⟩
    · cases h
    · cases h
  · rintro ⟨howner, hk⟩
    rw [foreignTarget, hk]
    exact if_neg howner

theorem compileForeign_inPlace {withSubfolders : Bool} {operation : Operation}
    (h : mailbox.compileForeign withSubfolders = .ok operation) :
    mailbox.AsksInPlace true operation := by
  obtain ⟨targets, htargets, hk⟩ := exists_of_bind h
  cases hk
  obtain ⟨all, -, hk⟩ := exists_of_bind htargets
  cases hk
  refine asksInPlace_of_constraints (leaves_oneOf _) fun constraint hc => ?_
  obtain ⟨target, ht, rfl⟩ := List.mem_map.1 hc
  obtain ⟨f, -, hf⟩ := List.mem_filterMap.1 ht
  exact (foreignTarget_eq_some_iff.1 hf).1

theorem compileLocality_inPlace {withSubfolders truth : Bool} {locality : Locality}
    {operation : Operation} (h : mailbox.compileLocality withSubfolders locality truth = .ok operation) :
    mailbox.AsksInPlace true operation := by
  have hno : ∀ {operation : Operation}, operation.leaves = [] → mailbox.AsksInPlace true operation := by
    intro operation hnil leaf hleaf
    rw [hnil] at hleaf
    cases hleaf
  cases locality <;> cases truth
  case own.true | foreign.false => exact compileOwn_inPlace h
  case own.false | foreign.true => exact compileForeign_inPlace h
  all_goals
    cases h
    exact hno rfl

/-! ## All folder questions -/

/-- The operation for a place: one constraint, or those of the place's subtree. -/
def placeOperation (mailbox : Mailbox) (withSubfolders truth : Bool) : Place → Operation
  | .foreign owner folder subpath =>
    .db (.inRemoteFolder owner folder subpath withSubfolders) truth
  | .own folder =>
    if withSubfolders then mailbox.subtreeOperation folder truth
    else .db (.inFolder folder.id) truth

theorem compilePlace_inPlace {target : FolderTarget} {place : Place} (hfinds : mailbox.Finds target place)
    {withSubfolders truth : Bool} {operation : Operation}
    (h : mailbox.compilePlace withSubfolders truth place = .ok operation) :
    operation = mailbox.placeOperation withSubfolders truth place ∧
      mailbox.AsksInPlace truth operation := by
  cases hfinds with
  | @abroad owner folder subpath howner =>
    cases h
    have hplace : mailbox.InPlace (.inRemoteFolder owner folder subpath withSubfolders) := howner
    exact ⟨rfl, asksInPlace_db hplace truth⟩
  | @arrived _ folder _ _ _ hmem hplain =>
    cases withSubfolders with
    | true => exact compileSubtree_inPlace hmem h
    | false =>
      cases h
      have hplace : mailbox.InPlace (.inFolder folder.id) := ⟨folder, hmem, rfl, hplain⟩
      exact ⟨rfl, asksInPlace_db hplace truth⟩

theorem compileFolder_inPlace {target : FolderTarget} {withSubfolders truth : Bool}
    {operation : Operation} (htarget : target.IsLocality = false)
    (h : mailbox.compileFolder limit withSubfolders truth target = .ok operation) :
    ∃ place, mailbox.Finds target place ∧
      operation = mailbox.placeOperation withSubfolders truth place ∧
      mailbox.AsksInPlace truth operation := by
  cases target with
  | path path =>
    obtain ⟨place, hplace, hk⟩ := exists_of_bind h
    have hfinds := finds_of_placeOfPath hplace
    exact ⟨place, hfinds, compilePlace_inPlace hfinds hk⟩
  | id item subpath =>
    obtain ⟨place, hplace, hk⟩ := exists_of_bind h
    have hfinds := finds_of_placeOfId hplace
    exact ⟨place, hfinds, compilePlace_inPlace hfinds hk⟩
  | locality l => cases htarget

/-- What the operation of a folder question asks for. -/
structure StaysInPlace (mailbox : Mailbox) (target : FolderTarget) (withSubfolders truth : Bool)
    (operation : Operation) : Prop where
  /-- Every leaf is a constraint in place, with the truth that was asked for; what is asked of a
      locality is always asked for the truth of another. -/
  leaves : mailbox.AsksInPlace (target.IsLocality || truth) operation
  single : target.IsLocality = false → withSubfolders = false →
    ∃ constraint, operation = .db constraint truth
  /-- A folder of the mailbox is found only at the end of the whole path. -/
  place : target.IsLocality = false → ∃ place, mailbox.Finds target place ∧
    operation = mailbox.placeOperation withSubfolders truth place

theorem compile_folder_in_place (mailbox : Mailbox) (settings : Settings) (target : FolderTarget)
    (withSubfolders truth : Bool) {operation : Operation}
    (h : (Predicate.folder target withSubfolders).compile mailbox settings truth = .ok operation) :
    mailbox.StaysInPlace target withSubfolders truth operation := by
  cases htarget : target.IsLocality with
  | true =>
    cases target with
    | locality l =>
      refine ⟨compileLocality_inPlace h, fun hpath => ?_, fun hpath => ?_⟩
      · cases hpath
      · cases hpath
    | path | id => cases htarget
  | false =>
    obtain ⟨place, hfinds, hop, hleaves⟩ := compileFolder_inPlace htarget h
    refine ⟨?_, fun _ hsingle => ?_, fun _ => ⟨place, hfinds, hop⟩⟩
    · rw [htarget, Bool.false_or]
      exact hleaves
    · rw [hop, hsingle]
      cases place with
      | own folder => exact ⟨_, rfl⟩
      | foreign owner folder subpath => exact ⟨_, rfl⟩

/-- Two mountpoints lead to a folder with one beneath it, and with a folder of another account. -/
theorem chain_in_place :
    let account : AccountId := ⟨List.replicate 32 0, rfl⟩
    let other : AccountId := ⟨List.replicate 32 15, rfl⟩
    let work : Folder := ⟨257, some inboxId, "Work", "/Inbox/Work", .regular⟩
    let old : Folder := ⟨258, some 257, "Old", "/Inbox/Work/Old", .regular⟩
    let partner : Folder := ⟨259, some 257, "Partner", "/Inbox/Work/Partner", .mountpoint other 55⟩
    let shared : Folder := ⟨300, some rootId, "Shared", "/Shared", .mountpoint account 257⟩
    let chain : Folder := ⟨301, some rootId, "Chain", "/Chain", .mountpoint account 300⟩
    let mailbox := { Mailbox.new account "" with
      table := [work, old, partner, shared, chain].foldl FolderTable.put (Mailbox.new account "").table }
    let settings := Settings.standard ⟨0, 0⟩
    let inOld := Operation.db (.inFolder 258) false
    let inProjects := Operation.db (.inRemoteFolder other 55 (some "Projects/2024") true) true
    (Predicate.folder (.path "chain/OLD/") false).compile mailbox settings false = .ok inOld ∧
      mailbox.StaysInPlace (.path "chain/OLD/") false false inOld ∧
      (Predicate.folder (.id ⟨account, 301⟩ (some "Partner/Projects/2024")) true).compile mailbox
        settings true = .ok inProjects ∧
      mailbox.StaysInPlace (.id ⟨account, 301⟩ (some "Partner/Projects/2024")) true true inProjects := by
  intro account other work old partner shared chain mailbox settings inOld inProjects
  have hold : mailbox.placeOfPath settings.mountpointLimit "chain/OLD/" = .ok (.own old) := by
    decide +kernel
  have hprojects : mailbox.placeOfId settings.mountpointLimit ⟨account, 301⟩
      (some "Partner/Projects/2024") = .ok (.foreign other 55 (some "Projects/2024")) := by
    decide +kernel
  have h : (Predicate.folder (.path "chain/OLD/") false).compile mailbox settings false =
      .ok inOld := by
    rw [Predicate.compile, compileFolder, hold]
    rfl
  have h' : (Predicate.folder (.id ⟨account, 301⟩ (some "Partner/Projects/2024")) true).compile
      mailbox settings true = .ok inProjects := by
    rw [Predicate.compile, compileFolder, hprojects]
    rfl
  exact ⟨h, compile_folder_in_place mailbox settings _ false false h, h',
    compile_folder_in_place mailbox settings _ true true h'⟩

end Mailbox

end Sift
