/-
  Sift.Proofs.Folder.Subfolders — questions that go over a folder and everything beneath it.

  Each folder of the subtree stands for one constraint (`Mailbox.constraintOf`), but for the
  mountpoints into the same mailbox, of which there must be none.

  - `find?_nested_iff`: of those mountpoints the first in depth-first order is found, if there is one.
  - `compile_subfolders`: a folder question with subfolders that leads to a folder of the mailbox fails
    with that mountpoint, or covers exactly the subtree (`Mailbox.CoversSubtree`).
-/

import Sift.Predicate.Compile
import Sift.Proofs.Folder.Target
import Sift.Proofs.Mailbox.Subtree
import Sift.Proofs.Operation.Dual

namespace Sift

namespace Mailbox

variable {mailbox : Mailbox}

/-! ## Where folder questions lead -/

/-- The target is found, and it is a folder of the mailbox itself. -/
def LeadsTo (mailbox : Mailbox) (limit : Nat) (folder : Folder) : FolderTarget → Prop
  | .path path => mailbox.placeOfPath limit path = .ok (.own folder)
  | .id item subpath => mailbox.placeOfId limit item subpath = .ok (.own folder)
  | .locality _ => False

theorem LeadsTo.finds {limit : Nat} {folder : Folder} {target : FolderTarget}
    (h : mailbox.LeadsTo limit folder target) : mailbox.Finds target (.own folder) := by
  cases target with
  | path path => exact finds_of_placeOfPath h
  | id item subpath => exact finds_of_placeOfId h
  | locality l => cases h

theorem LeadsTo.compileFolder_eq {limit : Nat} {folder : Folder} {target : FolderTarget}
    (h : mailbox.LeadsTo limit folder target) (truth : Bool) :
    mailbox.compileFolder limit true truth target = mailbox.compileSubtree folder.id truth := by
  cases target with
  | path path =>
    simp only [LeadsTo] at h
    simp [compileFolder, h, bind, Except.bind, compilePlace]
  | id item subpath =>
    simp only [LeadsTo] at h
    simp [compileFolder, h, bind, Except.bind, compilePlace]
  | locality l => cases h

/-! ## What the folders of a subtree stand for -/

/-- A mountpoint into the same mailbox. -/
def IsNested (mailbox : Mailbox) (folder : Folder) : Prop := (mailbox.ownTarget folder).isSome = true

instance (folder : Folder) : Decidable (mailbox.IsNested folder) := by
  unfold IsNested
  infer_instance

/-- What a folder of the subtree stands for if it is none of those. -/
def constraintOf (folder : Folder) : Constraint :=
  match folder.kind with
  | .mountpoint owner target => .inRemoteFolder owner target none true
  | .regular | .search => .inFolder folder.id

theorem subtreeConstraint_eq (mailbox : Mailbox) (folder : Folder) :
    mailbox.subtreeConstraint folder =
      if mailbox.IsNested folder then .error (.nestedLocalMountpoint folder.id)
      else .ok (constraintOf folder) := by
  cases hk : folder.kind with
  | mountpoint owner target =>
    by_cases ho : owner = mailbox.account <;>
      simp [subtreeConstraint, IsNested, ownTarget, constraintOf, hk, ho]
  | regular => simp [subtreeConstraint, IsNested, ownTarget, constraintOf, hk]
  | search => simp [subtreeConstraint, IsNested, ownTarget, constraintOf, hk]

theorem mapM_subtreeConstraint (mailbox : Mailbox) (folders : List Folder) :
    folders.mapM mailbox.subtreeConstraint =
      match folders.find? (mailbox.IsNested ·) with
      | some m => .error (.nestedLocalMountpoint m.id)
      | none => .ok (folders.map constraintOf) := by
  induction folders with
  | nil => rfl
  | cons f fs ih =>
    rw [List.mapM_cons, subtreeConstraint_eq]
    by_cases hf : mailbox.IsNested f
    · simp [hf, bind, Except.bind]
    · rw [if_neg hf, List.find?_cons_of_neg (by simpa using hf), ih]
      cases fs.find? (mailbox.IsNested ·) <;> rfl

/-- Whether an item is in the folder that one of the subtree stands for. -/
theorem meets_constraintOf (item : ItemFacts) (folder : Folder) :
    item.meets (constraintOf folder) = true ↔
      (folder.isMountpoint = false ∧ item.folder = some folder.id) ∨
        ∃ owner target, folder.kind = .mountpoint owner target ∧
          item.remoteFolder = some ⟨owner, target⟩ := by
  unfold constraintOf Folder.isMountpoint
  cases hk : folder.kind with
  | mountpoint owner target => simp [ItemFacts.meets]
  | regular => simp [ItemFacts.meets]
  | search => simp [ItemFacts.meets]

/-! ## The first of the mountpoints -/

/-- Of the mountpoints in the subtree that lead into the same mailbox, the first in depth-first
    order. -/
structure IsFirstNested (mailbox : Mailbox) (top : FolderId) (m : Folder) : Prop where
  within : mailbox.Within top m
  nested : mailbox.IsNested m
  first : ∀ g, mailbox.Within top g → mailbox.IsNested g → g = m ∨ mailbox.Precedes m g

theorem IsFirstNested.unique (hacyclic : mailbox.Acyclic) {top : FolderId} {m m' : Folder}
    (h : mailbox.IsFirstNested top m) (h' : mailbox.IsFirstNested top m') : m = m' := by
  rcases h.first m' h'.within h'.nested with heq | hlt
  · exact heq.symm
  · rcases h'.first m h.within h.nested with heq | hlt'
    · exact heq
    · exact absurd hlt' (hlt.asymm hacyclic)

theorem find?_nested_iff (hacyclic : mailbox.Acyclic) {folder m : Folder}
    (h : folder ∈ mailbox.folders) :
    (mailbox.subtree folder).find? (mailbox.IsNested ·) = some m ↔
      mailbox.IsFirstNested folder.id m := by
  have hfirst : ∀ {m : Folder}, (mailbox.subtree folder).find? (mailbox.IsNested ·) = some m →
      mailbox.IsFirstNested folder.id m := by
    intro m hm
    obtain ⟨hnested, before, after, hsplit, hbefore⟩ := List.find?_eq_some_iff_append.1 hm
    have hpairwise := mailbox.pairwise_subtree folder
    rw [hsplit] at hpairwise
    have hafter := List.pairwise_cons.1 (List.pairwise_append.1 hpairwise).2.1
    have hmem : ∀ g, mailbox.Within folder.id g ↔ g ∈ before ++ m :: after := by
      intro g
      rw [← hsplit, mem_subtree_iff hacyclic h]
    refine ⟨(hmem m).2 (by simp), by simpa using hnested, fun g hg hgn => ?_⟩
    rcases List.mem_append.1 ((hmem g).1 hg) with hg | hg
    · simpa [hgn] using hbefore g hg
    · rcases List.mem_cons.1 hg with rfl | hg
      · exact .inl rfl
      · exact .inr (hafter.1 g hg)
  constructor
  · exact hfirst
  · intro hm
    cases hfound : (mailbox.subtree folder).find? (mailbox.IsNested ·) with
    | some m' => rw [(hfirst hfound).unique hacyclic hm]
    | none =>
      have := List.find?_eq_none.1 hfound m ((mem_subtree_iff hacyclic h).2 hm.within)
      simp [hm.nested] at this

/-! ## The whole subtree -/

/-- The operation of a subtree in which every folder stands for a constraint. -/
def subtreeOperation (mailbox : Mailbox) (folder : Folder) (truth : Bool) : Operation :=
  .anyOf truth (((mailbox.subtree folder).map constraintOf).map (.db · truth))

theorem compileSubtree_eq {folder : Folder} (h : folder ∈ mailbox.folders) (truth : Bool) :
    mailbox.compileSubtree folder.id truth =
      match (mailbox.subtree folder).find? (mailbox.IsNested ·) with
      | some m => .error (.nestedLocalMountpoint m.id)
      | none => .ok (mailbox.subtreeOperation folder truth) := by
  simp only [compileSubtree, hierarchy_id h, bind, Except.bind, mapM_subtreeConstraint]
  cases (mailbox.subtree folder).find? (mailbox.IsNested ·) <;> rfl

/-- The item is in a folder of the subtree, or in a folder of another account that a mountpoint of
    the subtree stands for. -/
def HoldsBeneath (mailbox : Mailbox) (top : FolderId) (item : ItemFacts) : Prop :=
  (∃ f, mailbox.Within top f ∧ f.isMountpoint = false ∧ item.folder = some f.id) ∨
    ∃ f owner target, mailbox.Beneath top f ∧ f.kind = .mountpoint owner target ∧
      item.remoteFolder = some ⟨owner, target⟩

theorem isMountpoint_of_kind {folder : Folder} {owner : AccountId} {target : FolderId}
    (h : folder.kind = .mountpoint owner target) : folder.isMountpoint = true := by
  simp [Folder.isMountpoint, h]

theorem exists_meets_iff (hacyclic : mailbox.Acyclic) {folder : Folder} (h : folder ∈ mailbox.folders)
    (hplain : folder.isMountpoint = false) (item : ItemFacts) :
    (∃ f ∈ mailbox.subtree folder, item.meets (constraintOf f) = true) ↔
      mailbox.HoldsBeneath folder.id item := by
  simp only [mem_subtree_iff hacyclic h, meets_constraintOf]
  constructor
  · rintro ⟨f, hf, ⟨hm, hi⟩ | ⟨owner, target, hk, hi⟩⟩
    · exact .inl ⟨f, hf, hm, hi⟩
    · rcases hf.eq_or_beneath h with rfl | hf
      · rw [isMountpoint_of_kind hk] at hplain
        cases hplain
      · exact .inr ⟨f, owner, target, hf, hk, hi⟩
  · rintro (⟨f, hf, hm, hi⟩ | ⟨f, owner, target, hf, hk, hi⟩)
    · exact ⟨f, hf, .inl ⟨hm, hi⟩⟩
    · exact ⟨f, .inr hf, .inr ⟨owner, target, hk, hi⟩⟩

/-- What a folder question with subfolders compiles to, given the folder that it leads to. -/
structure CoversSubtree (mailbox : Mailbox) (settings : Settings) (target : FolderTarget)
    (folder : Folder) : Prop where
  compiles_iff : ∀ truth,
    (∃ operation, (Predicate.folder target true).compile mailbox settings truth = .ok operation) ↔
      ∀ f, mailbox.Within folder.id f → ¬ mailbox.IsNested f
  fails_iff : ∀ truth fault,
    (Predicate.folder target true).compile mailbox settings truth = .error fault ↔
      ∃ m, mailbox.IsFirstNested folder.id m ∧ fault = .nestedLocalMountpoint m.id
  selects_iff : ∀ operation,
    (Predicate.folder target true).compile mailbox settings true = .ok operation →
      ∀ item, operation.selects item = true ↔ mailbox.HoldsBeneath folder.id item
  /-- The negative form has the same constraints in the same order, each negated. -/
  negation : ∀ operation,
    (Predicate.folder target true).compile mailbox settings true = .ok operation →
      ∃ constraints : List Constraint, operation = .union (constraints.map (.db · true)) ∧
        (Predicate.folder target true).compile mailbox settings false =
          .ok (.intersection (constraints.map (.db · false))) ∧
        ∀ item, (Operation.intersection (constraints.map (.db · false))).selects item =
          !operation.selects item

section

variable {settings : Settings} {target : FolderTarget} {folder : Folder}

theorem selects_subtreeOperation_iff (hacyclic : mailbox.Acyclic) (h : folder ∈ mailbox.folders)
    (hplain : folder.isMountpoint = false) (item : ItemFacts) :
    (mailbox.subtreeOperation folder true).selects item = true ↔
      mailbox.HoldsBeneath folder.id item := by
  rw [← exists_meets_iff hacyclic h hplain]
  simp [subtreeOperation, Operation.anyOf, Operation.selects]

theorem selects_subtreeOperation_false (mailbox : Mailbox) (folder : Folder) (item : ItemFacts) :
    (mailbox.subtreeOperation folder false).selects item =
      !(mailbox.subtreeOperation folder true).selects item := by
  rw [← Operation.selects_dual, subtreeOperation, subtreeOperation, Operation.dual_anyOf]
  simp [Operation.anyOf, Operation.dual, Function.comp_def]

theorem coversSubtree_of_error (hacyclic : mailbox.Acyclic) {m : Folder}
    (hfirst : mailbox.IsFirstNested folder.id m)
    (herror : ∀ truth, (Predicate.folder target true).compile mailbox settings truth =
      .error (.nestedLocalMountpoint m.id)) :
    mailbox.CoversSubtree settings target folder := by
  have hnever : ∀ {truth operation},
      (Predicate.folder target true).compile mailbox settings truth ≠ .ok operation := by
    intro truth operation h
    rw [herror] at h
    cases h
  refine ⟨fun truth => ?_, fun truth fault => ?_, fun _ h => absurd h hnever,
    fun _ h => absurd h hnever⟩
  · constructor
    · rintro ⟨operation, h⟩
      exact absurd h hnever
    · intro hnone
      exact absurd hfirst.nested (hnone m hfirst.within)
  · rw [herror]
    constructor
    · intro h
      cases h
      exact ⟨m, hfirst, rfl⟩
    · rintro ⟨m', hm', rfl⟩
      rw [hfirst.unique hacyclic hm']

theorem coversSubtree_of_ok (hacyclic : mailbox.Acyclic) (hmem : folder ∈ mailbox.folders)
    (hplain : folder.isMountpoint = false)
    (hnone : ∀ f, mailbox.Within folder.id f → ¬ mailbox.IsNested f)
    (hok : ∀ truth, (Predicate.folder target true).compile mailbox settings truth =
      .ok (mailbox.subtreeOperation folder truth)) :
    mailbox.CoversSubtree settings target folder := by
  refine ⟨fun truth => ⟨fun _ => hnone, fun _ => ⟨_, hok truth⟩⟩, fun truth fault => ?_,
    fun operation h item => ?_, fun operation h => ?_⟩
  · rw [hok]
    constructor
    · intro h
      cases h
    · rintro ⟨m, hm, -⟩
      exact absurd hm.nested (hnone m hm.within)
  · rw [hok] at h
    cases h
    exact selects_subtreeOperation_iff hacyclic hmem hplain item
  · rw [hok] at h
    cases h
    exact ⟨(mailbox.subtree folder).map constraintOf, rfl, hok false,
      selects_subtreeOperation_false mailbox folder⟩

end

/-- Whatever the folders of the mailbox are, as long as none is its own ancestor. -/
theorem compile_subfolders (mailbox : Mailbox) (hacyclic : mailbox.Acyclic) (settings : Settings)
    (target : FolderTarget) (folder : Folder)
    (htarget : mailbox.LeadsTo settings.mountpointLimit folder target) :
    mailbox.CoversSubtree settings target folder := by
  obtain ⟨hmem, hplain⟩ := htarget.finds.own
  have hcompile : ∀ truth, (Predicate.folder target true).compile mailbox settings truth =
      match (mailbox.subtree folder).find? (mailbox.IsNested ·) with
      | some m => .error (.nestedLocalMountpoint m.id)
      | none => .ok (mailbox.subtreeOperation folder truth) :=
    fun truth => (htarget.compileFolder_eq truth).trans (compileSubtree_eq hmem truth)
  cases hfound : (mailbox.subtree folder).find? (mailbox.IsNested ·) with
  | some m =>
    have hfirst := (find?_nested_iff hacyclic hmem).1 hfound
    exact coversSubtree_of_error hacyclic hfirst fun truth => by rw [hcompile, hfound]
  | none =>
    have hnone : ∀ f, mailbox.Within folder.id f → ¬ mailbox.IsNested f := by
      intro f hf
      have hclear := List.find?_eq_none.1 hfound f ((mem_subtree_iff hacyclic hmem).2 hf)
      simpa using hclear
    exact coversSubtree_of_ok hacyclic hmem hplain hnone fun truth => by rw [hcompile, hfound]

/-- A folder with two beneath it, the second of which stands for a folder of another account. -/
theorem work_folder_covered :
    let account : AccountId := ⟨List.replicate 32 0, rfl⟩
    let other : AccountId := ⟨List.replicate 32 15, rfl⟩
    let work : Folder := ⟨257, some inboxId, "Work", "/Inbox/Work", .regular⟩
    let old : Folder := ⟨258, some 257, "Old", "/Inbox/Work/Old", .regular⟩
    let partner : Folder := ⟨259, some 257, "Partner", "/Inbox/Work/Partner", .mountpoint other 55⟩
    let mailbox := { Mailbox.new account "" with
      table := (((Mailbox.new account "").table.put work).put old).put partner }
    let settings := Settings.standard ⟨0, 0⟩
    mailbox.Acyclic ∧ mailbox.LeadsTo settings.mountpointLimit work (.path "inbox/WORK") ∧
      mailbox.CoversSubtree settings (.path "inbox/WORK") work := by
  intro account other work old partner mailbox settings
  have hacyclic : mailbox.Acyclic := acyclic_of_all (by decide)
  have hleads : mailbox.LeadsTo settings.mountpointLimit work (.path "inbox/WORK") := by
    unfold LeadsTo
    decide +kernel
  exact ⟨hacyclic, hleads, compile_subfolders mailbox hacyclic settings _ work hleads⟩

end Mailbox

end Sift
