/-
  Sift.Proofs.Folder.Mountpoint — questions about a mountpoint to a folder of the same mailbox are
  questions about that folder.

  The walk from the mountpoint passes one mountpoint more than the walk from its target, and remembers
  it. That matters where the walk comes back to the mountpoint, or has passed as many as it may already
  (`Trail` is what the walk from the target passes).

  - `settle_congr`: what the search remembers besides the mountpoints ahead, and how many more it may
    pass than there are ahead, changes nothing.
  - `compile_mountpoint`: the two questions compile to the same operation whenever the one about the
    mountpoint compiles, and fail alike where the walk does not get into its own way (`Transparent`).
-/

import Sift.Predicate.Compile
import Sift.Proofs.Mailbox.Route
import Sift.Proofs.Mailbox.Subtree

namespace Sift

namespace Mailbox

variable {mailbox : Mailbox} {limit : Nat}

/-! ## What is passed -/

/-- From the folder with the id `start` the path leads through these mountpoints of the mailbox, in this
    order, to where it stops. -/
def Trail (mailbox : Mailbox) (start : FolderId) (path : Option String) (passed : List FolderId) : Prop :=
  ∃ next stop, mailbox.follow start path = .ok next ∧ mailbox.Walk next passed stop ∧
    mailbox.ownTarget stop.1 = none

/-- The walk has one way to go. -/
theorem Walk.unique {start stop stop' : Stop} {passed passed' : List FolderId}
    (h : mailbox.Walk start passed stop) (hstop : mailbox.ownTarget stop.1 = none)
    (h' : mailbox.Walk start passed' stop') (hstop' : mailbox.ownTarget stop'.1 = none) :
    passed = passed' := by
  induction h generalizing passed' with
  | here stop =>
    cases h' with
    | here => rfl
    | pass htarget =>
      rw [hstop] at htarget
      cases htarget
  | @pass folder rest target next stop passed htarget hfollow hwalk ih =>
    cases h' with
    | here =>
      rw [hstop'] at htarget
      cases htarget
    | pass htarget' hfollow' hwalk' =>
      obtain rfl := Option.some.inj (htarget.symm.trans htarget')
      obtain rfl := Except.ok.inj (hfollow.symm.trans hfollow')
      rw [ih hstop hwalk']

theorem Trail.unique {start : FolderId} {path : Option String} {passed passed' : List FolderId}
    (h : mailbox.Trail start path passed) (h' : mailbox.Trail start path passed') :
    passed = passed' := by
  obtain ⟨next, stop, hnext, hwalk, hstop⟩ := h
  obtain ⟨next', stop', hnext', hwalk', hstop'⟩ := h'
  obtain rfl := Except.ok.inj (hnext.symm.trans hnext')
  exact hwalk.unique hstop hwalk' hstop'

/-- The induction is on the walk: at each mountpoint both searches have it behind them, or neither, and
    both may pass it. -/
theorem settle_congr {start stop : Stop} {passed : List FolderId} (h : mailbox.Walk start passed stop)
    (hstop : mailbox.ownTarget stop.1 = none) {left left' : Nat} {seen seen' : List FolderId}
    (hleft : passed.length ≤ left) (hleft' : passed.length ≤ left')
    (hseen : ∀ id ∈ passed, id ∈ seen ↔ id ∈ seen') :
    mailbox.settle limit left seen start.1 start.2 = mailbox.settle limit left' seen' start.1 start.2 := by
  induction h generalizing left left' seen seen' with
  | here stop => rw [settle_arrived hstop, settle_arrived hstop]
  | @pass folder rest target next stop passed htarget hfollow hwalk ih =>
    rw [settle_own htarget, settle_own htarget]
    by_cases hfolder : folder.id ∈ seen
    · rw [if_pos hfolder, if_pos ((hseen folder.id List.mem_cons_self).1 hfolder)]
    rw [if_neg hfolder, if_neg fun h => hfolder ((hseen folder.id List.mem_cons_self).2 h), hfollow]
    simp only [List.length_cons] at hleft hleft'
    cases left with
    | zero => omega
    | succ left =>
      cases left' with
      | zero => omega
      | succ left' =>
        apply ih hstop
        · omega
        · omega
        · intro id hid
          simp only [List.mem_cons]
          rw [hseen id (List.mem_cons_of_mem _ hid)]

/-! ## From a mountpoint to its target -/

section

variable {m : Folder} {target : FolderId} (hmem : m ∈ mailbox.folders)
  (hkind : m.kind = .mountpoint mailbox.account target)

include hkind in
theorem ownTarget_of_kind : mailbox.ownTarget m = some target := by
  simp [ownTarget, hkind]

include hkind in
theorem descend_of_kind (names : List String) : mailbox.descend m names = (m, names) := by
  cases names with
  | nil => rfl
  | cons name names => simp [descend, Folder.isMountpoint, hkind]

include hmem hkind in
/-- No name of the path is used up before the mountpoint is passed. -/
theorem follow_of_kind (path : Option String) :
    mailbox.follow m.id path = .ok (m, joinNames (leftNames path)) := by
  rw [follow_eq, folderById_id hmem]
  simp only [Except.map, descend_of_kind hkind]

theorem placeOfId_own (id : FolderId) (path : Option String) :
    mailbox.placeOfId limit ⟨mailbox.account, id⟩ path =
      (mailbox.follow id path).bind fun next => mailbox.placeOf limit next.1 next.2 := by
  simp only [placeOfId, ItemId.belongsTo, beq_self_eq_true, if_true]
  rfl

include hmem hkind in
theorem trail_of_kind {path : Option String} {all : List FolderId}
    (h : mailbox.Trail m.id path all) :
    ∃ passed, all = m.id :: passed ∧ mailbox.Trail target path passed := by
  obtain ⟨next, stop, hnext, hwalk, hstop⟩ := h
  rw [follow_of_kind hmem hkind] at hnext
  obtain rfl := Except.ok.inj hnext
  cases hwalk with
  | here =>
    rw [ownTarget_of_kind hkind] at hstop
    cases hstop
  | @pass _ _ _ next _ passed htarget hfollow hwalk =>
    obtain rfl := Option.some.inj ((ownTarget_of_kind hkind).symm.trans htarget)
    rw [follow_joinNames] at hfollow
    exact ⟨passed, rfl, next, stop, hfollow, hwalk, hstop⟩

include hmem hkind in
theorem placeOfId_of_kind {path : Option String} {passed : List FolderId}
    (h : mailbox.Trail target path passed) (hm : m.id ∉ passed) (hroom : passed.length < limit) :
    mailbox.placeOfId limit ⟨mailbox.account, m.id⟩ path =
      mailbox.placeOfId limit ⟨mailbox.account, target⟩ path := by
  obtain ⟨next, stop, hnext, hwalk, hstop⟩ := h
  rw [placeOfId_own, placeOfId_own, follow_of_kind hmem hkind, hnext]
  show mailbox.placeOf limit m (joinNames (leftNames path)) = mailbox.placeOf limit next.1 next.2
  rw [placeOf, settle_own (ownTarget_of_kind hkind), if_neg List.not_mem_nil, follow_joinNames, hnext]
  cases limit with
  | zero => omega
  | succ left =>
    apply settle_congr hwalk hstop
    · omega
    · omega
    · intro id hid
      have hne : id ≠ m.id := by
        rintro rfl
        exact hm hid
      simp [hne]

end

/-! ## Questions -/

/-- The question for what is in the folder with that id, or where the path leads from there. -/
def idQuestion (mailbox : Mailbox) (id : FolderId) (path : Option String) (withSubfolders : Bool) :
    Predicate :=
  .folder (.id ⟨mailbox.account, id⟩ path) withSubfolders

theorem compile_idQuestion (settings : Settings) (id : FolderId) (path : Option String)
    (withSubfolders truth : Bool) :
    (mailbox.idQuestion id path withSubfolders).compile mailbox settings truth =
      (mailbox.placeOfId settings.mountpointLimit ⟨mailbox.account, id⟩ path).bind
        (mailbox.compilePlace withSubfolders truth) := rfl

theorem exists_trail_of_compile {settings : Settings} {id : FolderId} {path : Option String}
    {withSubfolders truth : Bool} {operation : Operation}
    (h : (mailbox.idQuestion id path withSubfolders).compile mailbox settings truth = .ok operation) :
    ∃ passed, mailbox.Trail id path passed ∧ passed.Nodup ∧
      passed.length ≤ settings.mountpointLimit := by
  rw [compile_idQuestion] at h
  obtain ⟨place, hplace, -⟩ := exists_of_bind h
  rw [placeOfId_own] at hplace
  obtain ⟨next, hnext, hplace⟩ := exists_of_bind hplace
  obtain ⟨passed, stop, hwalk, hn, hlen, hstop, -⟩ := exists_walk_of_placeOf hplace
  exact ⟨passed, ⟨next, stop, hnext, hwalk, hstop⟩, hn, hlen⟩

/-- How the question about a mountpoint and the one about its target compare. -/
structure Transparent (mailbox : Mailbox) (settings : Settings) (m : Folder) (target : FolderId)
    (path : Option String) (withSubfolders truth : Bool) : Prop where
  /-- What the mountpoint's question compiles to is what its target's does. -/
  through : ∀ operation,
    (mailbox.idQuestion m.id path withSubfolders).compile mailbox settings truth = .ok operation →
    (mailbox.idQuestion target path withSubfolders).compile mailbox settings truth = .ok operation
  /-- The other way round, that is so if the walk from the target does not pass the mountpoint and has
      one more to pass; and not otherwise. -/
  back : ∀ operation,
    (mailbox.idQuestion target path withSubfolders).compile mailbox settings truth = .ok operation →
    ∃ passed, mailbox.Trail target path passed ∧
      (m.id ∉ passed ∧ passed.length < settings.mountpointLimit ↔
        (mailbox.idQuestion m.id path withSubfolders).compile mailbox settings truth = .ok operation)
  /-- Such a walk makes them fail alike too. -/
  alike : ∀ passed, mailbox.Trail target path passed → m.id ∉ passed →
    passed.length < settings.mountpointLimit →
    (mailbox.idQuestion m.id path withSubfolders).compile mailbox settings truth =
      (mailbox.idQuestion target path withSubfolders).compile mailbox settings truth

theorem compile_mountpoint {m : Folder} {target : FolderId} (hmem : m ∈ mailbox.folders)
    (hkind : m.kind = .mountpoint mailbox.account target) (settings : Settings)
    (path : Option String) (withSubfolders truth : Bool) :
    mailbox.Transparent settings m target path withSubfolders truth := by
  have halike : ∀ passed, mailbox.Trail target path passed → m.id ∉ passed →
      passed.length < settings.mountpointLimit →
      (mailbox.idQuestion m.id path withSubfolders).compile mailbox settings truth =
        (mailbox.idQuestion target path withSubfolders).compile mailbox settings truth := by
    intro passed htrail hm hroom
    rw [compile_idQuestion, compile_idQuestion, placeOfId_of_kind hmem hkind htrail hm hroom]
  -- Where the mountpoint's question compiles, the walk from it has passed the mountpoint first.
  have hroom : ∀ operation,
      (mailbox.idQuestion m.id path withSubfolders).compile mailbox settings truth = .ok operation →
      ∃ passed, mailbox.Trail target path passed ∧ m.id ∉ passed ∧
        passed.length < settings.mountpointLimit := by
    intro operation h
    obtain ⟨all, hall, hn, hlen⟩ := exists_trail_of_compile h
    obtain ⟨passed, rfl, htrail⟩ := trail_of_kind hmem hkind hall
    exact ⟨passed, htrail, (List.nodup_cons.1 hn).1, hlen⟩
  refine ⟨?_, ?_, halike⟩
  · intro operation h
    obtain ⟨passed, htrail, hm, hless⟩ := hroom operation h
    rw [← halike passed htrail hm hless]
    exact h
  · intro operation h
    obtain ⟨passed, htrail, -, -⟩ := exists_trail_of_compile h
    refine ⟨passed, htrail, ?_, ?_⟩
    · rintro ⟨hm, hless⟩
      rw [halike passed htrail hm hless]
      exact h
    · intro hcompile
      obtain ⟨passed', htrail', hm, hless⟩ := hroom operation hcompile
      rw [htrail.unique htrail']
      exact ⟨hm, hless⟩

/-- A mountpoint that stands for another one, and a path that goes on beneath what both stand for. -/
theorem chain_transparent :
    let account : AccountId := ⟨List.replicate 32 0, rfl⟩
    let work : Folder := ⟨257, some rootId, "Work", "/Work", .regular⟩
    let old : Folder := ⟨258, some 257, "Old", "/Work/Old", .regular⟩
    let shared : Folder := ⟨300, some rootId, "Shared", "/Shared", .mountpoint account 257⟩
    let chain : Folder := ⟨301, some rootId, "Chain", "/Chain", .mountpoint account 300⟩
    let mailbox : Mailbox := ⟨account, "", [], ⟨[root, work, old, shared, chain], by decide⟩, []⟩
    let settings := Settings.standard ⟨0, 0⟩
    chain ∈ mailbox.folders ∧ chain.kind = .mountpoint mailbox.account 300 ∧
      (mailbox.idQuestion 301 (some "/old/") false).compile mailbox settings false =
        .ok (.db (.inFolder 258) false) ∧
      mailbox.Transparent settings chain 300 (some "/old/") false false := by
  intro account work old shared chain mailbox settings
  have hmem : chain ∈ mailbox.folders := by simp [mailbox, folders]
  have hplace : mailbox.placeOfId settings.mountpointLimit ⟨account, 301⟩ (some "/old/") =
      .ok (.own old) := by decide +kernel
  refine ⟨hmem, rfl, ?_, compile_mountpoint hmem rfl settings (some "/old/") false false⟩
  rw [compile_idQuestion, hplace]
  rfl

end Mailbox

end Sift
