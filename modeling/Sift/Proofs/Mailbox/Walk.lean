/-
  Sift.Proofs.Mailbox.Walk — the walk through the mountpoints of a mailbox (see `Sift.Mailbox.Place`).

  `Walk` is the walk that no limit and no memory holds up: from a folder and the path that is left
  beneath it, the mountpoints into the same mailbox that are passed, one after the other. `Ends` says
  what the search answers at a stop, given what it passed on the way there.

  - `placeOf_eq_iff`: the search passes mountpoints along the walk, each once and no more than the
    limit, and answers at the first stop where it ends.
  - `placeOf_bounded`: so it passes no more than the mailbox has; it answers with a cycle or with the
    limit exactly where the walk comes back (`ComesBack`) or goes on too long (`GoesTooDeep`); and a
    limit only ever cuts off.
-/

import Sift.Mailbox.Place
import Sift.Proofs.Mailbox.Lookup

namespace Sift.Mailbox

/-- A folder on the way, and the path that is left beneath it. -/
abbrev Stop := Folder × Option String

/-- The folder that a mountpoint stands for, if it is of this mailbox. -/
def ownTarget (mailbox : Mailbox) (folder : Folder) : Option FolderId :=
  match folder.kind with
  | .mountpoint owner target => if owner = mailbox.account then some target else none
  | .regular | .search => none

def ownMountpoints (mailbox : Mailbox) : List Folder :=
  mailbox.folders.filter fun f => (mailbox.ownTarget f).isSome

/-- From the first stop the walk passes these mountpoints, in this order, and reaches the last. -/
inductive Walk (mailbox : Mailbox) : Stop → List FolderId → Stop → Prop
  | here (stop : Stop) : Walk mailbox stop [] stop
  | pass {folder : Folder} {rest : Option String} {target : FolderId} {next stop : Stop}
      {passed : List FolderId} : mailbox.ownTarget folder = some target →
      mailbox.follow target rest = .ok next → Walk mailbox next passed stop →
      Walk mailbox (folder, rest) (folder.id :: passed) stop

/-- The answer at a stop that is no mountpoint of this mailbox. -/
def arrival (stop : Stop) : Except Fault Place :=
  match stop.1.kind, stop.2 with
  | .mountpoint owner target, rest => .ok (.foreign owner target rest)
  | _, none => .ok (.own stop.1)
  | _, some rest =>
    let above := String.ofList (Text.dropTrailing (· == '/') stop.1.path.toList)
    .error (.notFound (.folderPath (above ++ "/" ++ rest)))

/-- What the search answers at a stop where it ends, after the mountpoints it passed. -/
inductive Ends (mailbox : Mailbox) (limit : Nat) (passed : List FolderId) :
    Stop → Except Fault Place → Prop
  | arrived {stop : Stop} : mailbox.ownTarget stop.1 = none →
      Ends mailbox limit passed stop (arrival stop)
  | cycle {stop : Stop} {target : FolderId} : mailbox.ownTarget stop.1 = some target →
      stop.1.id ∈ passed → Ends mailbox limit passed stop (.error (.mountpointCycle stop.1.id))
  | tooDeep {stop : Stop} {target : FolderId} : mailbox.ownTarget stop.1 = some target →
      stop.1.id ∉ passed → passed.length = limit →
      Ends mailbox limit passed stop (.error (.mountpointTooDeep limit))
  | lost {stop : Stop} {target : FolderId} {fault : Fault} :
      mailbox.ownTarget stop.1 = some target → stop.1.id ∉ passed → passed.length < limit →
      mailbox.follow target stop.2 = .error fault → Ends mailbox limit passed stop (.error fault)

variable {mailbox : Mailbox} {limit : Nat}

/-! ## One step -/

theorem settle_arrived {left : Nat} {passed : List FolderId} {folder : Folder}
    {rest : Option String} (h : mailbox.ownTarget folder = none) :
    mailbox.settle limit left passed folder rest = arrival (folder, rest) := by
  unfold ownTarget at h
  unfold settle arrival
  cases hk : folder.kind with
  | regular => cases rest <;> rfl
  | search => cases rest <;> rfl
  | mountpoint owner target =>
    have hne : owner ≠ mailbox.account := fun he => by simp [hk, he] at h
    simp [hne]

theorem settle_own {left : Nat} {passed : List FolderId} {folder : Folder} {rest : Option String}
    {target : FolderId} (h : mailbox.ownTarget folder = some target) :
    mailbox.settle limit left passed folder rest =
      if folder.id ∈ passed then .error (.mountpointCycle folder.id)
      else match left with
        | 0 => .error (.mountpointTooDeep limit)
        | left + 1 => (mailbox.follow target rest).bind fun next =>
          mailbox.settle limit left (folder.id :: passed) next.1 next.2 := by
  unfold ownTarget at h
  cases hk : folder.kind with
  | regular => simp [hk] at h
  | search => simp [hk] at h
  | mountpoint owner aim =>
    have ho : owner = mailbox.account ∧ aim = target := by simpa [hk] using h
    rw [settle.eq_def]
    simp only [hk, ho.1, ho.2, ne_eq, not_true_eq_false, if_false]
    cases left <;> rfl

/-- The search at a stop where it ends. -/
theorem settle_of_ends {left : Nat} {passed : List FolderId} {stop : Stop}
    {answer : Except Fault Place} (h : mailbox.Ends limit passed stop answer)
    (hleft : passed.length + left = limit) :
    mailbox.settle limit left passed stop.1 stop.2 = answer := by
  cases h with
  | arrived ht => exact settle_arrived ht
  | cycle ht hp => rw [settle_own ht, if_pos hp]
  | tooDeep ht hp hl =>
    obtain rfl : left = 0 := by omega
    rw [settle_own ht, if_neg hp]
  | lost ht hp hl hf =>
    obtain ⟨left, rfl⟩ : ∃ n, left = n + 1 := ⟨left - 1, by omega⟩
    rw [settle_own ht, if_neg hp, hf]
    rfl

/-- What was passed counts, and not in which order. -/
theorem Ends.perm {passed passed' : List FolderId} {stop : Stop} {answer : Except Fault Place}
    (h : mailbox.Ends limit passed stop answer) (hp : passed.Perm passed') :
    mailbox.Ends limit passed' stop answer := by
  cases h with
  | arrived ht => exact .arrived ht
  | cycle ht hm => exact .cycle ht (hp.mem_iff.1 hm)
  | tooDeep ht hm hl => exact .tooDeep ht (fun hm' => hm (hp.mem_iff.2 hm')) (hp.length_eq ▸ hl)
  | lost ht hm hl hf =>
    exact .lost ht (fun hm' => hm (hp.mem_iff.2 hm')) (hp.length_eq ▸ hl) hf

/-! ## The whole search -/

/-- The induction is on how many mountpoints may still be passed: the search passes one and has one
    less, or it ends. -/
theorem settle_ends (mailbox : Mailbox) (left : Nat) (passed : List FolderId) (folder : Folder) (rest : Option String)
    (hleft : passed.length + left = limit) :
    ∃ steps stop, mailbox.Walk (folder, rest) steps stop ∧ steps.Nodup ∧
      (∀ id ∈ steps, id ∉ passed) ∧ steps.length ≤ left ∧
      mailbox.Ends limit (steps ++ passed) stop (mailbox.settle limit left passed folder rest) := by
  induction left generalizing passed folder rest with
  | zero =>
    refine ⟨[], (folder, rest), .here _, List.nodup_nil, by simp, Nat.le_refl 0, ?_⟩
    cases ht : mailbox.ownTarget folder with
    | none => exact settle_arrived ht ▸ .arrived ht
    | some target =>
      rw [settle_own ht]
      split
      · next hp => exact .cycle ht hp
      · next hp => exact .tooDeep ht hp hleft
  | succ left ih =>
    cases ht : mailbox.ownTarget folder with
    | none =>
      exact ⟨[], (folder, rest), .here _, List.nodup_nil, by simp, Nat.zero_le _,
        settle_arrived ht ▸ .arrived ht⟩
    | some target =>
      rw [settle_own ht]
      split
      · next hp =>
        exact ⟨[], (folder, rest), .here _, List.nodup_nil, by simp, Nat.zero_le _, .cycle ht hp⟩
      · next hp =>
        cases hf : mailbox.follow target rest with
        | error fault =>
          exact ⟨[], (folder, rest), .here _, List.nodup_nil, by simp, Nat.zero_le _,
            .lost ht hp (by simp only [List.nil_append]; omega) hf⟩
        | ok next =>
          obtain ⟨steps, stop, hw, hn, hnew, hlen, he⟩ :=
            ih (folder.id :: passed) next.1 next.2 (by simp only [List.length_cons]; omega)
          have hfresh : folder.id ∉ steps := fun hm => hnew _ hm List.mem_cons_self
          refine ⟨folder.id :: steps, stop, .pass ht hf hw, List.nodup_cons.2 ⟨hfresh, hn⟩, ?_,
            by simp only [List.length_cons]; omega, he.perm List.perm_middle⟩
          intro id hid
          rcases List.mem_cons.1 hid with rfl | hid
          · exact hp
          · exact fun hm => hnew id hid (List.mem_cons_of_mem _ hm)

/-- The search goes along the walk as long as the walk passes nothing twice. -/
theorem settle_of_walk (limit : Nat) {start stop : Stop} {steps : List FolderId}
    (h : mailbox.Walk start steps stop) {left : Nat} (passed : List FolderId) (hn : steps.Nodup)
    (hnew : ∀ id ∈ steps, id ∉ passed) (hlen : steps.length ≤ left) :
    mailbox.settle limit left passed start.1 start.2 =
      mailbox.settle limit (left - steps.length) (steps.reverse ++ passed) stop.1 stop.2 := by
  induction h generalizing left passed with
  | here stop => rfl
  | @pass folder rest target next stop steps ht hf hw ih =>
    obtain ⟨left, rfl⟩ : ∃ n, left = n + 1 := ⟨left - 1, by simp only [List.length_cons] at hlen; omega⟩
    obtain ⟨hfresh, hn⟩ := List.nodup_cons.1 hn
    have hnext : ∀ id ∈ steps, id ∉ folder.id :: passed := by
      intro id hid hm
      rcases List.mem_cons.1 hm with rfl | hm
      · exact hfresh hid
      · exact hnew id (List.mem_cons_of_mem _ hid) hm
    rw [settle_own ht, if_neg (hnew _ List.mem_cons_self), hf]
    simp only [Except.bind]
    rw [ih (folder.id :: passed) hn hnext (by simpa using hlen)]
    simp

theorem placeOf_eq_iff {folder : Folder} {rest : Option String} {answer : Except Fault Place} :
    mailbox.placeOf limit folder rest = answer ↔
      ∃ passed stop, mailbox.Walk (folder, rest) passed stop ∧ passed.Nodup ∧
        passed.length ≤ limit ∧ mailbox.Ends limit passed stop answer := by
  constructor
  · rintro rfl
    obtain ⟨steps, stop, hw, hn, -, hlen, he⟩ :=
      settle_ends mailbox limit [] folder rest (Nat.zero_add limit)
    rw [List.append_nil] at he
    exact ⟨steps, stop, hw, hn, hlen, he⟩
  · rintro ⟨passed, stop, hw, hn, hlen, he⟩
    have := settle_of_walk limit hw [] hn (by simp) hlen
    rw [placeOf, this, List.append_nil]
    exact settle_of_ends (he.perm (List.reverse_perm passed).symm) (by simp only [List.length_reverse]; omega)

/-! ## Which answer it is -/

/-- The mountpoint is the first to be reached a second time, before the limit cuts in. -/
def ComesBack (mailbox : Mailbox) (limit : Nat) (start : Stop) (id : FolderId) : Prop :=
  ∃ passed stop, mailbox.Walk start passed stop ∧ passed.Nodup ∧ passed.length ≤ limit ∧
    (mailbox.ownTarget stop.1).isSome ∧ stop.1.id = id ∧ id ∈ passed

/-- More mountpoints than the limit are reached, all of them different. -/
def GoesTooDeep (mailbox : Mailbox) (limit : Nat) (start : Stop) : Prop :=
  ∃ passed stop, mailbox.Walk start passed stop ∧ (mailbox.ownTarget stop.1).isSome ∧
    (stop.1.id :: passed).Nodup ∧ limit < (stop.1.id :: passed).length

theorem arrival_eq_error {stop : Stop} {fault : Fault} (h : arrival stop = .error fault) :
    ∃ path, fault = .notFound (.folderPath path) := by
  unfold arrival at h
  split at h <;> cases h
  exact ⟨_, rfl⟩

theorem placeOf_eq_cycle_iff {folder : Folder} {rest : Option String} {id : FolderId} :
    mailbox.placeOf limit folder rest = .error (.mountpointCycle id) ↔
      mailbox.ComesBack limit (folder, rest) id := by
  rw [placeOf_eq_iff]
  constructor
  · rintro ⟨passed, stop, hw, hn, hlen, he⟩
    refine ⟨passed, stop, hw, hn, hlen, ?_⟩
    generalize ha : (Except.error (Fault.mountpointCycle id) : Except Fault Place) = answer at he
    cases he with
    | arrived ht =>
      obtain ⟨path, hp⟩ := arrival_eq_error ha.symm
      cases hp
    | cycle ht hp =>
      cases ha
      exact ⟨by simp [ht], rfl, hp⟩
    | tooDeep => cases ha
    | lost ht hp hl hf =>
      cases ha
      cases follow_error hf
  · rintro ⟨passed, stop, hw, hn, hlen, ho, rfl, hp⟩
    obtain ⟨target, ht⟩ := Option.isSome_iff_exists.1 ho
    exact ⟨passed, stop, hw, hn, hlen, .cycle ht hp⟩

/-- A walk can be stopped at any of the mountpoints it passes. -/
theorem Walk.split {start stop : Stop} {front : List FolderId} {id : FolderId} {back : List FolderId}
    (h : mailbox.Walk start (front ++ id :: back) stop) :
    ∃ mid : Stop, mailbox.Walk start front mid ∧ (mailbox.ownTarget mid.1).isSome ∧ mid.1.id = id := by
  induction front generalizing start with
  | nil =>
    cases h with
    | pass ht hf hw => exact ⟨_, .here _, by simp [ht], rfl⟩
  | cons first front ih =>
    cases h with
    | pass ht hf hw =>
      obtain ⟨mid, hm, ho, hid⟩ := ih hw
      exact ⟨mid, .pass ht hf hm, ho, hid⟩

theorem placeOf_eq_tooDeep_iff {folder : Folder} {rest : Option String} {n : Nat} :
    mailbox.placeOf limit folder rest = .error (.mountpointTooDeep n) ↔
      n = limit ∧ mailbox.GoesTooDeep limit (folder, rest) := by
  rw [placeOf_eq_iff]
  constructor
  · rintro ⟨passed, stop, hw, hn, hlen, he⟩
    generalize ha : (Except.error (Fault.mountpointTooDeep n) : Except Fault Place) = answer at he
    cases he with
    | arrived ht =>
      obtain ⟨path, hp⟩ := arrival_eq_error ha.symm
      cases hp
    | cycle => cases ha
    | tooDeep ht hp hl =>
      cases ha
      exact ⟨rfl, passed, stop, hw, by simp [ht], List.nodup_cons.2 ⟨hp, hn⟩,
        by simp only [List.length_cons]; omega⟩
    | lost ht hp hl hf =>
      cases ha
      cases follow_error hf
  · rintro ⟨rfl, passed, stop, hw, ho, hn, hlen⟩
    obtain ⟨hfresh, hn⟩ := List.nodup_cons.1 hn
    -- The search ends as soon as it has passed as many as it may, which is perhaps before `stop`.
    have hsplit : passed.take n ++ passed.drop n = passed := List.take_append_drop n passed
    have htake : (passed.take n).length = n := by
      simp only [List.length_cons] at hlen
      rw [List.length_take]
      omega
    cases hd : passed.drop n with
    | nil =>
      obtain ⟨target, ht⟩ := Option.isSome_iff_exists.1 ho
      rw [hd, List.append_nil] at hsplit
      have hlength : passed.length = n := by simpa only [hsplit] using htake
      exact ⟨passed, stop, hw, hn, Nat.le_of_eq hlength, .tooDeep ht hfresh hlength⟩
    | cons id back =>
      rw [hd] at hsplit
      rw [← hsplit] at hw hn
      obtain ⟨mid, hm, ho, rfl⟩ := hw.split
      obtain ⟨target, ht⟩ := Option.isSome_iff_exists.1 ho
      have hnodup := List.nodup_append.1 hn
      exact ⟨passed.take n, mid, hm, hnodup.1, by omega,
        .tooDeep ht (fun hmem => hnodup.2.2 _ hmem _ List.mem_cons_self rfl) htake⟩

/-! ## The limit and the number of folders -/

/-- A greater limit changes the answer only if it was the limit that gave it. -/
theorem Ends.mono {passed : List FolderId} {stop : Stop} {answer : Except Fault Place}
    (h : mailbox.Ends limit passed stop answer)
    (hne : answer ≠ .error (.mountpointTooDeep limit)) {larger : Nat} (hle : limit ≤ larger) :
    mailbox.Ends larger passed stop answer := by
  cases h with
  | arrived ht => exact .arrived ht
  | cycle ht hp => exact .cycle ht hp
  | tooDeep => exact absurd rfl hne
  | lost ht hp hl hf => exact .lost ht hp (by omega) hf

theorem placeOf_mono {folder : Folder} {rest : Option String}
    (h : mailbox.placeOf limit folder rest ≠ .error (.mountpointTooDeep limit)) {larger : Nat}
    (hle : limit ≤ larger) : mailbox.placeOf larger folder rest = mailbox.placeOf limit folder rest := by
  obtain ⟨passed, stop, hw, hn, hlen, he⟩ := placeOf_eq_iff.1 (Eq.refl (mailbox.placeOf limit folder rest))
  exact placeOf_eq_iff.2 ⟨passed, stop, hw, hn, by omega, he.mono h hle⟩

/-- All that a walk passes are mountpoints of the mailbox, and where it stops is one of its folders. -/
theorem Walk.mem {start stop : Stop} {passed : List FolderId} (h : mailbox.Walk start passed stop)
    (hmem : start.1 ∈ mailbox.folders) :
    passed ⊆ mailbox.ownMountpoints.map (·.id) ∧ stop.1 ∈ mailbox.folders := by
  induction h with
  | here => exact ⟨List.nil_subset _, hmem⟩
  | @pass folder rest target next stop passed ht hf hw ih =>
    obtain ⟨hsub, hstop⟩ := ih (follow_mem hf)
    refine ⟨List.cons_subset.2 ⟨List.mem_map_of_mem ?_, hsub⟩, hstop⟩
    exact List.mem_filter.2 ⟨hmem, by simp [ht]⟩

theorem length_le_ownMountpoints {ids : List FolderId} (hn : ids.Nodup)
    (h : ids ⊆ mailbox.ownMountpoints.map (·.id)) : ids.length ≤ mailbox.ownMountpoints.length := by
  simpa using hn.length_le_of_subset h

theorem not_goesTooDeep {start : Stop} (hmem : start.1 ∈ mailbox.folders)
    (hlimit : mailbox.ownMountpoints.length ≤ limit) : ¬ mailbox.GoesTooDeep limit start := by
  rintro ⟨passed, stop, hw, ho, hn, hlen⟩
  obtain ⟨hsub, hstop⟩ := hw.mem hmem
  have hlast : stop.1.id ∈ mailbox.ownMountpoints.map (·.id) :=
    List.mem_map_of_mem (List.mem_filter.2 ⟨hstop, ho⟩)
  have := length_le_ownMountpoints hn (List.cons_subset.2 ⟨hlast, hsub⟩)
  omega

/-- How far the search from a folder goes, and which limits it answers with. -/
structure SearchBounds (mailbox : Mailbox) (folder : Folder) (rest : Option String) (limit : Nat) :
    Prop where
  /-- It ends after passing some mountpoints once each, no more than the limit and than there are. -/
  ends : ∃ passed stop, mailbox.Walk (folder, rest) passed stop ∧ passed.Nodup ∧
    passed.length ≤ min limit mailbox.ownMountpoints.length ∧
    mailbox.Ends limit passed stop (mailbox.placeOf limit folder rest)
  cycle_iff : ∀ id, mailbox.placeOf limit folder rest = .error (.mountpointCycle id) ↔
    mailbox.ComesBack limit (folder, rest) id
  tooDeep_iff : ∀ n, mailbox.placeOf limit folder rest = .error (.mountpointTooDeep n) ↔
    n = limit ∧ mailbox.GoesTooDeep limit (folder, rest)
  /-- A greater limit leaves every other answer as it is. -/
  larger : mailbox.placeOf limit folder rest ≠ .error (.mountpointTooDeep limit) →
    ∀ larger, limit ≤ larger →
      mailbox.placeOf larger folder rest = mailbox.placeOf limit folder rest
  enough : mailbox.folders.length ≤ limit →
    ∀ n, mailbox.placeOf limit folder rest ≠ .error (.mountpointTooDeep n)

/-- Whatever the mountpoints of a mailbox are, and whichever of its folders the search starts from. -/
theorem placeOf_bounded (mailbox : Mailbox) {folder : Folder} (hmem : folder ∈ mailbox.folders)
    (rest : Option String) (limit : Nat) : mailbox.SearchBounds folder rest limit where
  ends := by
    obtain ⟨passed, stop, hw, hn, hlen, he⟩ :=
      placeOf_eq_iff.1 (Eq.refl (mailbox.placeOf limit folder rest))
    have hfew := length_le_ownMountpoints hn (hw.mem hmem).1
    exact ⟨passed, stop, hw, hn, Nat.le_min.2 ⟨hlen, hfew⟩, he⟩
  cycle_iff _ := placeOf_eq_cycle_iff
  tooDeep_iff _ := placeOf_eq_tooDeep_iff
  larger h _ hle := placeOf_mono h hle
  enough hlimit n h := by
    have hfew : mailbox.ownMountpoints.length ≤ mailbox.folders.length := List.length_filter_le _ _
    exact not_goesTooDeep hmem (Nat.le_trans hfew hlimit) (placeOf_eq_tooDeep_iff.1 h).2

/-- Two mountpoints that stand for each other. -/
theorem two_mountpoints_bounded :
    let account : AccountId := ⟨List.replicate 32 0, rfl⟩
    let first : Folder := ⟨302, some rootId, "A", "/A", .mountpoint account 303⟩
    let second : Folder := ⟨303, some rootId, "B", "/B", .mountpoint account 302⟩
    let mailbox : Mailbox := ⟨account, "", [], { folders := [root, first, second], ascending := by decide }, []⟩
    first ∈ mailbox.folders ∧ mailbox.SearchBounds first (some "Old") 1 ∧
      mailbox.placeOf 1 first none = .error (.mountpointTooDeep 1) ∧
      mailbox.placeOf 2 first none = .error (.mountpointCycle 302) := by
  intro account first second mailbox
  have hmem : first ∈ mailbox.folders := List.mem_cons_of_mem _ List.mem_cons_self
  exact ⟨hmem, placeOf_bounded mailbox hmem (some "Old") 1, rfl, rfl⟩

end Sift.Mailbox
