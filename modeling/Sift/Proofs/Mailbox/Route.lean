/-
  Sift.Proofs.Mailbox.Route — the way that a path leads through a mailbox, name by name.

  `Route` has no limit and no path that is put together again on the way: it goes down to the folder
  that a name means, and from a mountpoint of the mailbox to the folder that it stands for.

  - `leftNames_joinNames`: a path that is written out between two mountpoints is read as the names
    that were left, so `Walk.route`: the walk through mountpoints goes along the route.
  - `placeOf_own` / `placeOf_foreign`: a search that ends in a folder of the mailbox has used up all
    names, and one that ends elsewhere is in the mailbox of another account.
-/

import Sift.Proofs.Mailbox.Walk
import Sift.Proofs.Outcome
import Sift.Proofs.Text.Trim

namespace Sift.Mailbox

/-! ## Names in a path -/

/-- What can stand between two slashes. -/
structure IsPathName (name : String) : Prop where
  nonempty : name.toList ≠ []
  slash : '/' ∉ name.toList

theorem isPathName_of_mem {path name : String} (h : name ∈ pathNames path) : IsPathName name := by
  unfold pathNames at h
  obtain ⟨cs, hcs, rfl⟩ := List.mem_map.1 h
  obtain ⟨hmem, hne⟩ := List.mem_filter.1 hcs
  constructor
  · simpa using hne
  · intro hslash
    rw [String.toList_ofList] at hslash
    obtain ⟨-, hsep⟩ := Text.spec_of_mem_splitOnP hmem hslash
    simp at hsep

theorem pathNames_intercalate {names : List String} (hne : names ≠ [])
    (h : ∀ name ∈ names, IsPathName name) : pathNames (String.intercalate "/" names) = names := by
  have hslash : ∀ cs ∈ names.map String.toList, '/' ∉ cs := by
    intro cs hcs
    obtain ⟨name, hname, rfl⟩ := List.mem_map.1 hcs
    exact (h name hname).slash
  have hfilter : (names.map String.toList).filter (!·.isEmpty) = names.map String.toList := by
    refine List.filter_eq_self.2 fun cs hcs => ?_
    obtain ⟨name, hname, rfl⟩ := List.mem_map.1 hcs
    simpa using (h name hname).nonempty
  have hsplit : (String.intercalate "/" names).toList.splitOn '/' = names.map String.toList := by
    rw [String.toList_intercalate]
    exact List.splitOn_intercalate '/' hslash (by simpa using hne)
  rw [pathNames, hsplit, hfilter, List.map_map]
  simp [Function.comp_def]

theorem joinNames_eq_none_iff {names : List String} : joinNames names = none ↔ names = [] := by
  cases names <;> simp [joinNames]

/-- The names of a path that is left, if one is. -/
def leftNames : Option String → List String
  | none => []
  | some path => pathNames path

theorem isPathName_of_mem_leftNames {path : Option String} {name : String}
    (h : name ∈ leftNames path) : IsPathName name := by
  cases path with
  | none => cases h
  | some path => exact isPathName_of_mem h

theorem leftNames_joinNames {names : List String} (h : ∀ name ∈ names, IsPathName name) :
    leftNames (joinNames names) = names := by
  cases names with
  | nil => rfl
  | cons name rest => exact pathNames_intercalate (List.cons_ne_nil name rest) h

/-! ## Routes -/

/-- From the first folder and the names beneath it, the way leads to the second folder and leaves
    these names. -/
inductive Route (mailbox : Mailbox) : Folder → List String → Folder → List String → Prop
  | here (folder : Folder) (names : List String) : Route mailbox folder names folder names
  | down {folder child last : Folder} {name : String} {names left : List String} :
      folder.isMountpoint = false → mailbox.childNamed folder.id name = some child →
      Route mailbox child names last left → Route mailbox folder (name :: names) last left
  | through {folder next last : Folder} {target : FolderId} {names left : List String} :
      mailbox.ownTarget folder = some target → mailbox.folderById target = .ok next →
      Route mailbox next names last left → Route mailbox folder names last left

variable {mailbox : Mailbox} {limit : Nat}

theorem Route.trans {first mid last : Folder} {names rest left : List String}
    (h : mailbox.Route first names mid rest) (h' : mailbox.Route mid rest last left) :
    mailbox.Route first names last left := by
  induction h with
  | here => exact h'
  | down hm hc _ ih => exact .down hm hc (ih h')
  | through ht hf _ ih => exact .through ht hf (ih h')

theorem route_descend (mailbox : Mailbox) (folder : Folder) (names : List String) :
    mailbox.Route folder names (mailbox.descend folder names).1 (mailbox.descend folder names).2 := by
  induction names generalizing folder with
  | nil => exact .here folder []
  | cons name names ih =>
    unfold descend
    split
    · exact .here folder (name :: names)
    · next hm =>
      split
      · next child hc => exact .down (by simpa using hm) hc (ih child)
      · exact .here folder (name :: names)

theorem descend_suffix (mailbox : Mailbox) (folder : Folder) (names : List String) :
    (mailbox.descend folder names).2 <:+ names := by
  induction names generalizing folder with
  | nil => exact List.suffix_rfl
  | cons name names ih =>
    unfold descend
    split
    · exact List.suffix_rfl
    · split
      · next child _ => exact (ih child).trans (List.suffix_cons name names)
      · exact List.suffix_rfl

/-- Only the names in a path count. -/
theorem follow_eq (mailbox : Mailbox) (start : FolderId) (path : Option String) :
    mailbox.follow start path = (mailbox.folderById start).map fun first =>
      ((mailbox.descend first (leftNames path)).1,
        joinNames (mailbox.descend first (leftNames path)).2) := by
  cases path <;> cases hfirst : mailbox.folderById start <;>
    simp only [follow, folderByPath, hfirst] <;> rfl

/-- A path that is put together from its names again leads to the same place. -/
theorem follow_joinNames (mailbox : Mailbox) (start : FolderId) (path : Option String) :
    mailbox.follow start (joinNames (leftNames path)) = mailbox.follow start path := by
  rw [follow_eq, follow_eq, leftNames_joinNames fun _ => isPathName_of_mem_leftNames]

/-- The names that are left are some of the path's own, so they are read again as they are. -/
theorem exists_route_of_follow {start : FolderId} {path : Option String} {next : Stop}
    (h : mailbox.follow start path = .ok next) :
    ∃ first, mailbox.folderById start = .ok first ∧
      mailbox.Route first (leftNames path) next.1 (leftNames next.2) := by
  rw [follow_eq] at h
  obtain ⟨first, hfirst, rfl⟩ := exists_of_map h
  have hnames : ∀ name ∈ (mailbox.descend first (leftNames path)).2, IsPathName name := by
    intro name hname
    exact isPathName_of_mem_leftNames ((mailbox.descend_suffix first (leftNames path)).subset hname)
  refine ⟨first, hfirst, ?_⟩
  simp only [leftNames_joinNames hnames]
  exact route_descend mailbox first (leftNames path)

theorem Walk.route {start stop : Stop} {passed : List FolderId} (h : mailbox.Walk start passed stop) :
    mailbox.Route start.1 (leftNames start.2) stop.1 (leftNames stop.2) := by
  induction h with
  | here stop => exact .here stop.1 (leftNames stop.2)
  | pass ht hf _ ih =>
    obtain ⟨first, hfirst, hroute⟩ := exists_route_of_follow hf
    exact .through ht hfirst (hroute.trans ih)

/-! ## Where a search ends -/

theorem arrival_eq_own {stop : Stop} {folder : Folder} (h : arrival stop = .ok (.own folder)) :
    stop = (folder, none) ∧ folder.isMountpoint = false := by
  obtain ⟨last, rest⟩ := stop
  unfold arrival at h
  cases hk : last.kind with
  | mountpoint owner target => simp [hk] at h
  | regular | search =>
    cases rest with
    | some rest => simp [hk] at h
    | none =>
      have hlast : last = folder := by simpa [hk] using h
      subst hlast
      exact ⟨rfl, by simp [Folder.isMountpoint, hk]⟩

theorem arrival_eq_foreign {stop : Stop} {owner : AccountId} {folder : FolderId}
    {rest : Option String} (h : arrival stop = .ok (.foreign owner folder rest)) :
    stop.1.kind = .mountpoint owner folder ∧ stop.2 = rest := by
  obtain ⟨last, left⟩ := stop
  unfold arrival at h
  cases hk : last.kind with
  | mountpoint owner' target =>
    simp only [hk, Except.ok.injEq, Place.foreign.injEq] at h
    obtain ⟨rfl, rfl, rfl⟩ := h
    exact ⟨rfl, rfl⟩
  | regular | search => cases left <;> simp [hk] at h

/-- A search that finds a place has walked to it. -/
theorem exists_walk_of_placeOf {start : Folder} {rest : Option String} {place : Place}
    (h : mailbox.placeOf limit start rest = .ok place) :
    ∃ passed stop, mailbox.Walk (start, rest) passed stop ∧ passed.Nodup ∧ passed.length ≤ limit ∧
      mailbox.ownTarget stop.1 = none ∧ arrival stop = .ok place := by
  obtain ⟨passed, stop, hw, hn, hlen, he⟩ := placeOf_eq_iff.1 h
  generalize ha : (Except.ok place : Except Fault Place) = answer at he
  cases he with
  | arrived ht => exact ⟨passed, stop, hw, hn, hlen, ht, rfl⟩
  | cycle => cases ha
  | tooDeep => cases ha
  | lost => cases ha

theorem placeOf_own {start folder : Folder} {rest : Option String}
    (h : mailbox.placeOf limit start rest = .ok (.own folder)) :
    mailbox.Route start (leftNames rest) folder [] ∧ folder.isMountpoint = false ∧
      (start ∈ mailbox.folders → folder ∈ mailbox.folders) := by
  obtain ⟨passed, stop, hw, -, -, -, ha⟩ := exists_walk_of_placeOf h
  obtain ⟨rfl, hm⟩ := arrival_eq_own ha
  exact ⟨hw.route, hm, fun hstart => (hw.mem hstart).2⟩

theorem placeOf_foreign {start : Folder} {rest subpath : Option String} {owner : AccountId}
    {id : FolderId} (h : mailbox.placeOf limit start rest = .ok (.foreign owner id subpath)) :
    owner ≠ mailbox.account := by
  obtain ⟨passed, stop, -, -, -, ht, ha⟩ := exists_walk_of_placeOf h
  obtain ⟨hk, -⟩ := arrival_eq_foreign ha
  intro howner
  simp [ownTarget, hk, howner] at ht

end Sift.Mailbox
