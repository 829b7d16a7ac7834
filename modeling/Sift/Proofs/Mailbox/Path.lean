/-
  Sift.Proofs.Mailbox.Path — paths that are longer by another path.

  A path is looked up as far as its names lead, and what is left of it is put together again. The search
  for a folder looks that up once more, from the folder that a mountpoint stands for.

  - `descend_append`: where some names lead, more names lead on from there, unless some were left.
  - `descend_held`: names are left at a mountpoint, or where no folder has the first of them.
  - `folderByPath_composes`: a lookup that uses up its path can be cut in two at any slash; one that does
    not leaves the rest of its path, and of any longer path that rest and the names that follow
    (`ComposesAt`).
-/

import Sift.Proofs.Mailbox.Route
import Sift.Proofs.Mailbox.Subtree

namespace Sift.Mailbox

variable {mailbox : Mailbox}

/-! ## Names -/

theorem pathNames_of_isPathName {name : String} (h : IsPathName name) : pathNames name = [name] := by
  have hone := pathNames_intercalate (List.cons_ne_nil name []) (by simpa using h)
  rwa [String.intercalate_singleton] at hone

theorem pathNames_slash (path more : String) :
    pathNames (path ++ "/" ++ more) = pathNames path ++ pathNames more := by
  have htext : (path ++ "/" ++ more).toList = path.toList ++ '/' :: more.toList := by simp
  simp only [pathNames, htext]
  rw [List.splitOn_append_cons_self, List.filter_append, List.map_append]

theorem intercalate_cons_eq_join (name : String) (more : List String) :
    String.intercalate "/" (name :: more) = name ++ String.join (more.map ("/" ++ ·)) := by
  induction more generalizing name with
  | nil => simp
  | cons next more ih =>
    rw [String.intercalate_cons_cons, ih, List.map_cons, String.join_cons, String.append_assoc,
      String.append_assoc]

/-- Names that follow others in a path stand behind a slash each. -/
theorem joinNames_append {names : List String} (hne : names ≠ []) (more : List String) :
    joinNames (names ++ more) =
      some (String.intercalate "/" names ++ String.join (more.map ("/" ++ ·))) := by
  cases names with
  | nil => exact absurd rfl hne
  | cons name names =>
    rw [joinNames, if_neg (by simp), List.cons_append, intercalate_cons_eq_join,
      intercalate_cons_eq_join, List.map_append, String.join_append, String.append_assoc]

/-! ## Down along names -/

/-- More names lead on from where the first ones led, unless some of these were left. -/
theorem descend_append (folder : Folder) (names more : List String) :
    mailbox.descend folder (names ++ more) =
      if (mailbox.descend folder names).2 = [] then
        mailbox.descend (mailbox.descend folder names).1 more
      else
        ((mailbox.descend folder names).1, (mailbox.descend folder names).2 ++ more) := by
  induction names generalizing folder with
  | nil => simp [descend]
  | cons name names ih =>
    rw [List.cons_append, descend, descend]
    by_cases hmount : folder.isMountpoint = true
    · simp [hmount]
    · rw [if_neg hmount, if_neg hmount]
      cases hchild : mailbox.childNamed folder.id name with
      | none => simp
      | some child => exact ih child

theorem descend_held {folder last : Folder} {names left : List String} {name : String}
    (h : mailbox.descend folder names = (last, name :: left)) :
    last.isMountpoint = true ∨ mailbox.childNamed last.id name = none := by
  induction names generalizing folder with
  | nil => cases h
  | cons next names ih =>
    rw [descend] at h
    split at h
    · next hmount =>
      cases h
      exact .inl hmount
    · cases hchild : mailbox.childNamed folder.id next with
      | none =>
        simp only [hchild] at h
        cases h
        exact .inr hchild
      | some child =>
        simp only [hchild] at h
        exact ih h

theorem childNamed_eq_none_iff {id : FolderId} {name : String} :
    mailbox.childNamed id name = none ↔
      ∀ child ∈ mailbox.folders, child.parent = some id → Text.sameAscii child.name name = false := by
  simp [childNamed]

/-! ## Lookups -/

theorem folderByPath_of_mem {first : Folder} (h : first ∈ mailbox.folders) (path : String) :
    mailbox.folderByPath first.id path =
      .ok ((mailbox.descend first (pathNames path)).1,
        joinNames (mailbox.descend first (pathNames path)).2) := by
  rw [folderByPath_eq_follow, follow_eq, folderById_id h]
  rfl

/-- What the folder and the rest that a path leads to say about that path and all longer ones. -/
structure ComposesAt (mailbox : Mailbox) (start : FolderId) (path : String) (last : Folder)
    (rest : Option String) : Prop where
  /-- With nothing left, a longer path is looked up from there. -/
  arrived : rest = none → ∀ more,
    mailbox.folderByPath start (path ++ "/" ++ more) = mailbox.folderByPath last.id more
  /-- With something left, the names of a longer path are left too. -/
  held : ∀ left, rest = some left → ∀ more,
    mailbox.folderByPath start (path ++ "/" ++ more) =
      .ok (last, some (left ++ String.join ((pathNames more).map ("/" ++ ·))))
  /-- What is left are the last names of the path, of which the first leads no further. -/
  left : ∀ left, rest = some left → ∃ name names, name :: names <:+ pathNames path ∧
    left = String.intercalate "/" (name :: names) ∧
    (last.isMountpoint = true ∨ ∀ child ∈ mailbox.folders, child.parent = some last.id →
      Text.sameAscii child.name name = false)

theorem folderByPath_composes {first : Folder} (hfirst : first ∈ mailbox.folders) (path : String) :
    ∃ last rest, mailbox.folderByPath first.id path = .ok (last, rest) ∧
      mailbox.ComposesAt first.id path last rest := by
  have hlast := descend_mem hfirst (pathNames path)
  have hsuffix := mailbox.descend_suffix first (pathNames path)
  obtain ⟨⟨last, left⟩, hdescend⟩ : ∃ stop, mailbox.descend first (pathNames path) = stop := ⟨_, rfl⟩
  rw [hdescend] at hlast hsuffix
  refine ⟨last, joinNames left, by rw [folderByPath_of_mem hfirst, hdescend], ?_, ?_, ?_⟩
  · intro hnone more
    rw [joinNames_eq_none_iff] at hnone
    subst hnone
    rw [folderByPath_of_mem hfirst, folderByPath_of_mem hlast, pathNames_slash, descend_append,
      hdescend, if_pos rfl]
  · intro joined hjoined more
    have hleft : left ≠ [] := fun hnil => by simp [hnil, joinNames] at hjoined
    obtain rfl : String.intercalate "/" left = joined := by simpa [joinNames, hleft] using hjoined
    rw [folderByPath_of_mem hfirst, pathNames_slash, descend_append, hdescend, if_neg hleft,
      joinNames_append hleft]
  · intro joined hjoined
    cases left with
    | nil => cases hjoined
    | cons name names =>
      refine ⟨name, names, hsuffix, (Option.some.inj hjoined).symm, ?_⟩
      exact (descend_held hdescend).imp_right childNamed_eq_none_iff.1

/-- A path that ends at a mountpoint, written with slashes that do not count. -/
theorem shared_path_composes :
    let account : AccountId := ⟨List.replicate 32 0, rfl⟩
    let work : Folder := ⟨257, some rootId, "Work", "/Work", .regular⟩
    let shared : Folder := ⟨258, some 257, "Shared", "/Work/Shared", .mountpoint account rootId⟩
    let hidden : Folder := ⟨259, some 258, "Old", "/Work/Shared/Old", .regular⟩
    let mailbox : Mailbox := ⟨account, "", [], ⟨[root, work, shared, hidden], by decide⟩, []⟩
    root ∈ mailbox.folders ∧
      mailbox.folderByPath root.id "//work/SHARED/old/" = .ok (shared, some "old") ∧
      mailbox.folderByPath root.id "//work/SHARED/old//a//b/" = .ok (shared, some "old/a/b") ∧
      ∃ last rest, mailbox.folderByPath root.id "//work/SHARED/old/" = .ok (last, rest) ∧
        mailbox.ComposesAt root.id "//work/SHARED/old/" last rest := by
  intro account work shared hidden mailbox
  have hmem : root ∈ mailbox.folders := by simp [mailbox, folders]
  exact ⟨hmem, by decide +kernel, by decide +kernel, folderByPath_composes hmem _⟩

end Sift.Mailbox
