/-
  Sift.Proofs.Folder.Target — what a path or an id in a folder question leads to.

  A target begins at some folder of the mailbox with some names beneath it (`Begins`), unless it is
  an id of another account.

  - `finds_of_placeOfPath` / `finds_of_placeOfId`: what is found is a folder that no names are left
    beneath, or in the mailbox of another account (`Finds`).
-/

import Sift.Predicate.Basic
import Sift.Proofs.Mailbox.Route

namespace Sift

/-- The question is which of the two kinds of folders an item is in. -/
def FolderTarget.IsLocality : FolderTarget → Bool
  | .locality _ => true
  | .path _ | .id .. => false

namespace Mailbox

variable {mailbox : Mailbox} {limit : Nat}

/-- The folder of this mailbox and the names beneath it that a target begins with. -/
inductive Begins (mailbox : Mailbox) : FolderTarget → Folder → List String → Prop
  | system {path : String} {id : FolderId} {first : Folder} : systemFolder path = some id →
      mailbox.folderById id = .ok first → Begins mailbox (.path path) first []
  | root {path : String} {first : Folder} : systemFolder path = none →
      mailbox.folderById rootId = .ok first → Begins mailbox (.path path) first (pathNames path)
  | id {item : ItemId} {subpath : Option String} {first : Folder} :
      item.account = mailbox.account → mailbox.folderById item.id = .ok first →
      Begins mailbox (.id item subpath) first (leftNames subpath)

/-- The place is in the mailbox of another account, or it is the folder that all names of the target
    lead to. -/
inductive Finds (mailbox : Mailbox) (target : FolderTarget) : Place → Prop
  | abroad {owner : AccountId} {folder : FolderId} {subpath : Option String} :
      owner ≠ mailbox.account → Finds mailbox target (.foreign owner folder subpath)
  | arrived {first folder : Folder} {names : List String} : mailbox.Begins target first names →
      mailbox.Route first names folder [] → folder ∈ mailbox.folders →
      folder.isMountpoint = false → Finds mailbox target (.own folder)

theorem Finds.own {target : FolderTarget} {folder : Folder} (h : mailbox.Finds target (.own folder)) :
    folder ∈ mailbox.folders ∧ folder.isMountpoint = false := by
  cases h with
  | arrived _ _ hmem hplain => exact ⟨hmem, hplain⟩

theorem finds_of_follow {target : FolderTarget} {start : FolderId} {path : Option String}
    {place : Place}
    (h : (mailbox.follow start path >>= fun next => mailbox.placeOf limit next.1 next.2) = .ok place)
    (hbegins : ∀ first, mailbox.folderById start = .ok first →
      mailbox.Begins target first (leftNames path)) : mailbox.Finds target place := by
  obtain ⟨next, hf, hk⟩ := exists_of_bind h
  cases place with
  | foreign owner folder subpath => exact .abroad (placeOf_foreign hk)
  | own folder =>
    obtain ⟨first, hfirst, hroute⟩ := exists_route_of_follow hf
    obtain ⟨hrest, hplain, hmem⟩ := placeOf_own hk
    exact .arrived (hbegins first hfirst) (hroute.trans hrest) (hmem (follow_mem hf)) hplain

theorem finds_of_placeOfPath {path : String} {place : Place}
    (h : mailbox.placeOfPath limit path = .ok place) : mailbox.Finds (.path path) place := by
  unfold placeOfPath at h
  split at h
  · next id hs => exact finds_of_follow h fun first hfirst => .system hs hfirst
  · next hs =>
    rw [folderByPath_eq_follow] at h
    exact finds_of_follow h fun first hfirst => .root hs hfirst

theorem finds_of_placeOfId {item : ItemId} {subpath : Option String} {place : Place}
    (h : mailbox.placeOfId limit item subpath = .ok place) :
    mailbox.Finds (.id item subpath) place := by
  unfold placeOfId at h
  split at h
  · next hown =>
    have haccount : item.account = mailbox.account := by simpa [ItemId.belongsTo] using hown
    exact finds_of_follow h fun first hfirst => .id haccount hfirst
  · next hown =>
    cases h
    refine .abroad fun haccount => hown ?_
    simpa [ItemId.belongsTo] using haccount

end Mailbox

end Sift
