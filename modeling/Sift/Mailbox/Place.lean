/-
  Sift.Mailbox.Place — where a folder's items are: in a folder of this mailbox, or in the mailbox of
  another account.

  A mountpoint to a folder of the same mailbox is passed, and the walk goes on from its target with
  the path that is left. The first mountpoint into another mailbox ends the walk, and the path left
  over is that mailbox's to resolve. No mountpoint is passed twice, and no more than the limit.
-/

import Sift.Mailbox.Tree

namespace Sift

inductive Place where
  | own (folder : Folder)
  | foreign (owner : AccountId) (folder : FolderId) (subpath : Option String)
  deriving DecidableEq

namespace Mailbox

/-- `left` is how many mountpoints may still be passed, and `passed` are those that were. -/
def settle (mailbox : Mailbox) (limit : Nat) (left : Nat) (passed : List FolderId)
    (folder : Folder) (rest : Option String) : Except Fault Place :=
  match folder.kind with
  | .regular | .search =>
    match rest with
    | none => .ok (.own folder)
    | some rest =>
      let above := String.ofList (Text.dropTrailing (· == '/') folder.path.toList)
      .error (.notFound (.folderPath (above ++ "/" ++ rest)))
  | .mountpoint owner target =>
    if owner ≠ mailbox.account then .ok (.foreign owner target rest)
    else if folder.id ∈ passed then .error (.mountpointCycle folder.id)
    else match left with
      | 0 => .error (.mountpointTooDeep limit)
      | left + 1 => do
        let (next, rest) ← mailbox.follow target rest
        mailbox.settle limit left (folder.id :: passed) next rest

/-- Where the walk from a folder ends. -/
def placeOf (mailbox : Mailbox) (limit : Nat) (folder : Folder) (rest : Option String) :
    Except Fault Place :=
  mailbox.settle limit limit [] folder rest

/-- A path leads from the root; the name of a system folder alone means that folder. -/
def placeOfPath (mailbox : Mailbox) (limit : Nat) (path : String) : Except Fault Place := do
  let (folder, rest) ←
    match systemFolder path with
    | some id => mailbox.follow id none
    | none => mailbox.folderByPath rootId path
  mailbox.placeOf limit folder rest

/-- Folders of other accounts are not looked up here. -/
def placeOfId (mailbox : Mailbox) (limit : Nat) (item : ItemId) (subpath : Option String) :
    Except Fault Place :=
  if item.belongsTo mailbox.account then do
    let (folder, rest) ← mailbox.follow item.id subpath
    mailbox.placeOf limit folder rest
  else .ok (.foreign item.account item.id subpath)

end Mailbox

end Sift
