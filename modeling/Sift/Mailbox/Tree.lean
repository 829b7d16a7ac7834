/-
  Sift.Mailbox.Tree — the folders beneath a folder, and the folder that a path leads to.
-/

import Sift.Mailbox.Basic
import Sift.Text.Trim

namespace Sift.Mailbox

/-! ## Beneath a folder -/

/-- By ascending id. -/
def children (mailbox : Mailbox) (id : FolderId) : List Folder :=
  mailbox.folders.filter (·.parent == some id)

/-- Each child followed by what is beneath it, down to `depth` levels. -/
def beneath (mailbox : Mailbox) : Nat → FolderId → List Folder
  | 0, _ => []
  | depth + 1, id => (mailbox.children id).flatMap fun f => f :: mailbox.beneath depth f.id

/-- A folder and everything beneath it. No folder lies deeper than there are folders, unless some
    folder is its own ancestor. -/
def hierarchy (mailbox : Mailbox) (id : FolderId) : Except Fault (List Folder) := do
  return (← mailbox.folderById id) :: mailbox.beneath mailbox.folders.length id

/-! ## Along a path -/

/-- The names in a path, which slashes part; slashes at the ends and doubled ones do not count. -/
def pathNames (path : String) : List String :=
  ((path.toList.splitOn '/').filter (!·.isEmpty)).map String.ofList

def joinNames (names : List String) : Option String :=
  if names.isEmpty then none else some (String.intercalate "/" names)

/-- The first child by id with that name, in either case of its ASCII letters. -/
def childNamed (mailbox : Mailbox) (id : FolderId) (name : String) : Option Folder :=
  mailbox.folders.find? fun f => f.parent == some id && Text.sameAscii f.name name

/-- Goes down as far as the names lead, and returns the names left over. What is beneath a
    mountpoint lies in another place, so a mountpoint ends the walk. -/
def descend (mailbox : Mailbox) (folder : Folder) : List String → Folder × List String
  | [] => (folder, [])
  | name :: names =>
    if folder.isMountpoint then (folder, name :: names)
    else match mailbox.childNamed folder.id name with
      | some child => mailbox.descend child names
      | none => (folder, name :: names)

/-- The deepest folder on the path from `start`, and the path left over beneath it. -/
def folderByPath (mailbox : Mailbox) (start : FolderId) (path : String) :
    Except Fault (Folder × Option String) := do
  let (folder, rest) := mailbox.descend (← mailbox.folderById start) (pathNames path)
  return (folder, joinNames rest)

/-- As `folderByPath`, where there may be no path to follow. -/
def follow (mailbox : Mailbox) (start : FolderId) (path : Option String) :
    Except Fault (Folder × Option String) :=
  match path with
  | some path => mailbox.folderByPath start path
  | none => do return (← mailbox.folderById start, none)

end Sift.Mailbox
