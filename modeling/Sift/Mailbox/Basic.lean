/-
  Sift.Mailbox.Basic — a mailbox: the account it belongs to, its folders and its tags. A new mailbox
  has the root and the system folders beneath it.
-/

import Sift.Fault
import Sift.Mailbox.Folder
import Sift.Text.Case

namespace Sift

structure Tag where
  id : TagId
  name : String
  deriving DecidableEq

structure Mailbox where
  account : AccountId
  accountName : String
  aliases : List String
  table : FolderTable
  /-- The tag added last comes first. -/
  tags : List Tag

/-- A folder that is to be added beneath another. -/
structure FolderEntry where
  id : FolderId
  parent : FolderId
  name : String
  kind : FolderKind
  deriving DecidableEq

namespace Mailbox

/-! ## Looking up -/

def folders (mailbox : Mailbox) : List Folder := mailbox.table.folders

def folderById (mailbox : Mailbox) (id : FolderId) : Except Fault Folder :=
  match mailbox.table.get? id with
  | some folder => .ok folder
  | none => .error (.notFound (.folderId id))

/-- Names of tags count in either case; of two tags with one name the later is meant. -/
def tagByName (mailbox : Mailbox) (name : String) : Except Fault Tag :=
  match mailbox.tags.find? fun tag => Text.lower tag.name == Text.lower name with
  | some tag => .ok tag
  | none => .error (.notFound (.tag name))

/-- The system folder that a name in either case means. -/
def systemFolder (name : String) : Option FolderId :=
  (systemFolders.find? fun known => Text.lower known.2 == Text.lower name).map (·.1)

/-! ## Building -/

/-- The path of a folder with that name beneath the folder with that path. -/
def pathBeneath (parent name : String) : String :=
  if parent = "/" then "/" ++ name else parent ++ "/" ++ name

def putBeneath (mailbox : Mailbox) (parent : Folder) (id : FolderId) (name : String)
    (kind : FolderKind) : Mailbox :=
  { mailbox with
    table := mailbox.table.put ⟨id, some parent.id, name, pathBeneath parent.path name, kind⟩ }

def root : Folder := ⟨rootId, none, "", "/", .regular⟩

def new (account : AccountId) (accountName : String) : Mailbox :=
  systemFolders.foldl (fun mailbox (id, name) => mailbox.putBeneath root id name .regular)
    ⟨account, accountName, [], FolderTable.empty.put root, []⟩

def addAlias (mailbox : Mailbox) (name : String) : Mailbox :=
  { mailbox with aliases := mailbox.aliases ++ [name] }

def addTag (mailbox : Mailbox) (id : TagId) (name : String) : Mailbox :=
  { mailbox with tags := ⟨id, name⟩ :: mailbox.tags }

/-- Adds a folder beneath `parent`, or puts it in the place of the folder that has its id. -/
def addFolder (mailbox : Mailbox) (parent id : FolderId) (name : String) (kind : FolderKind) :
    Except Fault Mailbox := do
  return mailbox.putBeneath (← mailbox.folderById parent) id name kind

/-- Adds folders in the order they are given in, so a folder comes after its parent. -/
def addFolders (mailbox : Mailbox) (entries : List FolderEntry) : Except Fault Mailbox :=
  entries.foldlM (fun m entry => m.addFolder entry.parent entry.id entry.name entry.kind) mailbox

end Mailbox

end Sift
