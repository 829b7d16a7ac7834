/-
  Sift.Document.Mailbox — mailboxes described in JSON.
-/

import Sift.Document.Record
import Sift.Json.Reader
import Sift.Mailbox.Basic

namespace Sift.Document

structure MailboxEntry where
  account : AccountId
  accountName : String
  aliases : List String
  folders : List FolderEntry
  tags : List Tag

def readAccount (json : Json) : Option AccountId := (readString json).bind AccountId.read

def readMountpoint (json : Json) : Option FolderKind := do
  let r ← record ["owner", "remote_id"] json
  return .mountpoint (← r.required "owner" readAccount) (← r.required "remote_id" (readSigned 32))

def readFolderKind (json : Json) : Option FolderKind :=
  match readCase json with
  | some ("mountpoint", some value) => readMountpoint value
  | _ =>
    match readBareCase json with
    | some "regular" => some .regular
    | some "search" => some .search
    | _ => none

def readFolder (json : Json) : Option FolderEntry := do
  let r ← record ["id", "parent", "name", "kind"] json
  return {
    id := ← r.required "id" (readSigned 32)
    parent := ← r.required "parent" (readSigned 32)
    name := ← r.required "name" readString
    kind := ← r.optional "kind" .regular readFolderKind }

def readTag (json : Json) : Option Tag := do
  let r ← record ["id", "name"] json
  return ⟨← r.required "id" (readSigned 32), ← r.required "name" readString⟩

def readMailboxEntry (json : Json) : Option MailboxEntry := do
  let r ← record ["account_id", "account_name", "aliases", "folders", "tags"] json
  return {
    account := ← r.required "account_id" readAccount
    accountName := ← r.required "account_name" readString
    aliases := ← r.optional "aliases" [] (readList readString)
    folders := ← r.optional "folders" [] (readList readFolder)
    tags := ← r.optional "tags" [] (readList readTag) }

def MailboxEntry.mailbox (entry : MailboxEntry) : Except Fault Mailbox := do
  let mailbox := entry.aliases.foldl Mailbox.addAlias (.new entry.account entry.accountName)
  let mailbox ← mailbox.addFolders entry.folders
  return entry.tags.foldl (fun m tag => m.addTag tag.id tag.name) mailbox

/-- There is no mailbox where the document has another form. -/
def readMailbox (json : Json) : Option (Except Fault Mailbox) :=
  (readMailboxEntry json).map MailboxEntry.mailbox

end Sift.Document
