/-
  Sift.Predicate.Compile — from questions to operations. Every question is compiled for a truth;
  where that is `false`, the operation selects the items for which the answer is no, and the
  negation stands at its leaves.
-/

import Sift.Mailbox.Place
import Sift.Phrase
import Sift.Predicate.Basic

namespace Sift

/-! ## Folders -/

/-- Everything beneath a folder, which must not hold a mountpoint into the same mailbox. Mountpoints
    into other mailboxes stand for the folders beneath them too. -/
def Mailbox.subtreeConstraint (mailbox : Mailbox) (folder : Folder) : Except Fault Constraint :=
  match folder.kind with
  | .mountpoint owner target =>
    if owner = mailbox.account then .error (.nestedLocalMountpoint folder.id)
    else .ok (.inRemoteFolder owner target none true)
  | .regular | .search => .ok (.inFolder folder.id)

def Mailbox.compileSubtree (mailbox : Mailbox) (id : FolderId) (truth : Bool) :
    Except Fault Operation := do
  let constraints ← (← mailbox.hierarchy id).mapM mailbox.subtreeConstraint
  return .anyOf truth (constraints.map (.db · truth))

/-- The folders for the mailbox's own items, the junk and what is in the trash left out. -/
def Mailbox.ownFolders (mailbox : Mailbox) : Except Fault (List Folder) := do
  let trash ← mailbox.hierarchy trashId
  let folders ← mailbox.hierarchy rootId
  return folders.filter fun f =>
    f.id != rootId && f.id != junkId && !(trash.map (·.id)).contains f.id && f.kind == .regular

/-- The folder of another account that a mountpoint stands for. -/
def Mailbox.foreignTarget (mailbox : Mailbox) (folder : Folder) : Option ItemId :=
  match folder.kind with
  | .mountpoint owner target => if owner = mailbox.account then none else some ⟨owner, target⟩
  | .regular | .search => none

def Mailbox.foreignFolders (mailbox : Mailbox) : Except Fault (List ItemId) := do
  return (← mailbox.hierarchy rootId).filterMap mailbox.foreignTarget

/-- One of the constraints; there may be none. -/
def Operation.oneOf (constraints : List Constraint) : Operation :=
  if constraints.isEmpty then .noResults else .union (constraints.map (.db · true))

def Mailbox.compileOwn (mailbox : Mailbox) : Except Fault Operation := do
  return .oneOf ((← mailbox.ownFolders).map fun f => .inFolder f.id)

def Mailbox.compileForeign (mailbox : Mailbox) (withSubfolders : Bool) : Except Fault Operation := do
  return .oneOf ((← mailbox.foreignFolders).map fun target =>
    .inRemoteFolder target.account target.id none withSubfolders)

/-- What is not in a folder of one kind is in a folder of the other. -/
def Mailbox.compileLocality (mailbox : Mailbox) (withSubfolders : Bool) :
    Locality → Bool → Except Fault Operation
  | .anywhere, true | .nowhere, false => .ok .unconstrained
  | .anywhere, false | .nowhere, true => .ok .noResults
  | .own, true | .foreign, false => mailbox.compileOwn
  | .foreign, true | .own, false => mailbox.compileForeign withSubfolders

def Mailbox.compilePlace (mailbox : Mailbox) (withSubfolders truth : Bool) :
    Place → Except Fault Operation
  | .foreign owner folder subpath =>
    .ok (.db (.inRemoteFolder owner folder subpath withSubfolders) truth)
  | .own folder =>
    if withSubfolders then mailbox.compileSubtree folder.id truth
    else .ok (.db (.inFolder folder.id) truth)

def Mailbox.compileFolder (mailbox : Mailbox) (limit : Nat) (withSubfolders truth : Bool) :
    FolderTarget → Except Fault Operation
  | .locality l => mailbox.compileLocality withSubfolders l truth
  | .path path => do
    mailbox.compilePlace withSubfolders truth (← mailbox.placeOfPath limit path)
  | .id item subpath => do
    mailbox.compilePlace withSubfolders truth (← mailbox.placeOfId limit item subpath)

/-! ## Texts -/

def compileText (field : TextField) (text : String) (quick truth : Bool) : Except Fault Operation := do
  return (← PhraseShape.ofText field text quick).operation field truth

/-- One word is taken as the beginning of a name. -/
def isContactStem (split : WildcardSplit) : Bool :=
  let body := Text.trim split.body
  !split.wildcard && !body.isEmpty && body != "." && (tokens .contact body).length ≤ 1

def compileContact (text : String) (truth : Bool) : Except Fault Operation := do
  compileText .contact text (isContactStem (← splitWildcard text)) truth

def startsDomain (text : String) : Bool := text.toList.head? == some '@'

/-- A domain is one word, whatever stands in it. -/
def compileDomain (field : TextField) (domain : String) (truth : Bool) : Operation :=
  .index field (.term (Text.lower domain)) truth

def compileAddress (fields : AddressFields) (text : String) (truth : Bool) :
    Except Fault Operation := do
  let operations ← fields.textFields.mapM fun field =>
    if startsDomain text then .ok (compileDomain field text truth)
    else compileText field text false truth
  return .anyOf truth operations

/-- A value that compares with a number is a range over the field's numbers. -/
def numericRange (value : String) : Option (Range Int) := do
  let (comparator, number) := Comparator.take (Text.trim value)
  return (← comparator).range (← Text.readSigned 64 (Text.trim number).toList)

def compileStructured (name value : String) (truth : Bool) : Except Fault Operation :=
  match numericRange value with
  | some range => .ok (.index .structured (.range (Text.lower name) range) truth)
  | none => compileText .structured (name ++ ":" ++ Text.trim value) false truth

/-- Sent mail has a flag; mail to the account has one of its names in a field. -/
def Mailbox.compileMe (mailbox : Mailbox) (fields : AddressFields) (truth : Bool) :
    Except Fault Operation := do
  let sent := if fields.sender then [.db (.tag Flag.sent.id) truth] else []
  let receivers := { fields with sender := false }.textFields
  let received ← (mailbox.accountName :: mailbox.aliases).mapM fun name =>
    receivers.mapM fun field => compileText field name false truth
  return .anyOf truth (sent ++ received.flatten)

/-! ## All questions -/

def Mailbox.tagId (mailbox : Mailbox) : TagTarget → Except Fault TagId
  | .flag flag => .ok flag.id
  | .named name => do return (← mailbox.tagByName name).id

def ItemSet.compile (truth : Bool) : ItemSet → Operation
  | .all => if truth then .unconstrained else .noResults
  | .nothing => if truth then .noResults else .unconstrained
  | .ids list => .db (.items list) truth

def CountField.constraint : CountField → Range Int → Constraint
  | modSeq => .modSeq
  | convCount => .convCount

def StringColumn.constraint : StringColumn → Range String → Constraint
  | sender => .sender
  | subject => .subject

def Predicate.compile (mailbox : Mailbox) (settings : Settings) (truth : Bool) :
    Predicate → Except Fault Operation
  | .text field body quick => compileText field body quick truth
  | .contact body => compileContact body truth
  | .domain field name => .ok (compileDomain field name truth)
  | .structured name value => compileStructured name value truth
  | .address fields body => compileAddress fields body truth
  | .me fields => mailbox.compileMe fields truth
  | .tag target => do return .db (.tag (← mailbox.tagId target)) truth
  | .term field word => .ok (.index field (.term word) truth)
  | .date field _ literal => .ok (.db (.date field.column (literal.range field.implied)) truth)
  | .size field _ literal => .ok (.db (.size (literal.range field.implied)) truth)
  | .count field _ literal => .ok (.db (field.constraint literal.range) truth)
  | .stringRange column comparator value =>
    .ok (.db (column.constraint (comparator.range value)) truth)
  | .folder target withSubfolders =>
    mailbox.compileFolder settings.mountpointLimit withSubfolders truth target
  | .item items => .ok (items.compile truth)
  | .conversation id => .ok (.db (.conversation id) truth)

end Sift
