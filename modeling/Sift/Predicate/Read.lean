/-
  Sift.Predicate.Read — how each kind of question is read from the value of a search field. All that
  can be wrong with a value is found here, except for names that the mailbox must know.
-/

import Sift.Literal.Item
import Sift.Phrase
import Sift.Predicate.Basic

namespace Sift

/-- Who searches, and with which settings. -/
structure Searcher where
  account : AccountId
  settings : Settings
  deriving DecidableEq

namespace Predicate

/-! ## Texts -/

/-- The value without the blanks around it, of which something must be left. -/
def nonBlank (field value : String) : Except Fault String :=
  let trimmed := Text.trim value
  if trimmed.isEmpty then .error (.emptyValue field) else .ok trimmed

def ofText (field : TextField) (text : String) (quick : Bool) : Except Fault Predicate := do
  let _ ← splitWildcard text
  return .text field text quick

def ofContact (text : String) : Except Fault Predicate := do
  let _ ← nonBlank "contact" text
  let _ ← splitWildcard text
  return .contact text

def ofStructured (name value : String) : Except Fault Predicate := do
  if name.isEmpty then .error (.emptyValue "field")
  let _ ← nonBlank "field" value
  let _ ← splitWildcard value
  return .structured name value

def ofAddress (fields : AddressFields) (text : String) : Except Fault Predicate := do
  let trimmed ← nonBlank fields.searchName text
  let _ ← splitWildcard text
  return .address fields trimmed

/-- A comparator and a text to compare with. -/
def ofStringRange (column : StringColumn) (text : String) : Except Fault Predicate :=
  match Comparator.take (Text.trim text) with
  | (none, _) => .error (.invalidLiteral .string text .noComparator)
  | (some comparator, value) =>
    if value.isEmpty then .error (.invalidLiteral .string text .noComparedValue)
    else .ok (.stringRange column comparator value)

/-- The column that holds the texts of a field for comparison. -/
def comparedColumn : TextField → Option StringColumn
  | .sender => some .sender
  | .subject => some .subject
  | _ => none

/-- Whether a text begins with a comparator and goes on after it. -/
def startsComparison (text : String) : Bool :=
  match text.toList with
  | c :: _ :: _ => c == '<' || c == '>'
  | _ => false

/-- Words to look for; in address fields also a domain after `@`, and in the fields that have a
    column a comparison. -/
def ofTextField (field : TextField) (value : String) : Except Fault Predicate := do
  let trimmed ← nonBlank field.searchName value
  if field.isAddress && trimmed.toList.head? == some '@' then return .domain field trimmed
  match comparedColumn field with
  | some column =>
    if startsComparison trimmed then ofStringRange column trimmed else ofText field value false
  | none => ofText field value false

/-! ## Words from a table -/

/-- A name that begins with a backslash may be that of a flag. -/
def ofTagName (name : String) : Except Fault Predicate := do
  let name ← nonBlank "tag" name
  if name.toList.head? == some '\\' then
    match Flag.ofName name with
    | some flag => return .tag (.flag flag)
    | none => return .tag (.named name)
  else return .tag (.named name)

def ofPriority (value : String) : Except Fault Predicate :=
  match Text.lower (Text.trim value) with
  | "high" => .ok (.tag (.flag .urgent))
  | "low" => .ok (.tag (.flag .bulk))
  | _ => .error (.unknownValue "priority" value)

/-- The content type that a word in lower case means; other words mean themselves. -/
def contentType : String → String
  | "application/*" => "application"
  | "bmp" => "image/bmp"
  | "gif" => "image/gif"
  | "image/*" => "image"
  | "jpeg" => "image/jpeg"
  | "excel" | "xls" => "application/vnd.ms-excel"
  | "ppt" => "application/vnd.ms-powerpoint"
  | "ms-tnef" => "application/ms-tnef"
  | "word" | "msword" => "application/msword"
  | "pdf" => "application/pdf"
  | "text/*" => "text"
  | word => word

def ofContentType (field : TextField) (value : String) : Except Fault Predicate :=
  let word := Text.lower (Text.trim value)
  if word.isEmpty then .error (.emptyValue field.searchName)
  else .ok (.term field (contentType word))

/-- Any attachment, or an object that was recognised in the text. -/
def ofObject (value : String) : Except Fault Predicate :=
  match Text.lower (Text.trim value) with
  | "" => .error (.emptyValue "has")
  | "attachment" | "att" => .ok (.term .attachments "any")
  | word => .ok (.term .objects word)

/-! ## Literals -/

def ofDate (settings : Settings) (field : DateField) (text : String) : Except Fault Predicate := do
  let text ← nonBlank field.searchName text
  let literal ← DateLiteral.read settings field.unit text
  if literal.comparator.isSome && !field.takesComparator then
    .error (.comparatorNotAllowed field.searchName text)
  return .date field text literal

def ofSize (field : SizeField) (text : String) : Except Fault Predicate := do
  let text ← nonBlank field.searchName text
  return .size field text (← SizeLiteral.read text)

def ofCount (field : CountField) (text : String) : Except Fault Predicate := do
  let text ← nonBlank field.searchName text
  return .count field text (← IntegerLiteral.read text)

/-! ## Items and folders -/

/-- No ids select nothing. -/
def ofItems (ids : List ItemId) : Predicate :=
  if ids.isEmpty then .item .nothing else .item (.ids ids)

/-- The texts between the commas that are more than blanks. -/
def itemTexts (value : String) : List String :=
  ((value.toList.splitOn ',').map fun cs => Text.trim (String.ofList cs)).filter (!·.isEmpty)

def ofItemList (own : AccountId) (value : String) : Except Fault Predicate :=
  let value := Text.trim value
  if Text.sameAscii value "all" then .ok (.item .all)
  else if Text.sameAscii value "none" then .ok (.item .nothing)
  else do return ofItems (← (itemTexts value).mapM (ItemId.read own))

/-- Conversations with negative ids are virtual: they are no more than one message. -/
def ofConversation (id : ItemId) : Except Fault Predicate :=
  if id.id < 0 then .error (.virtualConversation id) else .ok (.conversation id)

/-- A virtual conversation is searched as the item that it holds. -/
def ofConversationText (own : AccountId) (value : String) : Except Fault Predicate := do
  let id ← ItemId.read own value
  if id.id < 0 then return ofItems [⟨id.account, -id.id⟩] else ofConversation id

def ofFolderPath (withSubfolders : Bool) (value : String) : Except Fault Predicate := do
  return .folder (.path (← nonBlank (folderSearchName false withSubfolders) value)) withSubfolders

/-- The path beneath a folder, without the slashes around it, if there is one. -/
def subpathOf (cs : List Char) : Option String :=
  let subpath := Text.dropAround (· == '/') cs
  if subpath.isEmpty then none else some (String.ofList subpath)

/-- A folder's id, which the first slash and a path beneath the folder may follow. -/
def ofFolderId (own : AccountId) (withSubfolders : Bool) (value : String) :
    Except Fault Predicate := do
  let value ← nonBlank (folderSearchName true withSubfolders) value
  let (id, subpath) :=
    match Text.breakAt (· == '/') value.toList with
    | some (id, rest) => (String.ofList id, subpathOf rest)
    | none => (value, none)
  return .folder (.id (← ItemId.read own id) subpath) withSubfolders

end Predicate

def Locality.read (value : String) : Except Fault Locality :=
  match Text.lower (Text.trim value) with
  | "anywhere" | "any" => .ok .anywhere
  | "local" => .ok .own
  | "remote" => .ok .foreign
  | "none" => .ok .nowhere
  | _ => .error (.unknownValue "scope" value)

end Sift
