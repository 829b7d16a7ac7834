/-
  Sift.SearchField — the fields of a search by name, and the nodes that their values make.
-/

import Sift.Builtin
import Sift.Predicate.Read

namespace Sift

inductive SearchField where
  /-- The field that the settings say. -/
  | standard
  | text (field : TextField)
  | contact
  | addresses (fields : AddressFields)
  | tag
  | priority
  | builtin
  | object
  | contentType (field : TextField)
  | date (field : DateField)
  | size (field : SizeField)
  | count (field : CountField)
  | conversation
  | items
  | folderPath (withSubfolders : Bool)
  | folderId (withSubfolders : Bool)
  | locality
  /-- A field with a name of the user's. -/
  | structured (name : String)
  deriving DecidableEq, Repr

namespace SearchField

/-! ## Names -/

def ofTextField (field : TextField) : String × SearchField := (field.searchName, .text field)

def ofAddresses (fields : AddressFields) : String × SearchField :=
  (fields.searchName, .addresses fields)

def ofDate (field : DateField) : String × SearchField := (field.searchName, .date field)

def ofSize (field : SizeField) : String × SearchField := (field.searchName, .size field)

def ofCount (field : CountField) : String × SearchField := (field.searchName, .count field)

def named : List (String × SearchField) :=
  [("text", .standard)]
  ++ [TextField.content, .subject, .sender, .recipient, .cc, .envFrom, .envTo, .msgId, .filename,
      .author, .title, .keywords, .company, .metadata].map ofTextField
  ++ [("contact", .contact)]
  ++ [AddressFields.mk true true false, .mk false true true, .mk true false true,
      .mk true true true].map ofAddresses
  ++ [("tag", .tag), ("priority", .priority), ("is", .builtin), ("has", .object),
      ("attachment", .contentType .attachments), ("type", .contentType .type)]
  ++ [DateField.date, .day, .week, .month, .year, .after, .before, .modified, .appointmentStart,
      .appointmentEnd, .conversationStart, .conversationEnd].map ofDate
  ++ [SizeField.size, .larger, .bigger, .smaller].map ofSize
  ++ [CountField.modSeq, .convCount].map ofCount
  ++ [("conv", .conversation), ("item", .items),
      ("in", .folderPath false), ("under", .folderPath true),
      ("inid", .folderId false), ("underid", .folderId true),
      ("scope", .locality)]

/-- The name in a structured field, which is written `#name` or `field[name]`. -/
def structuredName : List Char → Option (List Char)
  | '#' :: name => some name
  | 'f' :: 'i' :: 'e' :: 'l' :: 'd' :: '[' :: rest =>
    if rest.getLast? = some ']' then some rest.dropLast else none
  | _ => none

def ofName (name : String) : Option SearchField :=
  match structuredName name.toList with
  | some inner => some (.structured (String.ofList inner))
  | none => named.lookup name

/-! ## Values -/

def read (searcher : Searcher) (value : String) : SearchField → Except Fault Node
  | standard => (Predicate.ofTextField searcher.settings.defaultField value).map .ofPredicate
  | text field => (Predicate.ofTextField field value).map .ofPredicate
  | contact => (Predicate.ofContact value).map .ofPredicate
  | addresses fields => (Predicate.ofAddress fields value).map .ofPredicate
  | tag => (Predicate.ofTagName value).map .ofPredicate
  | priority => (Predicate.ofPriority value).map .ofPredicate
  | builtin => Builtin.read value
  | object => (Predicate.ofObject value).map .ofPredicate
  | contentType field => (Predicate.ofContentType field value).map .ofPredicate
  | date field => (Predicate.ofDate searcher.settings field value).map .ofPredicate
  | size field => (Predicate.ofSize field value).map .ofPredicate
  | count field => (Predicate.ofCount field value).map .ofPredicate
  | conversation => (Predicate.ofConversationText searcher.account value).map .ofPredicate
  | items => (Predicate.ofItemList searcher.account value).map .ofPredicate
  | folderPath deep => (Predicate.ofFolderPath deep value).map .ofPredicate
  | folderId deep => (Predicate.ofFolderId searcher.account deep value).map .ofPredicate
  | locality => (Locality.read value).map fun l => .ofPredicate (.folder (.locality l) false)
  | structured name => (Predicate.ofStructured name value).map .ofPredicate

end SearchField

/-- The node of `field:value`; there is none where the field is not one. -/
def Searcher.node (searcher : Searcher) (field value : String) : Option (Except Fault Node) :=
  (SearchField.ofName field).map (SearchField.read searcher value)

end Sift
