/-
  Sift.Predicate.Basic — what a search can ask of an item, one constructor for each kind of
  question. Literals are kept beside the text they were read from, so that the question can be
  written as it was put.
-/

import Sift.Literal.Date
import Sift.Literal.Integer
import Sift.Literal.Size
import Sift.Mailbox.Flag
import Sift.Operation.Basic

namespace Sift

/-! ## Parts of questions -/

/-- The address fields that a question goes over. -/
structure AddressFields where
  sender : Bool
  recipient : Bool
  cc : Bool
  deriving DecidableEq, Repr

inductive TagTarget where
  /-- A tag of the user, looked up when the search is compiled. -/
  | named (name : String)
  | flag (flag : Flag)
  deriving DecidableEq

/-- The search fields that take a date. -/
inductive DateField where
  | date
  | day
  | week
  | month
  | year
  | after
  | before
  | modified
  | appointmentStart
  | appointmentEnd
  | conversationStart
  | conversationEnd
  deriving DecidableEq, Repr

/-- The search fields that take a size. -/
inductive SizeField where
  | size
  | larger
  | bigger
  | smaller
  deriving DecidableEq, Repr

/-- The search fields that take a count. -/
inductive CountField where
  | modSeq
  | convCount
  deriving DecidableEq, Repr

/-- The columns whose texts can be compared. -/
inductive StringColumn where
  | sender
  | subject
  deriving DecidableEq, Repr

inductive ItemSet where
  | all
  | nothing
  | ids (ids : List ItemId)
  deriving DecidableEq

/-- Which of the two kinds of folders an item is in: those of the mailbox itself, or those of other
    accounts behind mountpoints. -/
inductive Locality where
  | anywhere
  | own
  | foreign
  | nowhere
  deriving DecidableEq, Repr

inductive FolderTarget where
  | path (path : String)
  | id (item : ItemId) (subpath : Option String)
  | locality (locality : Locality)
  deriving DecidableEq

/-! ## Questions -/

inductive Predicate where
  /-- `quick` takes the last word as the beginning of a word. -/
  | text (field : TextField) (text : String) (quick : Bool)
  | contact (text : String)
  | domain (field : TextField) (domain : String)
  | structured (name value : String)
  | address (fields : AddressFields) (text : String)
  /-- Mail sent by or to the searching account. -/
  | me (fields : AddressFields)
  | tag (target : TagTarget)
  | term (field : TextField) (term : String)
  | date (field : DateField) (text : String) (literal : DateLiteral)
  | size (field : SizeField) (text : String) (literal : SizeLiteral)
  | count (field : CountField) (text : String) (literal : IntegerLiteral)
  | stringRange (column : StringColumn) (comparator : Comparator) (value : String)
  | folder (target : FolderTarget) (withSubfolders : Bool)
  | item (items : ItemSet)
  | conversation (id : ItemId)
  deriving DecidableEq

def Predicate.kindName : Predicate → String
  | text .. => "text"
  | contact _ => "contact"
  | domain .. => "domain"
  | structured .. => "field"
  | address .. => "address"
  | me _ => "me"
  | tag _ => "tag"
  | term .. => "term"
  | date .. => "date"
  | size .. => "size"
  | count .modSeq .. => "modseq"
  | count .convCount .. => "conv-count"
  | stringRange .. => "string-range"
  | folder .. => "folder"
  | item _ => "item"
  | conversation _ => "conversation"

/-! ## Names and meanings of the fields -/

namespace AddressFields

/-- In the order sender, recipient, cc. -/
def textFields (fields : AddressFields) : List TextField :=
  (if fields.sender then [.sender] else []) ++ (if fields.recipient then [.recipient] else [])
    ++ (if fields.cc then [.cc] else [])

def searchName : AddressFields → String
  | ⟨false, true, false⟩ => "to"
  | ⟨true, false, false⟩ => "from"
  | ⟨false, false, true⟩ => "cc"
  | ⟨true, true, false⟩ => "tofrom"
  | ⟨false, true, true⟩ => "tocc"
  | ⟨true, false, true⟩ => "fromcc"
  | ⟨true, true, true⟩ => "tofromcc"
  | ⟨false, false, false⟩ => ""

/-- The name of the question whether the searching account is in these fields. -/
def meName : AddressFields → String
  | ⟨false, false, false⟩ => "tofromccme"
  | fields => fields.searchName ++ "me"

end AddressFields

namespace DateField

def searchName : DateField → String
  | date => "date"
  | day => "day"
  | week => "week"
  | month => "month"
  | year => "year"
  | after => "after"
  | before => "before"
  | modified => "mdate"
  | appointmentStart => "appt-start"
  | appointmentEnd => "appt-end"
  | conversationStart => "conv-start"
  | conversationEnd => "conv-end"

def column : DateField → DateColumn
  | modified => .modified
  | appointmentStart => .appointmentStart
  | appointmentEnd => .appointmentEnd
  | conversationStart => .conversationStart
  | conversationEnd => .conversationEnd
  | date | day | week | month | year | after | before => .date

def unit : DateField → DateUnit
  | week => .week
  | month => .month
  | year => .year
  | _ => .day

/-- The comparator that the field's name itself says. -/
def implied : DateField → Comparator
  | before => .lt
  | after => .gt
  | _ => .eq

def takesComparator : DateField → Bool
  | before | after => false
  | _ => true

end DateField

namespace SizeField

def searchName : SizeField → String
  | size => "size"
  | larger => "larger"
  | bigger => "bigger"
  | smaller => "smaller"

/-- The comparator that the field's name itself says. -/
def implied : SizeField → Comparator
  | size => .eq
  | larger | bigger => .gt
  | smaller => .lt

end SizeField

def CountField.searchName : CountField → String
  | modSeq => "modseq"
  | convCount => "conv-count"

def StringColumn.searchName : StringColumn → String
  | sender => "from"
  | subject => "subject"

/-- The search field for a folder by path or by id, with or without its subfolders. -/
def folderSearchName (byId withSubfolders : Bool) : String :=
  match byId, withSubfolders with
  | false, false => "in"
  | false, true => "under"
  | true, false => "inid"
  | true, true => "underid"

end Sift
