/-
  Sift.Fault — why a search cannot be built or compiled, and the message that says so. `Fault.kind`
  sorts the causes: a value that cannot be read, a reference to something the mailbox does not have,
  and a combination that has no operation.
-/

import Sift.Account
import Sift.Text.Printed

namespace Sift

inductive LiteralKind where
  | date
  | size
  | number
  | itemId
  | string
  deriving DecidableEq, Repr

def LiteralKind.name : LiteralKind → String
  | .date => "date"
  | .size => "size"
  | .number => "number"
  | .itemId => "item id"
  | .string => "string"

/-- What is wrong with a literal. -/
inductive Flaw where
  | notInteger
  | noByteCount
  | numberTooLarge
  | unknownUnit
  | missingDate
  | timestampTooLarge
  | malformedDate
  | noSuchDay
  | dateOutOfRange
  | malformedAccount
  | notItemNumber
  | noComparator
  | noComparedValue
  deriving DecidableEq, Repr

def Flaw.message : Flaw → String
  | .notInteger => "expected an integer"
  | .noByteCount => "expected a number of bytes"
  | .numberTooLarge => "number is too large"
  | .unknownUnit => "unknown unit"
  | .missingDate => "missing date"
  | .timestampTooLarge => "timestamp is too large"
  | .malformedDate => "expected a date such as 01/31/2007"
  | .noSuchDay => "no such day"
  | .dateOutOfRange => "date is out of range"
  | .malformedAccount => "malformed account id"
  | .notItemNumber => "expected an integer id"
  | .noComparator => "expected a comparator"
  | .noComparedValue => "missing value after the comparator"

/-- Something a search refers to by name or by id. -/
inductive Reference where
  | folderPath (path : String)
  | folderId (id : FolderId)
  | tag (name : String)
  | builtin (name : String)
  deriving DecidableEq

def Reference.text : Reference → String
  | .folderPath path => "folder " ++ Text.printed path
  | .folderId id => "folder " ++ toString id
  | .tag name => "tag " ++ Text.printed name
  | .builtin name => "built-in query " ++ Text.printed name

inductive Fault where
  | invalidLiteral (kind : LiteralKind) (text : String) (flaw : Flaw)
  | comparatorNotAllowed (field text : String)
  | emptyValue (field : String)
  | unknownValue (field value : String)
  | notFound (missing : Reference)
  | mountpointCycle (folder : FolderId)
  | mountpointTooDeep (limit : Nat)
  | nestedLocalMountpoint (folder : FolderId)
  | misplacedWildcard (text : String)
  | virtualConversation (id : ItemId)
  deriving DecidableEq

namespace Fault

def message : Fault → String
  | invalidLiteral kind text flaw =>
    "invalid " ++ kind.name ++ " literal " ++ Text.printed text ++ ": " ++ flaw.message
  | comparatorNotAllowed field text =>
    "comparison operators are not allowed with " ++ field ++ ": " ++ Text.printed text
  | emptyValue field => "missing text after " ++ field
  | unknownValue field value => "unknown value " ++ Text.printed value ++ " for " ++ field
  | notFound missing => "no such " ++ missing.text
  | mountpointCycle folder => "mountpoint chain loops back to folder " ++ toString folder
  | mountpointTooDeep limit => "mountpoint chain is deeper than " ++ toString limit ++ " folders"
  | nestedLocalMountpoint folder =>
    "folder " ++ toString folder
      ++ " is a local mountpoint inside a subfolder hierarchy, which cannot be expanded"
  | misplacedWildcard text =>
    "wildcards are only supported at the end of the final token: " ++ Text.printed text
  | virtualConversation id =>
    "conversation " ++ id.text ++ " is virtual and must be searched as an item"

inductive Kind where
  | unreadable
  | missing
  | unsupported
  deriving DecidableEq, Repr

def kind : Fault → Kind
  | invalidLiteral .. | comparatorNotAllowed .. | emptyValue _ | unknownValue .. => .unreadable
  | notFound _ => .missing
  | mountpointCycle _ | mountpointTooDeep _ | nestedLocalMountpoint _ | misplacedWildcard _
  | virtualConversation _ => .unsupported

end Fault

end Sift
