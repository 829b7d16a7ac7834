/-
  Sift.Mailbox.Flag — the flags that every mailbox knows. They are searched like tags and have
  negative ids.
-/

import Sift.Account
import Sift.Text.Case

namespace Sift

inductive Flag where
  | sent
  | attached
  | answered
  | forwarded
  | flagged
  | draft
  | unread
  | urgent
  | bulk
  | invite
  deriving DecidableEq, Repr

namespace Flag

def all : List Flag :=
  [sent, attached, answered, forwarded, flagged, draft, unread, urgent, bulk, invite]

def id : Flag → TagId
  | sent => -1
  | attached => -2
  | answered => -3
  | forwarded => -4
  | flagged => -6
  | draft => -7
  | unread => -10
  | urgent => -11
  | bulk => -12
  | invite => -16

/-- The flag's name without the backslash that marks it as a flag. -/
def word : Flag → String
  | sent => "Sent"
  | attached => "Attached"
  | answered => "Answered"
  | forwarded => "Forwarded"
  | flagged => "Flagged"
  | draft => "Draft"
  | unread => "Unread"
  | urgent => "Urgent"
  | bulk => "Bulk"
  | invite => "Invite"

def name (flag : Flag) : String := "\\" ++ flag.word

/-- Looks a flag up by its word in either case, after any number of backslashes. -/
def ofName (name : String) : Option Flag :=
  let word := String.ofList (name.toList.dropWhile (· == '\\'))
  all.find? fun flag => Text.sameAscii flag.word word

end Flag

end Sift
