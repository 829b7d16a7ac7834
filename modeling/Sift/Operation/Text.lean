/-
  Sift.Operation.Text — operations on one line: `DB(…)` and `INDEX(…)` with a dash before what is
  negated, and unions and intersections in parentheses.
-/

import Sift.Operation.Basic
import Sift.Text.Printed

namespace Sift

/-! ## Parts -/

/-- A record: its name, and its fields between braces. -/
def recordText (name : String) (fields : List (String × String)) : String :=
  name ++ " \x7b " ++ String.intercalate ", " (fields.map fun (field, text) => field ++ ": " ++ text)
    ++ " \x7d"

def listText (texts : List String) : String := "[" ++ String.intercalate ", " texts ++ "]"

def optionText : Option String → String
  | none => "None"
  | some text => "Some(" ++ text ++ ")"

def Bound.text {α : Type} (valueText : α → String) : Bound α → String
  | unbounded => "Unbounded"
  | included value => "Included(" ++ valueText value ++ ")"
  | excluded value => "Excluded(" ++ valueText value ++ ")"

def Range.text {α : Type} (valueText : α → String) (range : Range α) : String :=
  recordText "RangeBound" [("low", range.low.text valueText), ("high", range.high.text valueText)]

def numbersText (range : Range Int) : String := range.text (fun n => toString n)

def stringsText (range : Range String) : String := range.text Text.printed

def ItemId.recordText (item : ItemId) : String :=
  Sift.recordText "ItemId" [("account", item.account.text), ("id", toString item.id)]

def DateColumn.text : DateColumn → String
  | date => "Date"
  | modified => "ModifiedDate"
  | appointmentStart => "AppointmentStart"
  | appointmentEnd => "AppointmentEnd"
  | conversationStart => "ConversationStart"
  | conversationEnd => "ConversationEnd"

/-! ## Constraints and queries -/

def Constraint.text : Constraint → String
  | date column range => recordText "Date" [("field", column.text), ("range", numbersText range)]
  | size range => "Size(" ++ numbersText range ++ ")"
  | modSeq range => "ModSeq(" ++ numbersText range ++ ")"
  | convCount range => "ConvCount(" ++ numbersText range ++ ")"
  | tag id => "Tag(" ++ toString id ++ ")"
  | inFolder id => "InFolder(" ++ toString id ++ ")"
  | inRemoteFolder owner folder subpath withSubfolders =>
    recordText "InRemoteFolder"
      [("owner", owner.text), ("folder", toString folder),
        ("subpath", optionText (subpath.map Text.printed)),
        ("include_subfolders", if withSubfolders then "true" else "false")]
  | items ids => "ItemIds(" ++ listText (ids.map ItemId.recordText) ++ ")"
  | conversation id => "Conversation(" ++ id.recordText ++ ")"
  | sender range => "Sender(" ++ stringsText range ++ ")"
  | subject range => "Subject(" ++ stringsText range ++ ")"

def PhraseTerm.text (t : PhraseTerm) : String :=
  recordText "PhraseTerm" [("offset", toString t.offset), ("term", Text.printed t.term)]

def phraseText (terms : List PhraseTerm) : String := listText (terms.map PhraseTerm.text)

def IndexQuery.text : IndexQuery → String
  | term word => "Term(" ++ Text.printed word ++ ")"
  | phrase terms => "Phrase(" ++ phraseText terms ++ ")"
  | stem leading last =>
    recordText "PrefixPhrase" [("leading", phraseText leading), ("prefix", last.text)]
  | range name numbers =>
    recordText "Range" [("name", Text.printed name), ("range", numbersText numbers)]

/-! ## Operations -/

namespace Operation

def signText (truth : Bool) : String := if truth then "" else "-"

mutual

def text : Operation → String
  | noResults => "NO_RESULTS"
  | unconstrained => "ANY"
  | db constraint truth => signText truth ++ "DB(" ++ constraint.text ++ ")"
  | index field query truth =>
    signText truth ++ "INDEX(" ++ field.searchName ++ ":" ++ query.text ++ ")"
  | union operations => "(" ++ String.intercalate " OR " (texts operations) ++ ")"
  | intersection operations => "(" ++ String.intercalate " AND " (texts operations) ++ ")"

def texts : List Operation → List String
  | [] => []
  | operation :: rest => operation.text :: texts rest

end

end Operation

end Sift
