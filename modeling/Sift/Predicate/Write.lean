/-
  Sift.Predicate.Write — a question in the syntax of searches: a field, a colon and a value.
-/

import Sift.Predicate.Basic
import Sift.Text.Quoted

namespace Sift

def Locality.written : Locality → String × String
  | .anywhere => ("is", "anywhere")
  | .own => ("is", "local")
  | .foreign => ("is", "remote")
  | .nowhere => ("item", "none")

def FolderTarget.written (withSubfolders : Bool) : FolderTarget → String × String
  | .path p => (folderSearchName false withSubfolders, Text.quote p)
  | .id item none => (folderSearchName true withSubfolders, Text.quote item.text)
  | .id item (some subpath) =>
    (folderSearchName true withSubfolders, Text.quote (item.text ++ "/" ++ subpath))
  | .locality l => l.written

def TagTarget.written : TagTarget → String × String
  | flag .urgent => ("priority", "high")
  | flag .bulk => ("priority", "low")
  | flag f => ("tag", f.name)
  | named name => ("tag", Text.quote name)

def ItemSet.text : ItemSet → String
  | .all => "all"
  | .nothing => "none"
  | .ids list => String.intercalate "," (list.map ItemId.text)

/-- A quick search is written with the star that it goes without. -/
def starred (text : String) (quick : Bool) : String :=
  let trimmed := Text.trimEnd text
  if quick && trimmed.toList.getLast? != some '*' then trimmed ++ "*" else text

namespace Predicate

/-- The field and the value, as they are written on either side of the colon. -/
def written : Predicate → String × String
  | .text field body quick => (field.searchName, Text.quote (starred body quick))
  | .contact body => ("contact", Text.quote body)
  | .domain field name => (field.searchName, Text.quote name)
  | .structured name value => ("#" ++ name, Text.quoteAlways value)
  | .address fields body => (fields.searchName, Text.quote body)
  | .me fields => ("is", fields.meName)
  | .tag target => target.written
  | .term field word => (field.searchName, Text.quote word)
  | .date field literal _ => (field.searchName, Text.quote literal)
  | .size field literal _ => (field.searchName, Text.quote literal)
  | .count field literal _ => (field.searchName, Text.quote literal)
  | .stringRange column comparator value =>
    (column.searchName, Text.quote (comparator.sign ++ value))
  | .folder target withSubfolders => target.written withSubfolders
  | .item items => ("item", items.text)
  | .conversation id => ("conv", id.text)

def write (p : Predicate) : String := p.written.1 ++ ":" ++ p.written.2

end Predicate

end Sift
