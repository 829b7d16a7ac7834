/-
  Sift.Operation.Basic — what a search compiles to: constraints for the metadata store, queries for
  the full-text index, and their unions and intersections. Operations are descriptions; a constraint
  or query with truth `false` selects the items that it alone would reject.
-/

import Sift.Account
import Sift.Range
import Sift.TextField

namespace Sift

inductive DateColumn where
  | date
  | modified
  | appointmentStart
  | appointmentEnd
  | conversationStart
  | conversationEnd
  deriving DecidableEq, Repr

inductive Constraint where
  | date (column : DateColumn) (range : Range Int)
  | size (range : Range Int)
  | modSeq (range : Range Int)
  | convCount (range : Range Int)
  | tag (id : TagId)
  | inFolder (id : FolderId)
  | inRemoteFolder (owner : AccountId) (folder : FolderId) (subpath : Option String)
      (withSubfolders : Bool)
  | items (ids : List ItemId)
  | conversation (id : ItemId)
  | sender (range : Range String)
  | subject (range : Range String)
  deriving DecidableEq

/-- A word and how many words after the start of its phrase it stands. Words left out of the phrase
    leave gaps. -/
structure PhraseTerm where
  offset : Nat
  term : String
  deriving DecidableEq, Repr

inductive IndexQuery where
  | term (term : String)
  | phrase (terms : List PhraseTerm)
  /-- A phrase whose last term is matched by every word that begins with it. -/
  | stem (leading : List PhraseTerm) (last : PhraseTerm)
  /-- The number in a structured field. -/
  | range (name : String) (range : Range Int)
  deriving DecidableEq

inductive Operation where
  | noResults
  | unconstrained
  | db (constraint : Constraint) (truth : Bool)
  | index (field : TextField) (query : IndexQuery) (truth : Bool)
  | union (operations : List Operation)
  | intersection (operations : List Operation)

/-- Some of the alternatives; and where the truth is false, none of them, each already negated. -/
def Operation.anyOf (truth : Bool) (operations : List Operation) : Operation :=
  if truth then .union operations else .intersection operations

end Sift
