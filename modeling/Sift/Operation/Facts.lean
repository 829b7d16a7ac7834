/-
  Sift.Operation.Facts — which items an operation selects, given what the stores know about each.
  What is not known about an item meets no constraint.
-/

import Sift.Operation.Basic

namespace Sift

structure ItemFacts where
  id : Option ItemId
  conversation : Option ItemId
  folder : Option FolderId
  /-- The folder in another account's mailbox, for items behind a mountpoint. -/
  remoteFolder : Option ItemId
  tags : List TagId
  dates : List (DateColumn × Int)
  size : Option Int
  modSeq : Option Int
  convCount : Option Int
  sender : Option String
  subject : Option String
  terms : List (TextField × List String)
  numericFields : List (String × Int)

namespace ItemFacts

def within {α : Type} [LT α] [DecidableLT α] (range : Range α) (known : Option α) : Bool :=
  known.any range.contains

def meets (item : ItemFacts) : Constraint → Bool
  | .date column range => within range (item.dates.lookup column)
  | .size range => within range item.size
  | .modSeq range => within range item.modSeq
  | .convCount range => within range item.convCount
  | .tag id => item.tags.contains id
  | .inFolder id => item.folder == some id
  | .inRemoteFolder owner folder _ _ => item.remoteFolder == some ⟨owner, folder⟩
  | .items ids => item.id.any ids.contains
  | .conversation id => item.conversation == some id
  | .sender range => within range item.sender
  | .subject range => within range item.subject

/-! ## Phrases -/

/-- Whether each term of the phrase stands at its offset from `start`. -/
def phraseAt (words : List String) (start : Nat) (phrase : List PhraseTerm) : Bool :=
  phrase.all fun t => words[start + t.offset]? == some t.term

def stemAt (words : List String) (start : Nat) (stem : PhraseTerm) : Bool :=
  words[start + stem.offset]?.any fun word => stem.term.toList.isPrefixOf word.toList

def answers (words : List String) : IndexQuery → Bool
  | .term word => words.contains word
  | .phrase terms => !terms.isEmpty && (List.range words.length).any (phraseAt words · terms)
  | .stem leading last =>
    (List.range words.length).any fun start =>
      phraseAt words start leading && stemAt words start last
  | .range .. => false

/-- A range is over the numbers of structured fields, whatever field the query is for. -/
def meetsQuery (item : ItemFacts) (field : TextField) : IndexQuery → Bool
  | .range name range => within range (item.numericFields.lookup name)
  | query => (item.terms.lookup field).any (answers · query)

end ItemFacts

namespace Operation

mutual

def selects (item : ItemFacts) : Operation → Bool
  | noResults => false
  | unconstrained => true
  | db constraint truth => item.meets constraint == truth
  | index field query truth => item.meetsQuery field query == truth
  | union operations => anySelects item operations
  | intersection operations => allSelect item operations

def anySelects (item : ItemFacts) : List Operation → Bool
  | [] => false
  | operation :: rest => operation.selects item || anySelects item rest

def allSelect (item : ItemFacts) : List Operation → Bool
  | [] => true
  | operation :: rest => operation.selects item && allSelect item rest

end

end Operation

end Sift
