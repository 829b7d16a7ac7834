/-
  Sift.Phrase — from the text of a search to the shape of its index query: nothing, one term, a
  phrase, or a phrase whose last word is only begun.
-/

import Sift.Analysis
import Sift.Fault
import Sift.Operation.Basic

namespace Sift

/-! ## Wildcards -/

/-- The text without the stars at its end, and whether there were any. -/
structure WildcardSplit where
  body : String
  wildcard : Bool
  deriving DecidableEq, Repr

/-- Stars count at the very end only, where blanks may follow them. -/
def splitWildcard (text : String) : Except Fault WildcardSplit :=
  let trimmed := Text.dropTrailing Text.isBlank text.toList
  let body := Text.dropTrailing (· == '*') trimmed
  if body.contains '*' then .error (.misplacedWildcard text)
  else .ok ⟨String.ofList body, body.length < trimmed.length⟩

/-! ## Shapes -/

inductive PhraseShape where
  | empty
  | term (term : String)
  | phrase (terms : List PhraseTerm)
  | stem (leading : List PhraseTerm) (last : PhraseTerm)
  deriving DecidableEq, Repr

namespace PhraseShape

def termsFrom (start : Nat) (tokens : List Token) : List PhraseTerm :=
  tokens.map fun t => ⟨t.position - start, t.term⟩

/-- The last word is kept even if it is a stop word: it may be the beginning of another. -/
def ofStem (field : TextField) (body : String) : PhraseShape :=
  match (allTokens field body).getLast? with
  | none => empty
  | some last =>
    let leading := (tokens field body).filter (·.position < last.position)
    let start := (leading.head?.map (·.position)).getD last.position
    stem (termsFrom start leading) ⟨last.position - start, last.term⟩

def ofWords (field : TextField) (body : String) : PhraseShape :=
  match tokens field body with
  | [] => empty
  | [t] => term t.term
  | t :: ts => phrase (termsFrom t.position (t :: ts))

/-- `quick` takes the last word as begun even without a star. -/
def ofText (field : TextField) (text : String) (quick : Bool) : Except Fault PhraseShape := do
  let split ← splitWildcard text
  return if split.wildcard || quick then ofStem field split.body else ofWords field split.body

def operation (field : TextField) (truth : Bool) : PhraseShape → Operation
  | empty => .unconstrained
  | term t => .index field (.term t) truth
  | phrase terms => .index field (.phrase terms) truth
  | stem leading last => .index field (.stem leading last) truth

end PhraseShape

end Sift
