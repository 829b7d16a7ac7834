/-
  Sift.Analysis — from the text of a search to the terms of the index. How a text is cut depends on
  the field. `allTokens` numbers the words of a text from 1 and puts them in lower case; `tokens`
  leaves out common English words, and the numbers of the others stay as they are.
-/

import Sift.Text.AddressWord
import Sift.Text.Case
import Sift.TextField

namespace Sift

structure Token where
  term : String
  position : Nat
  deriving DecidableEq, Repr

def Token.lower (token : Token) : Token := { token with term := Text.lower token.term }

def numberTokens (terms : List String) : List Token :=
  (terms.zipIdx 1).map fun (term, position) => ⟨term, position⟩

/-! ## Stop words -/

def stopWords : List String :=
  ["a", "an", "and", "are", "as", "at", "be", "but", "by", "for", "if", "in", "into", "is",
    "it", "no", "not", "of", "on", "or", "such", "that", "the", "their", "then", "there",
    "these", "they", "this", "to", "was", "will", "with"]

def isStopWord (term : String) : Bool := stopWords.contains term

def dropStopWords (tokens : List Token) : List Token := tokens.filter fun t => !isStopWord t.term

/-! ## Fields -/

/-- How the text of a field is cut into words. -/
inductive Analysis where
  | words
  | addresses
  /-- The text is one word, whatever it holds. -/
  | whole
  deriving DecidableEq, Repr

def TextField.analysis : TextField → Analysis
  | sender | recipient | cc | envFrom | envTo | contact => .addresses
  | attachments | type | objects | structured => .whole
  | _ => .words

def wholeWord (text : String) : List String :=
  let trimmed := Text.trim text
  if trimmed.isEmpty then [] else [trimmed]

def Analysis.split : Analysis → String → List String
  | words => Text.words
  | addresses => Text.addressWords
  | whole => wholeWord

def allTokens (field : TextField) (text : String) : List Token :=
  (numberTokens (field.analysis.split text)).map Token.lower

def tokens (field : TextField) (text : String) : List Token :=
  match field.analysis with
  | .words => dropStopWords (allTokens field text)
  | .addresses | .whole => allTokens field text

end Sift
