/-
  Sift.Document.Search — searches described in JSON. A search is an array of clauses, or one clause
  that is an object. A clause is

  * a question, `{"from": "bob"}` or `{"from": {"value": "bob", "modifier": "exclude"}}`;
  * a group, which is an array, or an array under the key `require` or `exclude`;
  * one of the words `and` and `or`.
-/

import Sift.Clause
import Sift.Json.Basic
import Sift.Question

namespace Sift.Document

/-- Why a document is not a search. -/
inductive SearchFault where
  | unrecognisedField (name : String)
  | unrecognisedKey (key : String)
  | expectedKey (key : String)
  | expectedObject
  | expectedArray
  | expectedString
  | expectedObjectOrString
  | expectedSingleKey
  | invalidModifier (word : String)
  | invalidConjunction (word : String)
  | fault (fault : Fault)
  deriving DecidableEq

def SearchFault.message : SearchFault → String
  | unrecognisedField name => "unrecognised search field " ++ Text.printed name
  | unrecognisedKey key => "unrecognised key " ++ Text.printed key
  | expectedKey key => "expected key " ++ Text.printed key
  | expectedObject => "expected an object"
  | expectedArray => "expected an array"
  | expectedString => "expected a string"
  | expectedObjectOrString => "expected an object or a string"
  | expectedSingleKey => "expected an object with a single key"
  | invalidModifier word => "invalid modifier " ++ Text.printed word
  | invalidConjunction word => "invalid conjunction " ++ Text.printed word
  | fault f => f.message

/-! ## Words -/

def modifierOf (word : String) : Except SearchFault Modifier :=
  match word with
  | "none" => .ok .plain
  | "require" | "+" => .ok .require
  | "exclude" | "-" => .ok .exclude
  | _ => .error (.invalidModifier word)

def conjunctionOf (word : String) : Except SearchFault Conjunction :=
  match Text.lower word with
  | "and" => .ok .and
  | "or" => .ok .or
  | _ => .error (.invalidConjunction word)

def readText : JsonTree → Except SearchFault String
  | .string text => .ok text
  | _ => .error .expectedString

def readModifier (tree : JsonTree) : Except SearchFault Modifier := do
  modifierOf (← readText tree)

/-! ## Questions -/

/-- What is said under the field of a question: its value and its sign. -/
structure QuestionEntry where
  value : Option String
  modifier : Modifier

def QuestionEntry.empty : QuestionEntry := ⟨none, .plain⟩

def QuestionEntry.add (entry : QuestionEntry) (key : String) (tree : JsonTree) :
    Except SearchFault QuestionEntry :=
  match key with
  | "value" => do return { entry with value := some (← readText tree) }
  | "modifier" => do return { entry with modifier := ← readModifier tree }
  | _ => .error (.unrecognisedKey key)

def readQuestion (field : String) : JsonTree → Except SearchFault Question
  | .string value => .ok ⟨.plain, field, value⟩
  | .object members => do
    let entry ← members.foldlM (fun entry (key, tree) => entry.add key tree) QuestionEntry.empty
    match entry.value with
    | some value => return ⟨entry.modifier, field, value⟩
    | none => .error (.expectedKey "value")
  | _ => .error .expectedObjectOrString

/-- The node that a question means. -/
def answerQuestion (searcher : Searcher) (question : Question) : Except SearchFault Node :=
  match question.node searcher with
  | some (.ok node) => .ok node
  | some (.error f) => .error (.fault f)
  | none => .error (.unrecognisedField question.field)

/-! ## Clauses -/

/-- The sign of the groups that a key names. -/
def groupModifier : String → Option Modifier
  | "require" => some .require
  | "exclude" => some .exclude
  | _ => none

mutual

def readClause (searcher : Searcher) : JsonTree → Except SearchFault Search
  | .string word => do return .conjunction (← conjunctionOf word)
  | .array items => do return .group .plain (← readClauses searcher items)
  | .object [(key, tree)] =>
    match groupModifier key with
    | some modifier => do return .group modifier (← readGroup searcher tree)
    | none => do return .leaf (← answerQuestion searcher (← readQuestion key tree))
  | .object _ => .error .expectedSingleKey
  | _ => .error .expectedObject

def readGroup (searcher : Searcher) : JsonTree → Except SearchFault (List Search)
  | .array items => readClauses searcher items
  | _ => .error .expectedArray

def readClauses (searcher : Searcher) : List JsonTree → Except SearchFault (List Search)
  | [] => .ok []
  | tree :: rest => do return (← readClause searcher tree) :: (← readClauses searcher rest)

end

/-- The clauses of a search, as one group. -/
def readSearch (searcher : Searcher) : JsonTree → Except SearchFault Search
  | .array items => do return .group .plain (← readClauses searcher items)
  | .object members => do return .group .plain [← readClause searcher (.object members)]
  | _ => .error .expectedArray

end Sift.Document
