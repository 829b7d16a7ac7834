/-
  Sift.Question — a question as it is put: a field, a value, and perhaps a sign. `Question.node` is
  the node that it means; `Question.ofText` takes the text of a node apart into the question that
  would be put to get it.
-/

import Sift.SearchField
import Sift.Text.Quoted

namespace Sift

structure Question where
  modifier : Modifier
  field : String
  value : String
  deriving DecidableEq, Repr

namespace Question

/-- There is none where the field is not one. -/
def node (searcher : Searcher) (question : Question) : Option (Except Fault Node) :=
  (searcher.node question.field question.value).map fun read =>
    read.map fun node => { node with modifier := question.modifier }

/-! ## From text -/

def takeSign : List Char → Modifier × List Char
  | '+' :: rest => (.require, rest)
  | '-' :: rest => (.exclude, rest)
  | cs => (.plain, cs)

/-- A value in quotes ends where the text ends; any other value is all of the text. -/
def valueOf : List Char → Option String
  | '"' :: rest =>
    match Text.readQuoted rest with
    | some (value, []) => some (String.ofList value)
    | _ => none
  | cs => some (String.ofList cs)

def ofText (s : String) : Option Question := do
  let (modifier, cs) := takeSign s.toList
  let (field, rest) ← Text.breakAt (· == ':') cs
  return ⟨modifier, String.ofList field, ← valueOf rest⟩

end Question

end Sift
