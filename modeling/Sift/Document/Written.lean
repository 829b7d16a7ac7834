/-
  Sift.Document.Written — the JSON form of a search that is not yet read: `Clause.document` writes
  its questions, groups and words so that `Document.readClause` finds each of them again.
-/

import Sift.Document.Search

namespace Sift

def Modifier.word : Modifier → String
  | plain => "none"
  | require => "require"
  | exclude => "exclude"

def Conjunction.word : Conjunction → String
  | and => "and"
  | or => "or"

/-- A question without a sign needs no more than its field and its value. -/
def Question.document (question : Question) : JsonTree :=
  match question.modifier with
  | .plain => .object [(question.field, .string question.value)]
  | modifier =>
    .object [(question.field,
      .object [("modifier", .string modifier.word), ("value", .string question.value)])]

namespace Clause

mutual

def document : Clause Question → JsonTree
  | leaf question => question.document
  | group .plain clauses => .array (documentEach clauses)
  | group modifier clauses => .object [(modifier.word, .array (documentEach clauses))]
  | conjunction c => .string c.word

def documentEach : List (Clause Question) → List JsonTree
  | [] => []
  | clause :: rest => clause.document :: documentEach rest

end

end Clause

end Sift
