/-
  Sift.Json.Basic — JSON values, as they are written and as they are meant.

  `Json` keeps what a text says to the letter: keys that are repeated, whether a number is written
  as a whole one, and texts that an escape of half a character breaks. `Json.tree` is the value
  that is meant: each key once, with the value given last, and the keys in order.
-/

namespace Sift

inductive Json where
  | null
  | bool (value : Bool)
  | whole (value : Int)
  /-- A number with a fraction or an exponent, or minus zero, and whether it is too large. -/
  | real (tooLarge : Bool)
  | string (text : Option String)
  | array (items : List Json)
  | object (members : List (Option String × Json))

inductive JsonTree where
  | null
  | bool (value : Bool)
  | number
  | string (text : String)
  | array (items : List JsonTree)
  | object (members : List (String × JsonTree))

/-- Puts a member in its place by ascending key, for the member that had its key. -/
def putMember {α : Type} (key : String) (value : α) : List (String × α) → List (String × α)
  | [] => [(key, value)]
  | (k, v) :: rest =>
    if key < k then (key, value) :: (k, v) :: rest
    else if key = k then (key, value) :: rest
    else (k, v) :: putMember key value rest

namespace Json

mutual

/-- There is none where a text is broken, a number is too large or the value is nested deeper than
    `depth`. -/
def tree (depth : Nat) : Json → Option JsonTree
  | null => some .null
  | bool value => some (.bool value)
  | whole _ => some .number
  | real tooLarge => if tooLarge then none else some .number
  | string text => text.map .string
  | array items =>
    match depth with
    | 0 => none
    | depth + 1 => (trees depth items).map .array
  | object members =>
    match depth with
    | 0 => none
    | depth + 1 => (treeMembers depth members).map fun pairs =>
      .object (pairs.foldl (fun done (key, value) => putMember key value done) [])

def trees (depth : Nat) : List Json → Option (List JsonTree)
  | [] => some []
  | item :: rest => do return (← item.tree depth) :: (← trees depth rest)

def treeMembers (depth : Nat) : List (Option String × Json) → Option (List (String × JsonTree))
  | [] => some []
  | (key, value) :: rest => do
    return (← key, ← value.tree depth) :: (← treeMembers depth rest)

end

/-- How deep a document may be nested. -/
def depthLimit : Nat := 127

end Json

end Sift
