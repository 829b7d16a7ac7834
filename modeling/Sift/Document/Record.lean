/-
  Sift.Document.Record — reading the parts of a document that has a fixed form. A record is an
  object whose known keys stand at most once; other keys do not matter. It may also be an array
  of the values of the first keys, in their order.
-/

import Sift.Json.Basic
import Sift.Text.Decimal

namespace Sift.Document

abbrev Record := List (String × Json)

/-- The members whose keys are known; none of these may be repeated. -/
def knownMembers (keys : List String) : List (Option String × Json) → Option Record
  | [] => some []
  | (none, _) :: _ => none
  | (some key, value) :: rest => do
    let record ← knownMembers keys rest
    if keys.contains key then
      if (record.map (·.1)).contains key then none else some ((key, value) :: record)
    else some record

def record (keys : List String) : Json → Option Record
  | .object members => knownMembers keys members
  | .array items => if items.length ≤ keys.length then some (keys.zip items) else none
  | _ => none

/-- The value under a key, read if it is there. -/
def Record.optional {α : Type} (r : Record) (key : String) (default : α) (read : Json → Option α) :
    Option α :=
  match r.lookup key with
  | some value => read value
  | none => some default

def Record.required {α : Type} (r : Record) (key : String) (read : Json → Option α) : Option α :=
  (r.lookup key).bind read

/-! ## Plain values -/

def readString : Json → Option String
  | .string text => text
  | _ => none

def readSigned (bits : Nat) : Json → Option Int
  | .whole n => if Text.fitsSigned bits n then some n else none
  | _ => none

def readUnsigned (bits : Nat) : Json → Option Nat
  | .whole n => if 0 ≤ n ∧ n < Int.pow 2 bits then some n.toNat else none
  | _ => none

def readList {α : Type} (read : Json → Option α) : Json → Option (List α)
  | .array items => items.mapM read
  | _ => none

/-- One of several named cases, with or without a value. -/
def readCase : Json → Option (String × Option Json)
  | .string (some name) => some (name, none)
  | .object [(some name, value)] => some (name, some value)
  | _ => none

/-- A case that holds nothing. -/
def readBareCase (json : Json) : Option String :=
  match readCase json with
  | some (name, none) | some (name, some .null) => some name
  | _ => none

end Sift.Document
