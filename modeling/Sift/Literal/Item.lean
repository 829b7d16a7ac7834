/-
  Sift.Literal.Item — an item's id: a number, alone for an item of the searching account, or after
  another account and a colon.
-/

import Sift.Fault
import Sift.Text.Decimal
import Sift.Text.Trim

namespace Sift

namespace ItemId

/-- The account and the number that a text without blanks around it names; the last colon parts
    them. -/
def readParts (own : AccountId) (cs : List Char) : Except Flaw ItemId := do
  let (account, number) ←
    match Text.breakAtLast (· == ':') cs with
    | none => .ok (own, cs)
    | some (owner, number) =>
      match AccountId.read (String.ofList owner) with
      | some account => .ok (account, number)
      | none => .error .malformedAccount
  match Text.readSigned 32 number with
  | some id => .ok ⟨account, id⟩
  | none => .error .notItemNumber

def read (own : AccountId) (text : String) : Except Fault ItemId :=
  let text := Text.trim text
  match readParts own text.toList with
  | .ok item => .ok item
  | .error flaw => .error (.invalidLiteral .itemId text flaw)

end ItemId

end Sift
