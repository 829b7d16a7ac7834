/-
  Sift.Account — accounts and the items they own.

  An account is named by 32 hexadecimal digits, written in five groups. `AccountId.read` takes the
  groups with their dashes, also in braces or after `urn:uuid:`, or the bare digits; letters count
  in either case. `AccountId.text` writes the first form in lower case.
-/

import Sift.Text.Decimal

namespace Sift

structure AccountId where
  digits : List (Fin 16)
  size_digits : digits.length = 32 := by decide
  deriving DecidableEq

namespace AccountId

/-! ## Digits -/

def hexDigit (d : Fin 16) : Char := Nat.digitChar d.val

def ofDigits (cs : List Char) : Option AccountId :=
  match cs.mapM Text.hexValue with
  | none => none
  | some digits => if h : digits.length = 32 then some ⟨digits, h⟩ else none

/-! ## Groups -/

/-- The lengths of the groups, which dashes separate. -/
def groups : List Nat := [8, 4, 4, 4, 12]

def group : List Nat → List Char → List (List Char)
  | [], _ => []
  | n :: ns, cs => cs.take n :: group ns (cs.drop n)

/-- Takes the dashes out of a text that is grouped as `groups` says. -/
def ungroup : List Nat → List Char → Option (List Char)
  | [], [] => some []
  | [], _ => none
  | [n], cs => if cs.length = n then some cs else none
  | n :: ns, cs =>
    match cs.drop n with
    | '-' :: rest => (ungroup ns rest).map (cs.take n ++ ·)
    | _ => none

def ofGroups (cs : List Char) : Option AccountId := (ungroup groups cs).bind ofDigits

def read (s : String) : Option AccountId :=
  match s.toList with
  | '\x7b' :: rest => if rest.getLast? = some '\x7d' then ofGroups rest.dropLast else none
  | 'u' :: 'r' :: 'n' :: ':' :: 'u' :: 'u' :: 'i' :: 'd' :: ':' :: rest => ofGroups rest
  | 'U' :: 'R' :: 'N' :: ':' :: 'U' :: 'U' :: 'I' :: 'D' :: ':' :: rest => ofGroups rest
  | cs => if cs.length = 32 then ofDigits cs else ofGroups cs

def text (a : AccountId) : String :=
  String.ofList (List.intercalate ['-'] (group groups (a.digits.map hexDigit)))

end AccountId

/-! ## What an account owns -/

abbrev FolderId := Int

abbrev TagId := Int

/-- An item, or a folder of another account. -/
structure ItemId where
  account : AccountId
  id : Int
  deriving DecidableEq

def ItemId.belongsTo (item : ItemId) (account : AccountId) : Bool := item.account == account

def ItemId.text (item : ItemId) : String := item.account.text ++ ":" ++ toString item.id

end Sift
