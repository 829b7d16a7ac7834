/-
  Sift.Json.Reader — JSON values from text. A document is one value with nothing but blanks around
  it.
-/

import Sift.Json.Basic
import Sift.Text.Decimal

namespace Sift.Json

/-! ## Blanks and words -/

def isSpace (c : Char) : Bool := c == ' ' || c == '\t' || c == '\n' || c == '\r'

def skipSpace (cs : List Char) : List Char := cs.dropWhile isSpace

/-! ## Strings -/

/-- What a string holds: characters, and halves of the characters that an escape writes in two. -/
inductive Piece where
  | char (c : Char)
  | high (unit : Nat)
  | low (unit : Nat)
  deriving DecidableEq

def hexUnit (a b c d : Char) : Option Nat := do
  let a ← Text.hexValue a
  let b ← Text.hexValue b
  let c ← Text.hexValue c
  let d ← Text.hexValue d
  return 4096 * a.val + 256 * b.val + 16 * c.val + d.val

def pieceOfUnit (unit : Nat) : Piece :=
  if 0xD800 ≤ unit ∧ unit < 0xDC00 then .high unit
  else if 0xDC00 ≤ unit ∧ unit < 0xE000 then .low unit
  else .char (Char.ofNat unit)

def shortEscape : Char → Option Char
  | '"' => some '"'
  | '\\' => some '\\'
  | '/' => some '/'
  | 'b' => some '\x08'
  | 'f' => some '\x0c'
  | 'n' => some '\n'
  | 'r' => some '\r'
  | 't' => some '\t'
  | _ => none

/-- The pieces up to the closing quote, and what comes after it. -/
def takePieces : List Char → Option (List Piece × List Char)
  | [] => none
  | '"' :: rest => some ([], rest)
  | '\\' :: 'u' :: a :: b :: c :: d :: rest => do
    let unit ← hexUnit a b c d
    let (pieces, rest) ← takePieces rest
    return (pieceOfUnit unit :: pieces, rest)
  | '\\' :: c :: rest => do
    let c ← shortEscape c
    let (pieces, rest) ← takePieces rest
    return (.char c :: pieces, rest)
  | c :: rest =>
    if c.toNat < 0x20 then none
    else (takePieces rest).map fun (pieces, rest) => (.char c :: pieces, rest)

/-- Joins halves that stand together; there is no text where a half stands alone. -/
def joinPieces : List Piece → Option (List Char)
  | [] => some []
  | .char c :: rest => (joinPieces rest).map (c :: ·)
  | .high h :: .low l :: rest =>
    (joinPieces rest).map (Char.ofNat (0x10000 + 0x400 * (h - 0xD800) + (l - 0xDC00)) :: ·)
  | _ => none

/-- The text after an opening quote. -/
def takeText (cs : List Char) : Option (Option String × List Char) :=
  (takePieces cs).map fun (pieces, rest) => ((joinPieces pieces).map String.ofList, rest)

/-! ## Numbers -/

/-- Numbers from here on are nearer to the end of the binary64 range than to its last number. -/
def realLimit : Nat := Nat.pow 2 1024 - Nat.pow 2 970

/-- Whether `n` times ten to the `exponent` reaches the limit. -/
def isTooLarge (n : Nat) (exponent : Int) : Bool :=
  if n = 0 then false
  else if 400 < exponent then true
  else if 0 ≤ exponent then realLimit ≤ n * Nat.pow 10 exponent.toNat
  else if n.log2 < (-exponent).toNat then false
  else realLimit * Nat.pow 10 (-exponent).toNat ≤ n

/-- A whole part: a zero alone, or digits that do not begin with one. -/
def takeWhole (cs : List Char) : Option (List Char × List Char) :=
  match cs with
  | '0' :: rest => if (rest.head?.map Char.isDigit).getD false then none else some (['0'], rest)
  | _ =>
    let digits := cs.takeWhile Char.isDigit
    if digits.isEmpty then none else some (digits, cs.dropWhile Char.isDigit)

/-- The digits after a point, if there is one; then there must be some. -/
def takeFraction : List Char → Option (Option (List Char) × List Char)
  | '.' :: rest =>
    let digits := rest.takeWhile Char.isDigit
    if digits.isEmpty then none else some (some digits, rest.dropWhile Char.isDigit)
  | cs => some (none, cs)

def takeExponentDigits (cs : List Char) : Option (Nat × List Char) :=
  (Text.readNat (cs.takeWhile Char.isDigit)).map fun n => (n, cs.dropWhile Char.isDigit)

/-- The power of ten after an `e`, if there is one. -/
def takeExponent : List Char → Option (Option Int × List Char)
  | e :: rest =>
    if e = 'e' ∨ e = 'E' then
      match rest with
      | '-' :: rest => (takeExponentDigits rest).map fun (n, rest) => (some (-Int.ofNat n), rest)
      | '+' :: rest => (takeExponentDigits rest).map fun (n, rest) => (some (Int.ofNat n), rest)
      | rest => (takeExponentDigits rest).map fun (n, rest) => (some (Int.ofNat n), rest)
    else some (none, e :: rest)
  | [] => some (none, [])

def takeUnsigned (negative : Bool) (cs : List Char) : Option (Json × List Char) := do
  let (digits, cs) ← takeWhole cs
  let (fraction, cs) ← takeFraction cs
  let (exponent, cs) ← takeExponent cs
  let n := Text.digitsValue digits
  match fraction, exponent with
  | none, none =>
    if isTooLarge n 0 then return (real true, cs)
    else if negative && n == 0 then return (real false, cs)
    else return (whole (if negative then -Int.ofNat n else Int.ofNat n), cs)
  | fraction, exponent =>
    let fraction := fraction.getD []
    let n := Text.digitsValue (digits ++ fraction)
    return (real (isTooLarge n (exponent.getD 0 - fraction.length)), cs)

def takeNumber : List Char → Option (Json × List Char)
  | '-' :: rest => takeUnsigned true rest
  | cs => takeUnsigned false cs

/-! ## Values -/

mutual

/-- A value and what follows it; `fuel` bounds the number of calls. -/
def takeValue : Nat → List Char → Option (Json × List Char)
  | 0, _ => none
  | fuel + 1, cs =>
    match skipSpace cs with
    | 'n' :: 'u' :: 'l' :: 'l' :: rest => some (null, rest)
    | 't' :: 'r' :: 'u' :: 'e' :: rest => some (bool true, rest)
    | 'f' :: 'a' :: 'l' :: 's' :: 'e' :: rest => some (bool false, rest)
    | '"' :: rest => (takeText rest).map fun (text, rest) => (string text, rest)
    | '[' :: rest =>
      match skipSpace rest with
      | ']' :: rest => some (array [], rest)
      | _ => (takeItems fuel rest).map fun (items, rest) => (array items, rest)
    | '\x7b' :: rest =>
      match skipSpace rest with
      | '\x7d' :: rest => some (object [], rest)
      | _ => (takeMembers fuel rest).map fun (members, rest) => (object members, rest)
    | cs => takeNumber cs

/-- One value or more, up to the closing bracket. -/
def takeItems : Nat → List Char → Option (List Json × List Char)
  | 0, _ => none
  | fuel + 1, cs => do
    let (item, rest) ← takeValue fuel cs
    match skipSpace rest with
    | ',' :: rest =>
      let (items, rest) ← takeItems fuel rest
      return (item :: items, rest)
    | ']' :: rest => return ([item], rest)
    | _ => none

/-- One member or more, up to the closing brace. -/
def takeMembers : Nat → List Char → Option (List (Option String × Json) × List Char)
  | 0, _ => none
  | fuel + 1, cs => do
    let rest ← match skipSpace cs with | '"' :: rest => some rest | _ => none
    let (key, rest) ← takeText rest
    let rest ← match skipSpace rest with | ':' :: rest => some rest | _ => none
    let (value, rest) ← takeValue fuel rest
    match skipSpace rest with
    | ',' :: rest =>
      let (members, rest) ← takeMembers fuel rest
      return ((key, value) :: members, rest)
    | '\x7d' :: rest => return ([(key, value)], rest)
    | _ => none

end

/-- Every call but the first follows a character that is taken, and no character is followed by more
    than two. -/
def read (s : String) : Option Json :=
  let cs := s.toList
  match takeValue (2 * cs.length + 1) cs with
  | some (value, rest) => if (skipSpace rest).isEmpty then some value else none
  | none => none

end Sift.Json
