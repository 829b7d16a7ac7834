/-
  Sift.Text.Case — lower case. `lower` is the full default mapping of Unicode, in which a capital
  sigma becomes a final sigma at the end of a word; `sameAscii` ignores the case of A to Z alone.
-/

import Sift.Text.Table.Cased
import Sift.Text.Table.CaseIgnorable
import Sift.Text.Table.Lowercase

namespace Sift.Text

/-- The code point that the ascending runs give for `n`; `n` itself where no run holds it. -/
def shifted (n : Nat) : List (Nat × Nat × Nat × Int) → Nat
  | [] => n
  | (first, last, step, shift) :: rest =>
    if last < n then shifted n rest
    else if first ≤ n && (n - first) % step == 0 then (Int.ofNat n + shift).toNat
    else n

/-- The lower case of one character on its own. -/
def lowerChar (c : Char) : List Char :=
  if c = '\u0130' then ['i', '\u0307'] else [Char.ofNat (shifted c.toNat Table.lowercase)]

/-- Whether the first character that is not looked through has a case. -/
def meetsCased (cs : List Char) : Bool :=
  match cs.dropWhile Table.caseIgnorable.has with
  | [] => false
  | c :: _ => Table.cased.has c

/-- A sigma ends its word where a cased character precedes it and none follows; `before` is read
    backwards. -/
def sigmaEndsWord (before after : List Char) : Bool := meetsCased before && !meetsCased after

/-- The lower case of the second text, which follows the first (read backwards). -/
def lowerAfter (before : List Char) : List Char → List Char
  | [] => []
  | c :: after =>
    (if c = '\u03A3' then [if sigmaEndsWord before after then '\u03C2' else '\u03C3'] else lowerChar c)
      ++ lowerAfter (c :: before) after

def lower (s : String) : String := String.ofList (lowerAfter [] s.toList)

/-- Equality that ignores the case of the letters A to Z. -/
def sameAscii (s t : String) : Bool := s.toList.map Char.toLower == t.toList.map Char.toLower

end Sift.Text
