/-
  Sift.Text.Trim — cutting characters off the ends of a text, and cutting a text in two. Blanks are the
  white space of Unicode.
-/

import Sift.Text.Table.Blank

namespace Sift.Text

def isBlank (c : Char) : Bool := Table.blank.has c

/-! ## On lists of characters -/

def dropTrailing (p : Char → Bool) (cs : List Char) : List Char := (cs.reverse.dropWhile p).reverse

def dropAround (p : Char → Bool) (cs : List Char) : List Char := dropTrailing p (cs.dropWhile p)

/-! ## On strings -/

def trim (s : String) : String := String.ofList (dropAround isBlank s.toList)

def trimEnd (s : String) : String := String.ofList (dropTrailing isBlank s.toList)

/-- The text without the first `p` character and what precedes it, and what precedes it. -/
def breakAt (p : Char → Bool) (cs : List Char) : Option (List Char × List Char) :=
  match cs.dropWhile (fun c => !p c) with
  | [] => none
  | _ :: after => some (cs.takeWhile (fun c => !p c), after)

/-- Cuts at the last character that `p` selects. -/
def breakAtLast (p : Char → Bool) (cs : List Char) : Option (List Char × List Char) :=
  (breakAt p cs.reverse).map fun (after, before) => (before.reverse, after.reverse)

end Sift.Text
