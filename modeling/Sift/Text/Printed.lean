/-
  Sift.Text.Printed — a text between double quotes on one line, with every character that would not
  show escaped. Messages and printed operations show texts in this form.
-/

import Sift.Text.Table.Combining
import Sift.Text.Table.Unprintable

namespace Sift.Text

/-- Marks that join the character before them, and characters without a form, do not show. -/
def shows (c : Char) : Bool := !Table.combining.has c && !Table.unprintable.has c

def printedChar (c : Char) : List Char :=
  if c = '\x00' then ['\\', '0']
  else if c = '\t' then ['\\', 't']
  else if c = '\r' then ['\\', 'r']
  else if c = '\n' then ['\\', 'n']
  else if c = '"' || c = '\\' then ['\\', c]
  else if shows c then [c]
  else ['\\', 'u', '\x7b'] ++ Nat.toDigits 16 c.toNat ++ ['\x7d']

def printed (s : String) : String :=
  String.ofList ('"' :: s.toList.flatMap printedChar ++ ['"'])

end Sift.Text
