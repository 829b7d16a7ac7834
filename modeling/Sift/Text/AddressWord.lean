/-
  Sift.Text.AddressWord — the words of a text that may hold mail addresses: the longest runs of
  letters, numbers and the marks that addresses are written with. Dots and dashes at the ends of a
  run are punctuation and are left off.
-/

import Sift.Text.Trim
import Sift.Text.Word

namespace Sift.Text

def isAddressChar (c : Char) : Bool :=
  isAlphanumeric c || ['@', '.', '-', '_', '+', '\'', '&'].contains c

def isEdgeMark (c : Char) : Bool := c == '.' || c == '-'

def addressWords (s : String) : List String :=
  let runs := (s.toList.splitOnP fun c => !isAddressChar c).map (dropAround isEdgeMark)
  (runs.filter (!·.isEmpty)).map String.ofList

end Sift.Text
