/-
  Sift.Text.Quoted — the values of a written search. A value stands as it is, or between double
  quotes with a backslash before each quote and each backslash in it. `readValue` takes a value off
  the front of a text.
-/

import Sift.Text.Trim

namespace Sift.Text

def quotedChar (c : Char) : List Char := if c = '"' ∨ c = '\\' then ['\\', c] else [c]

def quotedChars (cs : List Char) : List Char := '"' :: cs.flatMap quotedChar ++ ['"']

/-- Characters that end a value without quotes, or that would be taken for something else in it. -/
def needsQuotes (c : Char) : Bool := isBlank c || c == '"' || c == '(' || c == ')'

def quoteAlways (s : String) : String := String.ofList (quotedChars s.toList)

def quote (s : String) : String :=
  if s.toList.isEmpty || s.toList.any needsQuotes then quoteAlways s else s

/-! ## Reading back -/

/-- What stands before the closing quote, and what comes after it. -/
def readQuoted : List Char → Option (List Char × List Char)
  | [] => none
  | '"' :: rest => some ([], rest)
  | '\\' :: c :: rest => (readQuoted rest).map fun (value, rest) => (c :: value, rest)
  | '\\' :: [] => none
  | c :: rest => (readQuoted rest).map fun (value, rest) => (c :: value, rest)

/-- Where a value without quotes ends. -/
def endsValue (c : Char) : Bool := isBlank c || c == ')'

def readValue : List Char → Option (List Char × List Char)
  | '"' :: rest => readQuoted rest
  | cs => some (cs.takeWhile fun c => !endsValue c, cs.dropWhile fun c => !endsValue c)

end Sift.Text
