/-
  Sift.Text.WordClass — the classes of characters that word boundaries are decided by.
-/

namespace Sift.Text

inductive WordClass where
  | other
  | carriageReturn
  | lineFeed
  | newline
  | extend
  | joiner
  | format
  | regional
  | katakana
  | hebrew
  | letter
  | singleQuote
  | doubleQuote
  | midNumLet
  | midLetter
  | midNum
  | numeric
  | connector
  | space
  deriving DecidableEq, Repr

/-- Characters of these classes belong to the character before them. -/
def WordClass.isTransparent : WordClass → Bool
  | .extend | .format | .joiner => true
  | _ => false

end Sift.Text
