/-
  Sift.Text.Word — the words of a text by the word boundaries of Unicode.

  A text is cut into segments, each as long as the boundary rules let it grow: letters and digits
  run on, an apostrophe or a dot between two letters stays inside, a comma between two digits stays
  inside, and marks, formats and joiners stay with what they follow. Segments that hold a letter or
  a number are words.
-/

import Sift.Text.Table.Alphanumeric
import Sift.Text.Table.Pictographic
import Sift.Text.Table.WordBreak
import Sift.Text.Table.WordLetter
import Sift.Text.Table.WordMark

namespace Sift.Text

/-- The scan stops at the first range that does not end below `n`: the ranges ascend. -/
def classIn (n : Nat) : List (Nat × Nat × WordClass) → WordClass
  | [] => .other
  | (first, last, k) :: rest => if last < n then classIn n rest else if first ≤ n then k else .other

def wordClass (c : Char) : WordClass :=
  if Table.wordLetter.has c then .letter
  else if Table.wordMark.has c then .extend
  else classIn c.toNat Table.wordBreak

def isAlphanumeric (c : Char) : Bool := Table.alphanumeric.has c

def isPictograph (c : Char) : Bool := Table.pictographic.has c

/-! ## Segments -/

/-- What a segment may go on with. -/
inductive SegmentState where
  | letter
  | hebrew
  | numeric
  | katakana
  | connector
  | space
  | oneRegional
  /-- After an apostrophe that follows a Hebrew letter: it stays, whatever comes. -/
  | hebrewQuote
  /-- After punctuation that stays only if a letter follows. -/
  | needsLetter
  | needsHebrew
  | needsNumeric
  | closed
  deriving DecidableEq, Repr

/-- Whether the segment must still find something, or give its last punctuation back. -/
def SegmentState.isPending : SegmentState → Bool
  | .needsLetter | .needsHebrew | .needsNumeric => true
  | _ => false

/-- What the next character does to the segment. -/
inductive SegmentStep where
  | stop
  | go (next : SegmentState)
  /-- The character belongs to the segment if the segment goes on after it. -/
  | perhaps (next : SegmentState)
  deriving DecidableEq, Repr

def afterLetter : WordClass → SegmentStep
  | .letter => .go .letter
  | .hebrew => .go .hebrew
  | .numeric => .go .numeric
  | .connector => .go .connector
  | .midLetter | .midNumLet | .singleQuote => .perhaps .needsLetter
  | _ => .stop

def SegmentState.step : SegmentState → WordClass → SegmentStep
  | .letter, k => afterLetter k
  | .hebrew, .doubleQuote => .perhaps .needsHebrew
  | .hebrew, .singleQuote => .go .hebrewQuote
  | .hebrew, k => afterLetter k
  | .numeric, .numeric => .go .numeric
  | .numeric, .letter => .go .letter
  | .numeric, .hebrew => .go .hebrew
  | .numeric, .connector => .go .connector
  | .numeric, .midNum | .numeric, .midNumLet | .numeric, .singleQuote => .perhaps .needsNumeric
  | .katakana, .katakana => .go .katakana
  | .katakana, .connector => .go .connector
  | .connector, .connector => .go .connector
  | .connector, .letter => .go .letter
  | .connector, .hebrew => .go .hebrew
  | .connector, .numeric => .go .numeric
  | .connector, .katakana => .go .katakana
  | .space, .space => .go .space
  | .oneRegional, .regional => .go .closed
  | .hebrewQuote, .letter | .needsLetter, .letter => .go .letter
  | .hebrewQuote, .hebrew | .needsLetter, .hebrew | .needsHebrew, .hebrew => .go .hebrew
  | .needsNumeric, .numeric => .go .numeric
  | _, _ => .stop

/-- Marks between two runs of spaces keep them apart. -/
def SegmentState.afterMark : SegmentState → SegmentState
  | .space => .closed
  | state => state

/-- How many of the characters that follow belong to the segment; `none` where a pending segment
    finds nothing. `joined` says that a joiner stands right before, which ties a pictograph. -/
def extent (state : SegmentState) (joined : Bool) : List Char → Option Nat
  | [] => if state.isPending then none else some 0
  | c :: cs =>
    let k := wordClass c
    if k.isTransparent then (extent state.afterMark (k == .joiner) cs).map (· + 1)
    else if joined && isPictograph c then (extent .closed false cs).map (· + 1)
    else match state.step k with
      | .go next => (extent next false cs).map (· + 1)
      | .perhaps next => some (((extent next false cs).map (· + 1)).getD 0)
      | .stop => if state.isPending then none else some 0

/-- How many characters a segment takes after its first one, which is `c`. -/
def extentAfter (c : Char) (cs : List Char) : Nat :=
  match wordClass c with
  | .carriageReturn => if cs.head?.map wordClass = some .lineFeed then 1 else 0
  | .lineFeed | .newline => 0
  | .letter => (extent .letter false cs).getD 0
  | .hebrew => (extent .hebrew false cs).getD 0
  | .numeric => (extent .numeric false cs).getD 0
  | .katakana => (extent .katakana false cs).getD 0
  | .connector => (extent .connector false cs).getD 0
  | .regional => (extent .oneRegional false cs).getD 0
  | .space => (extent .space false cs).getD 0
  | .joiner => (extent .closed true cs).getD 0
  | _ => (extent .closed false cs).getD 0

def segments : List Char → List (List Char)
  | [] => []
  | c :: cs => (c :: cs.take (extentAfter c cs)) :: segments (cs.drop (extentAfter c cs))
  termination_by cs => cs.length
  decreasing_by simp only [List.length_drop, List.length_cons]; omega

/-! ## Words -/

def words (s : String) : List String :=
  ((segments s.toList).filter (·.any isAlphanumeric)).map String.ofList

end Sift.Text
