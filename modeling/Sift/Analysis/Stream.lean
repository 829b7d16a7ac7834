/-
  Sift.Analysis.Stream — the words of a text, taken one at a time.

  `Sift.Analysis` cuts a text as a whole. A stream keeps its place in the text and the number of words
  given so far, and each step gives one more word, passes one over or finds that none is left. A filter
  is a stream whose steps are those of the stream behind it.
-/

import Sift.Analysis

namespace Sift

/-- What is done at one place of a stream, and the place that comes next. -/
inductive StreamStep (Place : Type) where
  | give (token : Token) (next : Place)
  | pass (next : Place)
  | done

structure TokenStream where
  Place : Type
  start : Place
  step : Place → StreamStep Place

namespace TokenStream

/-- From the place on, these tokens are given, and then it is found that none is left. A stream that
    goes on without an end gives no list at all. -/
inductive Gives (stream : TokenStream) : stream.Place → List Token → Prop
  | done {place : stream.Place} : stream.step place = .done → Gives stream place []
  | pass {place next : stream.Place} {ts : List Token} :
      stream.step place = .pass next → Gives stream next ts → Gives stream place ts
  | give {place next : stream.Place} {t : Token} {ts : List Token} :
      stream.step place = .give t next → Gives stream next ts → Gives stream place (t :: ts)

/-- The tokens of the whole stream. -/
def Collects (stream : TokenStream) (ts : List Token) : Prop := stream.Gives stream.start ts

/-! ## Sources -/

/-- The rest of the text after a word, and how many words have been given. -/
structure Scan where
  rest : List Char
  given : Nat

/-- Looks for the next run. The character that ends the run is taken with it, and a run of edge marks
    alone is passed over without a number. -/
def addressStep (scan : Scan) : StreamStep Scan :=
  match scan.rest.dropWhile (!Text.isAddressChar ·) with
  | [] => .done
  | c :: cs =>
    let word := Text.dropAround Text.isEdgeMark (c :: cs.takeWhile Text.isAddressChar)
    let after := (cs.dropWhile Text.isAddressChar).tail
    if word.isEmpty then .pass ⟨after, scan.given⟩
    else .give ⟨String.ofList word, scan.given + 1⟩ ⟨after, scan.given + 1⟩

def addresses (text : String) : TokenStream := ⟨Scan, ⟨text.toList, 0⟩, addressStep⟩

def wordStep : List String × Nat → StreamStep (List String × Nat)
  | ([], _) => .done
  | (word :: rest, given) => .give ⟨word, given + 1⟩ (rest, given + 1)

def words (text : String) : TokenStream := ⟨List String × Nat, (Text.words text, 0), wordStep⟩

def wholeStep : Option Token → StreamStep (Option Token)
  | none => .done
  | some t => .give t none

/-- The whole text is put in lower case before it becomes a token, so that no filter has to. -/
def wholeToken (text : String) : Option Token :=
  let trimmed := Text.trim text
  if trimmed.isEmpty then none else some ⟨Text.lower trimmed, 1⟩

def whole (text : String) : TokenStream := ⟨Option Token, wholeToken text, wholeStep⟩

/-! ## Filters -/

def lower (stream : TokenStream) : TokenStream where
  Place := stream.Place
  start := stream.start
  step place := match stream.step place with
    | .give t next => .give t.lower next
    | .pass next => .pass next
    | .done => .done

def withoutStopWords (stream : TokenStream) : TokenStream where
  Place := stream.Place
  start := stream.start
  step place := match stream.step place with
    | .give t next => if isStopWord t.term then .pass next else .give t next
    | .pass next => .pass next
    | .done => .done

/-! ## Fields -/

def ofText (field : TextField) (text : String) (keepStopWords : Bool) : TokenStream :=
  match field.analysis with
  | .addresses => (addresses text).lower
  | .whole => whole text
  | .words => if keepStopWords then (words text).lower else (words text).lower.withoutStopWords

end TokenStream

end Sift
