/-
  Sift.Node — a question as it stands in a search: with a sign before it, and with the answer that
  is wanted.
-/

import Sift.Predicate.Compile
import Sift.Predicate.Write

namespace Sift

inductive Modifier where
  | plain
  /-- A plus sign; it changes nothing but how the question is written. -/
  | require
  /-- A minus sign. -/
  | exclude
  deriving DecidableEq, Repr

def Modifier.apply (modifier : Modifier) (truth : Bool) : Bool :=
  match modifier with
  | plain | require => truth
  | exclude => !truth

def Modifier.sign : Modifier → String
  | plain => ""
  | require => "+"
  | exclude => "-"

structure Node where
  modifier : Modifier
  /-- False where the question asks for what is not so, as in `is:read`. -/
  truth : Bool
  /-- The name of the built-in question that this is. -/
  builtin : Option String
  predicate : Predicate
  deriving DecidableEq

namespace Node

def ofPredicate (p : Predicate) : Node := ⟨.plain, true, none, p⟩

/-- The answer that the predicate must have for the node to have the requested one. -/
def effectiveTruth (node : Node) (requested : Bool) : Bool :=
  node.modifier.apply requested == node.truth

def compile (mailbox : Mailbox) (settings : Settings) (requested : Bool) (node : Node) :
    Except Fault Operation :=
  node.predicate.compile mailbox settings (node.effectiveTruth requested)

/-- The sign of the effective truth: a negative question that is excluded has none. -/
def sign (node : Node) : String :=
  if !node.effectiveTruth true then "-"
  else if node.modifier = .require then "+"
  else ""

/-- Built-in questions are written by their name and the sign they were given. -/
def write (node : Node) : String :=
  match node.builtin with
  | some name => node.modifier.sign ++ "is:" ++ name
  | none => node.sign ++ node.predicate.write

end Node

end Sift
