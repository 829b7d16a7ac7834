/-
  Sift.Proofs.Document.Search — searches that are put as documents: which are read, as what, and what
  is told of those that are not.

  - `faultOf_readClause`: a clause fails with the first fault of its clauses, each looked at before the
    clauses inside of it and these before the clauses that follow.
  - `readSearch_inverts`: what is written is read as it was put; what is read is what the document says in one of
    the ways of putting it; and what fails fails with its first fault (`Inverts`).
  - `unsigned_body_read`: the one way of putting a question that is read and not documented.
-/

import Sift.Proofs.Document.Spelling

namespace Sift.Document

/-! ## Faults of clauses -/

def faultOf {α : Type} : Except SearchFault α → Option SearchFault
  | .ok _ => none
  | .error fault => some fault

mutual

/-- A clause and then the clauses inside of it, from left to right. -/
def clausesIn : JsonTree → List JsonTree
  | .array items => .array items :: clausesInEach items
  | .object [(key, tree)] =>
    .object [(key, tree)] :: if (groupModifier key).isSome then clausesInGroup tree else []
  | tree => [tree]

def clausesInGroup : JsonTree → List JsonTree
  | .array items => clausesInEach items
  | _ => []

def clausesInEach : List JsonTree → List JsonTree
  | [] => []
  | tree :: rest => clausesIn tree ++ clausesInEach rest

end

/-- What is wrong with a clause itself, whatever the clauses inside of it are. -/
def ownFault (searcher : Searcher) : JsonTree → Option SearchFault
  | .string word => faultOf (conjunctionOf word)
  | .array _ => none
  | .object [(key, body)] =>
    if (groupModifier key).isSome then
      match body with
      | .array _ => none
      | _ => some .expectedArray
    else faultOf (readQuestion key body >>= answerQuestion searcher)
  | .object _ => some .expectedSingleKey
  | .null | .bool _ | .number => some .expectedObject

theorem faultOf_map {α β : Type} (x : Except SearchFault α) (f : α → β) :
    faultOf (x >>= fun a => .ok (f a)) = faultOf x := by
  cases x <;> rfl

theorem faultOf_cons {α : Type} (x : Except SearchFault α) (xs : Except SearchFault (List α)) :
    faultOf (x >>= fun a => xs >>= fun as => .ok (a :: as)) = (faultOf x).or (faultOf xs) := by
  cases x <;> cases xs <;> rfl

section

variable (searcher : Searcher)

mutual

theorem faultOf_readClause : (tree : JsonTree) →
    faultOf (readClause searcher tree) = (clausesIn tree).findSome? (ownFault searcher)
  | .string word => by
    simp only [readClause, clausesIn, List.findSome?_singleton, ownFault]
    exact faultOf_map (conjunctionOf word) Clause.conjunction
  | .array items => by
    simp only [readClause, clausesIn, List.findSome?_cons, ownFault]
    rw [← faultOf_readClauses items]
    exact faultOf_map (readClauses searcher items) (Clause.group .plain)
  | .object [(key, tree)] => by
    cases hmodifier : groupModifier key with
    | some modifier =>
      simp only [readClause, hmodifier]
      rw [← faultOf_readGroup tree hmodifier]
      exact faultOf_map (readGroup searcher tree) (Clause.group modifier)
    | none =>
      simp only [readClause, clausesIn, ownFault, hmodifier, Option.isSome_none, Bool.false_eq_true,
        if_false, List.findSome?_singleton]
      rw [← faultOf_map (readQuestion key tree >>= answerQuestion searcher) Clause.leaf]
      exact congrArg faultOf (bind_assoc _ _ _).symm
  | .object [] => by simp [readClause, faultOf, clausesIn, ownFault]
  | .object (_ :: _ :: _) => by simp [readClause, faultOf, clausesIn, ownFault]
  | .null => by simp [readClause, faultOf, clausesIn, ownFault]
  | .bool _ => by simp [readClause, faultOf, clausesIn, ownFault]
  | .number => by simp [readClause, faultOf, clausesIn, ownFault]

/-- A group under a key is no array, or fails as its clauses do. -/
theorem faultOf_readGroup : (tree : JsonTree) → {key : String} → {modifier : Modifier} →
    groupModifier key = some modifier →
    faultOf (readGroup searcher tree) =
      (clausesIn (.object [(key, tree)])).findSome? (ownFault searcher)
  | .array items, key, _, h => by
    rw [readGroup, faultOf_readClauses items]
    simp [clausesIn, clausesInGroup, ownFault, h]
  | .null, _, _, h => by simp [readGroup, faultOf, clausesIn, ownFault, h]
  | .bool _, _, _, h => by simp [readGroup, faultOf, clausesIn, ownFault, h]
  | .number, _, _, h => by simp [readGroup, faultOf, clausesIn, ownFault, h]
  | .string _, _, _, h => by simp [readGroup, faultOf, clausesIn, ownFault, h]
  | .object _, _, _, h => by simp [readGroup, faultOf, clausesIn, ownFault, h]

theorem faultOf_readClauses : (trees : List JsonTree) →
    faultOf (readClauses searcher trees) = (clausesInEach trees).findSome? (ownFault searcher)
  | [] => rfl
  | tree :: rest => by
    rw [clausesInEach, List.findSome?_append, ← faultOf_readClause tree,
      ← faultOf_readClauses rest, readClauses]
    exact faultOf_cons (readClause searcher tree) (readClauses searcher rest)

end

end

/-! ## Whole documents -/

/-- The clauses of a search, if the document can be one. -/
def searchClauses : JsonTree → Option (List JsonTree)
  | .array items => some (clausesInEach items)
  | .object members => some (clausesIn (.object members))
  | _ => none

theorem faultOf_readSearch (searcher : Searcher) (tree : JsonTree) :
    faultOf (readSearch searcher tree) =
      match searchClauses tree with
      | some clauses => clauses.findSome? (ownFault searcher)
      | none => some .expectedArray := by
  cases tree with
  | array items =>
    simp only [searchClauses]
    rw [← faultOf_readClauses searcher items]
    exact faultOf_map (readClauses searcher items) (Clause.group .plain)
  | object members =>
    simp only [searchClauses]
    rw [← faultOf_readClause searcher (.object members)]
    exact faultOf_map (readClause searcher (.object members)) fun clause => Clause.group .plain [clause]
  | null | bool | number | string => rfl

/-- The document cannot be a search, or the fault is that of its first faulty clause. -/
def FirstFault (searcher : Searcher) (tree : JsonTree) (fault : SearchFault) : Prop :=
  searchClauses tree = none ∧ fault = .expectedArray ∨
    ∃ before clause after, searchClauses tree = some (before ++ clause :: after) ∧
      (∀ earlier ∈ before, ownFault searcher earlier = none) ∧
        ownFault searcher clause = some fault

theorem readSearch_eq_error_iff {searcher : Searcher} {tree : JsonTree} {fault : SearchFault} :
    readSearch searcher tree = .error fault ↔ FirstFault searcher tree fault := by
  have hfault : readSearch searcher tree = .error fault ↔
      faultOf (readSearch searcher tree) = some fault := by
    cases readSearch searcher tree <;> simp [faultOf]
  rw [hfault, faultOf_readSearch, FirstFault]
  cases searchClauses tree with
  | none => simp [eq_comm]
  | some clauses =>
    simp only [List.findSome?_eq_some_iff, reduceCtorEq, false_and, false_or, Option.some_inj]
    constructor
    · rintro ⟨before, clause, after, hclauses, hclause, hbefore⟩
      exact ⟨before, clause, after, hclauses, hbefore, hclause⟩
    · rintro ⟨before, clause, after, hclauses, hbefore, hclause⟩
      exact ⟨before, clause, after, hclauses, hclause, hbefore⟩

/-! ## Reading and writing -/

/-- How documents and searches correspond. -/
structure Inverts (searcher : Searcher) : Prop where
  /-- What is written is read again, if all its questions have answers: the same groups, words and signs
      in the same places, with the node of each question in its place. -/
  written : ∀ questions, (∀ question ∈ Clause.toListOf questions, HasAnswer searcher question) →
    ∃ search, Answers searcher (.group .plain questions) search ∧
      readSearch searcher (Clause.document (.group .plain questions)) = .ok search
  /-- What is read has been said in one of the ways of putting a search. -/
  said : ∀ tree search, JsonTree.IsValue tree → (readSearch searcher tree = .ok search ↔
    ∃ questions, SaysSearch IsLooseBody tree questions ∧ Answers searcher questions search)
  refused : ∀ tree fault, readSearch searcher tree = .error fault ↔ FirstFault searcher tree fault

theorem readSearch_inverts (searcher : Searcher) : Inverts searcher := by
  constructor
  case written =>
    intro questions hquestions
    obtain ⟨search, hanswers⟩ := exists_answers (.group .plain questions) hquestions
    have hsays : SaysSearch IsBody (Clause.document (.group .plain questions)) (.group .plain questions) :=
      .array (saysEach_document questions)
    exact ⟨search, hanswers, hsays.readSearch (fun _ _ => IsBody.readable) hanswers⟩
  case said =>
    intro tree search hvalue
    constructor
    · intro h
      obtain ⟨questions, hsays, hanswers⟩ := exists_saysSearch_of_readSearch h
      refine ⟨questions, hsays.imp ?_ hvalue, hanswers⟩
      intro question body hbody hread
      exact isLooseBody_of_readQuestion hbody hread
    · rintro ⟨questions, hsays, hanswers⟩
      exact hsays.readSearch (fun _ _ => IsLooseBody.readable) hanswers
  case refused =>
    intro tree fault
    exact readSearch_eq_error_iff

/-- A group inside of a search, and a question with a sign inside of that. -/
theorem nested_search_inverted :
    let searcher : Searcher := ⟨⟨List.replicate 32 0, rfl⟩, .standard ⟨0, 0⟩⟩
    let questions : List (Clause Question) := [.leaf ⟨.plain, "from", "bob"⟩, .conjunction .and,
      .group .exclude [.leaf ⟨.plain, "is", "unread"⟩, .conjunction .or,
        .leaf ⟨.exclude, "in", "Inbox/Work"⟩]]
    (∀ question ∈ Clause.toListOf questions, HasAnswer searcher question) ∧
      ∃ search, Answers searcher (.group .plain questions) search ∧
        readSearch searcher (Clause.document (.group .plain questions)) = .ok search := by
  intro searcher questions
  have hanswer : ∀ question ∈ Clause.toListOf questions, HasAnswer searcher question := by
    decide +kernel
  exact ⟨hanswer, (readSearch_inverts searcher).written questions hanswer⟩

/-- A question whose object has no sign is read as one without a sign. No way of putting a search that
    is documented puts a question so. -/
theorem unsigned_body_read :
    let searcher : Searcher := ⟨⟨List.replicate 32 0, rfl⟩, .standard ⟨0, 0⟩⟩
    let tree := JsonTree.array [.object [("from", .object [("value", .string "bob")])]]
    let search : Search := .group .plain [.leaf (.ofPredicate (.text .sender "bob" false))]
    tree.IsValue ∧ readSearch searcher tree = .ok search ∧
      ¬ ∃ questions, SaysSearch IsBody tree questions := by
  intro searcher tree search
  refine ⟨by simp [tree, JsonTree.IsValue, JsonTree.EachIsValue, JsonTree.MembersAreValues], rfl, ?_⟩
  rintro ⟨questions, hsays⟩
  simp only [tree] at hsays
  cases hsays with
  | array hitems =>
    cases hitems with
    | cons hclause hrest =>
      cases hclause with
      | question hfield hbody =>
        cases hbody with
        | signed field value hword hmembers => simp at hmembers

end Sift.Document
