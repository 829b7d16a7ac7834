/-
  Sift.Proofs.Document.Spelling — which documents say which searches.

  A search can be put in more than one way: its words in either case, its signs as words or as marks,
  the keys of a question in either order. `Says` lists the ways, clause by clause. What may stand under
  the field of a question is a parameter, so that reading and writing are both instances.

  - `SaysSearch.readSearch` / `exists_saysSearch_of_readSearch`: a document is read as the nodes of
    the questions that it says, and nothing else is read.
  - `isLooseBody_of_readQuestion`: under a field stands what is documented, or an object that leaves
    the sign out.
  - `says_document`: a written clause says what was written.
-/

import Sift.Document.Written
import Sift.Proofs.Document.Value
import Sift.Proofs.Outcome

namespace Sift

/-! ## Leaves -/

namespace Clause

variable {α β : Type}

mutual

theorem toList_map (f : α → β) : (clause : Clause α) → (clause.map f).toList = clause.toList.map f
  | leaf _ => rfl
  | group _ clauses => toListOf_mapEach f clauses
  | conjunction _ => rfl

theorem toListOf_mapEach (f : α → β) : (clauses : List (Clause α)) →
    toListOf (mapEach f clauses) = (toListOf clauses).map f
  | [] => rfl
  | clause :: rest => by
    rw [mapEach, toListOf, toListOf, List.map_append, toList_map f clause, toListOf_mapEach f rest]

end

end Clause

/-! ## Words -/

/-- The words and marks for a sign. -/
def Modifier.spellings : Modifier → List String
  | plain => ["none"]
  | require => ["require", "+"]
  | exclude => ["exclude", "-"]

theorem Modifier.word_mem_spellings (modifier : Modifier) : modifier.word ∈ modifier.spellings := by
  cases modifier <;> decide

namespace Document

theorem modifierOf_eq_ok_iff {word : String} {modifier : Modifier} :
    modifierOf word = .ok modifier ↔ word ∈ modifier.spellings := by
  constructor
  · intro h
    unfold modifierOf at h
    split at h <;> cases h <;> decide
  · intro h
    cases modifier <;> simp only [Modifier.spellings, List.mem_cons, List.not_mem_nil, or_false] at h
    case plain => rw [h, modifierOf]
    all_goals rcases h with rfl | rfl <;> rfl

theorem conjunctionOf_eq_ok_iff {word : String} {c : Conjunction} :
    conjunctionOf word = .ok c ↔ Text.lower word = c.word := by
  unfold conjunctionOf
  constructor
  · intro h
    split at h <;> cases h <;> assumption
  · intro h
    rw [h]
    cases c <;> rfl

theorem groupModifier_eq_some_iff {key : String} {modifier : Modifier} :
    groupModifier key = some modifier ↔ modifier ≠ .plain ∧ key = modifier.word := by
  constructor
  · intro h
    unfold groupModifier at h
    split at h <;> cases h <;> exact ⟨by decide, rfl⟩
  · rintro ⟨hsign, rfl⟩
    cases modifier with
    | plain => exact absurd rfl hsign
    | require | exclude => rfl

/-! ## Questions -/

/-- What stands under the field of a question as documented: its value alone, or its value and its
    sign. -/
inductive IsBody : Question → JsonTree → Prop
  | bare (field value : String) : IsBody ⟨.plain, field, value⟩ (.string value)
  | signed (field value : String) {modifier : Modifier} {word : String}
      {members : List (String × JsonTree)} : word ∈ modifier.spellings →
      members = [("modifier", .string word), ("value", .string value)] ∨
        members = [("value", .string value), ("modifier", .string word)] →
      IsBody ⟨modifier, field, value⟩ (.object members)

/-- An object may also hold the value alone. -/
inductive IsLooseBody : Question → JsonTree → Prop
  | written {question : Question} {body : JsonTree} : IsBody question body →
      IsLooseBody question body
  | unsigned (field value : String) :
      IsLooseBody ⟨.plain, field, value⟩ (.object [("value", .string value)])

def IsReadable (question : Question) (body : JsonTree) : Prop :=
  readQuestion question.field body = .ok question

theorem IsBody.readable {question : Question} {body : JsonTree} (h : IsBody question body) :
    IsReadable question body := by
  cases h with
  | bare => rfl
  | signed field value hword hmembers =>
    have hmodifier := modifierOf_eq_ok_iff.2 hword
    rcases hmembers with rfl | rfl <;>
      simp [IsReadable, readQuestion, QuestionEntry.add, readModifier, readText, hmodifier, bind,
        Except.bind, pure, Except.pure, QuestionEntry.empty]

theorem IsLooseBody.readable {question : Question} {body : JsonTree} (h : IsLooseBody question body) :
    IsReadable question body := by
  cases h with
  | written h => exact h.readable
  | unsigned => rfl

/-- A member adds the value or the sign, under the key that says which. -/
theorem add_eq_ok {entry entry' : QuestionEntry} {key : String} {tree : JsonTree}
    (h : entry.add key tree = .ok entry') :
    (∃ value, (key, tree) = ("value", .string value) ∧ entry' = { entry with value := some value }) ∨
      ∃ word modifier, (key, tree) = ("modifier", .string word) ∧ word ∈ modifier.spellings ∧
        entry' = { entry with modifier := modifier } := by
  have htext : ∀ {text}, readText tree = .ok text → tree = .string text := by
    intro text htext
    cases tree with
    | string found =>
      cases htext
      rfl
    | _ => cases htext
  unfold QuestionEntry.add at h
  split at h
  · obtain ⟨value, hvalue, hk⟩ := exists_of_bind h
    cases hk
    exact .inl ⟨value, by rw [htext hvalue], rfl⟩
  · obtain ⟨modifier, hmodifier, hk⟩ := exists_of_bind h
    cases hk
    obtain ⟨word, hword, hspelled⟩ := exists_of_bind hmodifier
    exact .inr ⟨word, modifier, by rw [htext hword], modifierOf_eq_ok_iff.1 hspelled, rfl⟩
  · cases h

/-- What the members say together. -/
def addMembers (entry : QuestionEntry) (members : List (String × JsonTree)) :
    Except SearchFault QuestionEntry :=
  members.foldlM (fun entry (key, tree) => entry.add key tree) entry

theorem key_of_addMembers {entry entry' : QuestionEntry} {members : List (String × JsonTree)}
    (h : addMembers entry members = .ok entry') :
    ∀ key ∈ members.map (·.1), key ∈ ["value", "modifier"] := by
  induction members generalizing entry with
  | nil => simp
  | cons member rest ih =>
    obtain ⟨key, tree⟩ := member
    obtain ⟨next, hnext, hrest⟩ := exists_of_bind h
    rw [List.map_cons, List.forall_mem_cons]
    refine ⟨?_, ih hrest⟩
    rcases add_eq_ok hnext with ⟨value, hm, -⟩ | ⟨word, modifier, hm, -, -⟩
    · cases hm
      exact List.mem_cons_self
    · cases hm
      exact List.mem_cons_of_mem _ List.mem_cons_self

/-- With each key at most once there are one or two members, and one of them is the value. -/
theorem isLooseBody_of_members {field : String} {members : List (String × JsonTree)}
    {entry : QuestionEntry} {value : String} (hkeys : (members.map (·.1)).Nodup)
    (h : addMembers .empty members = .ok entry) (hvalue : entry.value = some value) :
    IsLooseBody ⟨entry.modifier, field, value⟩ (.object members) := by
  have hfew : members.length ≤ 2 := by simpa using hkeys.length_le_of_subset (key_of_addMembers h)
  rcases members with _ | ⟨⟨key, tree⟩, members⟩
  · cases h
    cases hvalue
  obtain ⟨one, hone, h⟩ := exists_of_bind h
  rcases members with _ | ⟨⟨key', tree'⟩, members⟩
  · cases h
    rcases add_eq_ok hone with ⟨text, hm, rfl⟩ | ⟨word, modifier, hm, hword, rfl⟩
    · cases hm
      cases hvalue
      exact .unsigned field value
    · cases hvalue
  obtain ⟨two, htwo, h⟩ := exists_of_bind h
  obtain rfl : members = [] := by
    simp only [List.length_cons] at hfew
    exact List.length_eq_zero_iff.1 (by omega)
  cases h
  have hne : key ≠ key' := by simpa using hkeys
  rcases add_eq_ok hone with ⟨text, hm, rfl⟩ | ⟨word, modifier, hm, hword, rfl⟩
  · rcases add_eq_ok htwo with ⟨text', hm', rfl⟩ | ⟨word', modifier', hm', hword', rfl⟩
    · cases hm
      cases hm'
      exact absurd rfl hne
    · cases hm
      cases hm'
      cases hvalue
      exact .written (.signed field value hword' (.inr rfl))
  · rcases add_eq_ok htwo with ⟨text', hm', rfl⟩ | ⟨word', modifier', hm', hword', rfl⟩
    · cases hm
      cases hm'
      cases hvalue
      exact .written (.signed field value hword (.inl rfl))
    · cases hm
      cases hm'
      exact absurd rfl hne

theorem field_of_readQuestion {field : String} {question : Question} {body : JsonTree}
    (h : readQuestion field body = .ok question) : question.field = field := by
  cases body with
  | string value =>
    cases h
    rfl
  | object members =>
    obtain ⟨entry, -, hk⟩ := exists_of_bind h
    split at hk <;> cases hk
    rfl
  | null | bool | number | array => cases h

theorem isLooseBody_of_readQuestion {field : String} {question : Question} {body : JsonTree}
    (hvalue : body.IsValue) (h : readQuestion field body = .ok question) :
    IsLooseBody question body := by
  cases body with
  | string value =>
    cases h
    exact .written (.bare field value)
  | object members =>
    obtain ⟨entry, hentry, hk⟩ := exists_of_bind h
    split at hk
    · next value hsome =>
      cases hk
      exact isLooseBody_of_members hvalue.1 hentry hsome
    · cases hk
  | null | bool | number | array => cases h

/-! ## Clauses -/

section

variable (Body : Question → JsonTree → Prop)

mutual

/-- The document says the clause, with a body for each of its questions. -/
inductive Says : JsonTree → Clause Question → Prop
  | word {word : String} {c : Conjunction} : Text.lower word = c.word →
      Says (.string word) (.conjunction c)
  | array {items : List JsonTree} {clauses : List (Clause Question)} : SaysEach items clauses →
      Says (.array items) (.group .plain clauses)
  | signed {key : String} {modifier : Modifier} {items : List JsonTree}
      {clauses : List (Clause Question)} : modifier ≠ .plain → key = modifier.word →
      SaysEach items clauses → Says (.object [(key, .array items)]) (.group modifier clauses)
  | question {field : String} {question : Question} {body : JsonTree} : question.field = field →
      Body question body → Says (.object [(field, body)]) (.leaf question)

inductive SaysEach : List JsonTree → List (Clause Question) → Prop
  | nil : SaysEach [] []
  | cons {tree : JsonTree} {clause : Clause Question} {trees : List JsonTree}
      {clauses : List (Clause Question)} : Says tree clause → SaysEach trees clauses →
      SaysEach (tree :: trees) (clause :: clauses)

end

/-- A search is a group; the group of a single clause that is an object may be left out. -/
inductive SaysSearch : JsonTree → Clause Question → Prop
  | array {items : List JsonTree} {clauses : List (Clause Question)} : SaysEach Body items clauses →
      SaysSearch (.array items) (.group .plain clauses)
  | single {members : List (String × JsonTree)} {clause : Clause Question} :
      Says Body (.object members) clause → SaysSearch (.object members) (.group .plain [clause])

end

/-- The search has the nodes of the questions in their places. -/
def Answers (searcher : Searcher) (questions : Clause Question) (search : Search) : Prop :=
  questions.map (Question.node searcher) = search.map fun node => some (.ok node)

def AnswersEach (searcher : Searcher) (questions : List (Clause Question)) (clauses : List Search) :
    Prop :=
  Clause.mapEach (Question.node searcher) questions =
    Clause.mapEach (fun node => some (.ok node)) clauses

namespace Answers

variable {searcher : Searcher} {search : Search}

theorem leaf_iff {question : Question} : Answers searcher (.leaf question) search ↔
    ∃ node, search = .leaf node ∧ question.node searcher = some (.ok node) := by
  cases search <;> simp [Answers, Clause.map]

theorem group_iff {modifier : Modifier} {questions : List (Clause Question)} :
    Answers searcher (.group modifier questions) search ↔
      ∃ clauses, search = .group modifier clauses ∧ AnswersEach searcher questions clauses := by
  constructor
  · intro h
    cases search with
    | group modifier' clauses =>
      obtain ⟨rfl, hclauses⟩ := Clause.group.inj h
      exact ⟨clauses, rfl, hclauses⟩
    | leaf | conjunction => cases h
  · rintro ⟨clauses, rfl, hclauses⟩
    exact congrArg (Clause.group modifier) hclauses

theorem conjunction_iff {c : Conjunction} :
    Answers searcher (.conjunction c) search ↔ search = .conjunction c := by
  cases search <;> simp [Answers, Clause.map, eq_comm]

end Answers

/-- Every node of the search is the answer to a question. -/
theorem Answers.exists_question {searcher : Searcher} {questions : Clause Question} {search : Search}
    (h : Answers searcher questions search) {node : Node} (hnode : node ∈ search.toList) :
    ∃ question ∈ questions.toList, question.node searcher = some (.ok node) := by
  have hmem : some (.ok node) ∈ (questions.map (Question.node searcher)).toList := by
    rw [h, Clause.toList_map]
    exact List.mem_map_of_mem hnode
  rw [Clause.toList_map] at hmem
  exact List.mem_map.1 hmem

theorem AnswersEach.nil_iff {searcher : Searcher} {clauses : List Search} :
    AnswersEach searcher [] clauses ↔ clauses = [] := by
  cases clauses <;> simp [AnswersEach, Clause.mapEach]

theorem AnswersEach.cons_iff {searcher : Searcher} {question : Clause Question}
    {questions : List (Clause Question)} {clauses : List Search} :
    AnswersEach searcher (question :: questions) clauses ↔
      ∃ clause rest, clauses = clause :: rest ∧ Answers searcher question clause ∧
        AnswersEach searcher questions rest := by
  constructor
  · intro h
    cases clauses with
    | nil => cases h
    | cons clause rest =>
      obtain ⟨hclause, hrest⟩ := List.cons.inj h
      exact ⟨clause, rest, rfl, hclause, hrest⟩
  · rintro ⟨clause, rest, rfl, hclause, hrest⟩
    exact List.cons_eq_cons.2 ⟨hclause, hrest⟩

def HasAnswer (searcher : Searcher) (question : Question) : Prop :=
  ∃ node, question.node searcher = some (.ok node)

instance (searcher : Searcher) (question : Question) : Decidable (HasAnswer searcher question) :=
  match h : question.node searcher with
  | some (.ok node) => isTrue ⟨node, h⟩
  | some (.error _) => isFalse fun ⟨_, hnode⟩ => nomatch h.symm.trans hnode
  | none => isFalse fun ⟨_, hnode⟩ => nomatch h.symm.trans hnode

mutual

theorem exists_answers {searcher : Searcher} : (questions : Clause Question) →
    (∀ question ∈ questions.toList, HasAnswer searcher question) →
    ∃ search, Answers searcher questions search
  | .leaf question, h => by
    obtain ⟨node, hnode⟩ := h question List.mem_cons_self
    exact ⟨.leaf node, Answers.leaf_iff.2 ⟨node, rfl, hnode⟩⟩
  | .group modifier questions, h => by
    obtain ⟨clauses, hclauses⟩ := exists_answersEach questions h
    exact ⟨.group modifier clauses, Answers.group_iff.2 ⟨clauses, rfl, hclauses⟩⟩
  | .conjunction c, _ => ⟨.conjunction c, rfl⟩

theorem exists_answersEach {searcher : Searcher} : (questions : List (Clause Question)) →
    (∀ question ∈ Clause.toListOf questions, HasAnswer searcher question) →
    ∃ clauses, AnswersEach searcher questions clauses
  | [], _ => ⟨[], rfl⟩
  | question :: questions, h => by
    rw [Clause.toListOf, List.forall_mem_append] at h
    obtain ⟨clause, hclause⟩ := exists_answers question h.1
    obtain ⟨rest, hrest⟩ := exists_answersEach questions h.2
    exact ⟨clause :: rest, AnswersEach.cons_iff.2 ⟨clause, rest, rfl, hclause, hrest⟩⟩

end

theorem answerQuestion_eq_ok_iff {searcher : Searcher} {question : Question} {node : Node} :
    answerQuestion searcher question = .ok node ↔ question.node searcher = some (.ok node) := by
  unfold answerQuestion
  split <;> simp_all

/-- The keys of groups are not fields. -/
theorem groupModifier_of_node {searcher : Searcher} {question : Question} {node : Node}
    (h : question.node searcher = some (.ok node)) : groupModifier question.field = none := by
  have hnot : SearchField.ofName "require" = none ∧ SearchField.ofName "exclude" = none := by
    decide +kernel
  cases hmodifier : groupModifier question.field with
  | none => rfl
  | some modifier =>
    obtain ⟨hsign, hfield⟩ := groupModifier_eq_some_iff.1 hmodifier
    rw [Question.node, Searcher.node, hfield] at h
    cases modifier with
    | plain => exact absurd rfl hsign
    | require => simp [Modifier.word, hnot.1] at h
    | exclude => simp [Modifier.word, hnot.2] at h

/-! ## Read -/

section

variable {Body : Question → JsonTree → Prop} {searcher : Searcher}

mutual

theorem Says.readClause (hbody : ∀ question body, Body question body → IsReadable question body) :
    {tree : JsonTree} → {questions : Clause Question} → Says Body tree questions →
    {search : Search} → Answers searcher questions search → readClause searcher tree = .ok search
  | _, _, .word hlower, _, hanswers => by
    rw [Document.readClause, conjunctionOf_eq_ok_iff.2 hlower, Answers.conjunction_iff.1 hanswers]
    rfl
  | _, _, .array hitems, _, hanswers => by
    obtain ⟨clauses, rfl, hclauses⟩ := Answers.group_iff.1 hanswers
    rw [Document.readClause, SaysEach.readClauses hbody hitems hclauses]
    rfl
  | _, _, .signed hsign hkey hitems, _, hanswers => by
    obtain ⟨clauses, rfl, hclauses⟩ := Answers.group_iff.1 hanswers
    simp only [Document.readClause, groupModifier_eq_some_iff.2 ⟨hsign, hkey⟩]
    rw [readGroup, SaysEach.readClauses hbody hitems hclauses]
    rfl
  | _, _, .question hfield hquestion, _, hanswers => by
    obtain ⟨node, rfl, hnode⟩ := Answers.leaf_iff.1 hanswers
    have hread := hbody _ _ hquestion
    rw [IsReadable] at hread
    subst hfield
    simp only [Document.readClause, groupModifier_of_node hnode]
    rw [hread]
    show (do return Clause.leaf (← answerQuestion searcher _)) = _
    rw [answerQuestion_eq_ok_iff.2 hnode]
    rfl

theorem SaysEach.readClauses
    (hbody : ∀ question body, Body question body → IsReadable question body) :
    {trees : List JsonTree} → {questions : List (Clause Question)} → SaysEach Body trees questions →
    {clauses : List Search} → AnswersEach searcher questions clauses →
    readClauses searcher trees = .ok clauses
  | _, _, .nil, _, hanswers => by
    rw [AnswersEach.nil_iff.1 hanswers]
    rfl
  | _, _, .cons htree htrees, _, hanswers => by
    obtain ⟨clause, rest, rfl, hclause, hrest⟩ := AnswersEach.cons_iff.1 hanswers
    rw [Document.readClauses, Says.readClause hbody htree hclause,
      SaysEach.readClauses hbody htrees hrest]
    rfl

end

mutual

/-- What is read is what the document says, with every body as it is read. -/
theorem exists_says_of_readClause : (tree : JsonTree) → {search : Search} →
    readClause searcher tree = .ok search →
    ∃ questions, Says IsReadable tree questions ∧ Answers searcher questions search
  | .string word, _, h => by
    obtain ⟨c, hc, hk⟩ := exists_of_bind h
    cases hk
    exact ⟨.conjunction c, .word (conjunctionOf_eq_ok_iff.1 hc), rfl⟩
  | .array items, _, h => by
    rw [readClause] at h
    obtain ⟨clauses, hclauses, hk⟩ := exists_of_bind h
    cases hk
    obtain ⟨questions, hsays, hanswers⟩ := exists_says_of_readClauses items hclauses
    exact ⟨.group .plain questions, .array hsays, Answers.group_iff.2 ⟨clauses, rfl, hanswers⟩⟩
  | .object [(key, tree)], _, h => by
    rw [readClause] at h
    split at h
    · next modifier hmodifier =>
      obtain ⟨hsign, hkey⟩ := groupModifier_eq_some_iff.1 hmodifier
      obtain ⟨clauses, hclauses, hk⟩ := exists_of_bind h
      cases hk
      obtain ⟨items, questions, rfl, hsays, hanswers⟩ := exists_says_of_readGroup tree hclauses
      exact ⟨.group modifier questions, .signed hsign hkey hsays,
        Answers.group_iff.2 ⟨clauses, rfl, hanswers⟩⟩
    · obtain ⟨question, hquestion, hk⟩ := exists_of_bind h
      obtain ⟨node, hnode, hk⟩ := exists_of_bind hk
      cases hk
      have hfield := field_of_readQuestion hquestion
      refine ⟨.leaf question, .question hfield ?_,
        Answers.leaf_iff.2 ⟨node, rfl, answerQuestion_eq_ok_iff.1 hnode⟩⟩
      rw [IsReadable, hfield]
      exact hquestion
  | .object [], _, h => nomatch h
  | .object (_ :: _ :: _), _, h => nomatch h
  | .null, _, h => nomatch h
  | .bool _, _, h => nomatch h
  | .number, _, h => nomatch h

theorem exists_says_of_readGroup : (tree : JsonTree) → {clauses : List Search} →
    readGroup searcher tree = .ok clauses → ∃ items questions, tree = .array items ∧
      SaysEach IsReadable items questions ∧ AnswersEach searcher questions clauses
  | .array items, _, h => by
    obtain ⟨questions, hsays, hanswers⟩ := exists_says_of_readClauses items h
    exact ⟨items, questions, rfl, hsays, hanswers⟩
  | .null, _, h => nomatch h
  | .bool _, _, h => nomatch h
  | .number, _, h => nomatch h
  | .string _, _, h => nomatch h
  | .object _, _, h => nomatch h

theorem exists_says_of_readClauses : (trees : List JsonTree) → {clauses : List Search} →
    readClauses searcher trees = .ok clauses →
    ∃ questions, SaysEach IsReadable trees questions ∧ AnswersEach searcher questions clauses
  | [], _, h => by
    cases h
    exact ⟨[], .nil, rfl⟩
  | tree :: trees, _, h => by
    obtain ⟨clause, hclause, hk⟩ := exists_of_bind h
    obtain ⟨clauses, hclauses, hk⟩ := exists_of_bind hk
    cases hk
    obtain ⟨question, hsays, hanswers⟩ := exists_says_of_readClause tree hclause
    obtain ⟨questions, hsayseach, hanswerseach⟩ := exists_says_of_readClauses trees hclauses
    exact ⟨question :: questions, .cons hsays hsayseach,
      AnswersEach.cons_iff.2 ⟨clause, clauses, rfl, hanswers, hanswerseach⟩⟩

end

theorem SaysSearch.readSearch
    (hbody : ∀ question body, Body question body → IsReadable question body) {tree : JsonTree}
    {questions : Clause Question} {search : Search} (h : SaysSearch Body tree questions)
    (hanswers : Answers searcher questions search) : readSearch searcher tree = .ok search := by
  cases h with
  | array hitems =>
    obtain ⟨clauses, rfl, hclauses⟩ := Answers.group_iff.1 hanswers
    rw [Document.readSearch, SaysEach.readClauses hbody hitems hclauses]
    rfl
  | single hclause =>
    obtain ⟨clauses, rfl, hclauses⟩ := Answers.group_iff.1 hanswers
    obtain ⟨clause, rest, rfl, hanswer, hrest⟩ := AnswersEach.cons_iff.1 hclauses
    rw [AnswersEach.nil_iff.1 hrest, Document.readSearch, Says.readClause hbody hclause hanswer]
    rfl

theorem exists_saysSearch_of_readSearch {tree : JsonTree} {search : Search}
    (h : readSearch searcher tree = .ok search) :
    ∃ questions, SaysSearch IsReadable tree questions ∧ Answers searcher questions search := by
  cases tree with
  | array items =>
    obtain ⟨clauses, hclauses, hk⟩ := exists_of_bind h
    cases hk
    obtain ⟨questions, hsays, hanswers⟩ := exists_says_of_readClauses items hclauses
    exact ⟨.group .plain questions, .array hsays, Answers.group_iff.2 ⟨clauses, rfl, hanswers⟩⟩
  | object members =>
    obtain ⟨clause, hclause, hk⟩ := exists_of_bind h
    cases hk
    obtain ⟨question, hsays, hanswer⟩ := exists_says_of_readClause (.object members) hclause
    refine ⟨.group .plain [question], .single hsays, Answers.group_iff.2 ⟨[clause], rfl, ?_⟩⟩
    exact AnswersEach.cons_iff.2 ⟨clause, [], rfl, hanswer, rfl⟩
  | null | bool | number | string => cases h

end

/-! ## Other bodies -/

section

variable {Body Body' : Question → JsonTree → Prop}

mutual

/-- A value has values under its fields, so what is known of these may be used. -/
theorem Says.imp
    (hbody : ∀ question body, JsonTree.IsValue body → Body question body → Body' question body) :
    {tree : JsonTree} → {questions : Clause Question} → tree.IsValue → Says Body tree questions →
    Says Body' tree questions
  | _, _, _, .word hlower => .word hlower
  | _, _, hvalue, .array hitems => .array (SaysEach.imp hbody hvalue hitems)
  | _, _, hvalue, .signed hsign hkey hitems => .signed hsign hkey (SaysEach.imp hbody hvalue.2.1 hitems)
  | _, _, hvalue, .question hfield hquestion => .question hfield (hbody _ _ hvalue.2.1 hquestion)

theorem SaysEach.imp
    (hbody : ∀ question body, JsonTree.IsValue body → Body question body → Body' question body) :
    {trees : List JsonTree} → {questions : List (Clause Question)} → JsonTree.EachIsValue trees →
    SaysEach Body trees questions → SaysEach Body' trees questions
  | _, _, _, .nil => .nil
  | _, _, hvalues, .cons hclause hclauses =>
    .cons (Says.imp hbody hvalues.1 hclause) (SaysEach.imp hbody hvalues.2 hclauses)

end

theorem SaysSearch.imp
    (hbody : ∀ question body, JsonTree.IsValue body → Body question body → Body' question body)
    {tree : JsonTree} {questions : Clause Question} (hvalue : tree.IsValue)
    (h : SaysSearch Body tree questions) : SaysSearch Body' tree questions := by
  cases h with
  | array hitems => exact .array (SaysEach.imp hbody hvalue hitems)
  | single hclause => exact .single (Says.imp hbody hvalue hclause)

end

/-! ## Written -/

theorem exists_document (question : Question) :
    ∃ body, question.document = .object [(question.field, body)] ∧ IsBody question body := by
  obtain ⟨modifier, field, value⟩ := question
  cases modifier with
  | plain => exact ⟨_, rfl, .bare field value⟩
  | require => exact ⟨_, rfl, .signed field value (Modifier.word_mem_spellings .require) (.inl rfl)⟩
  | exclude => exact ⟨_, rfl, .signed field value (Modifier.word_mem_spellings .exclude) (.inl rfl)⟩

mutual

theorem says_document : (clause : Clause Question) → Says IsBody clause.document clause
  | .leaf question => by
    obtain ⟨body, hdocument, hbody⟩ := exists_document question
    rw [Clause.document, hdocument]
    exact .question rfl hbody
  | .group .plain clauses => .array (saysEach_document clauses)
  | .group .require clauses => .signed (by decide) rfl (saysEach_document clauses)
  | .group .exclude clauses => .signed (by decide) rfl (saysEach_document clauses)
  | .conjunction c => by cases c <;> exact .word (by decide +kernel)

theorem saysEach_document : (clauses : List (Clause Question)) →
    SaysEach IsBody (Clause.documentEach clauses) clauses
  | [] => .nil
  | clause :: rest => .cons (says_document clause) (saysEach_document rest)

end

end Document

end Sift
