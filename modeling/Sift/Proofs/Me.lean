/-
  Sift.Proofs.Me — questions whether mail is from or to the searching account.

  The names of the account are texts that nobody has checked. A star that is not at the end of one
  makes the question fail, and a name without words asks for nothing.

  - `compile_me`: apart from such names, the question compiles, finds nothing in an item of which no
    tag and no word is known, and shares the items with its negative form (`Mailbox.MeCompiles`).
  - `unchecked_names`: two names of that kind, for which it does not.
-/

import Sift.Proofs.Negation
import Sift.Proofs.Outcome

namespace Sift

/-! ## Names of the account -/

def Mailbox.names (mailbox : Mailbox) : List String := mailbox.accountName :: mailbox.aliases

/-- The fields in which the names are looked for. -/
def AddressFields.receivers (fields : AddressFields) : List TextField :=
  { fields with sender := false }.textFields

/-- The operation of a text that compiles. -/
def textOperation (field : TextField) (text : String) (truth : Bool) : Operation :=
  match compileText field text false truth with
  | .ok operation => operation
  | .error _ => .unconstrained

theorem compileText_of_wellStarred {text : String} (h : WellStarred text) (field : TextField)
    (truth : Bool) : compileText field text false truth = .ok (textOperation field text truth) := by
  have hsplit := splitWildcard_eq_ok_iff.2 ⟨h, rfl⟩
  rw [textOperation, compileText, PhraseShape.ofText, hsplit]
  rfl

theorem textOperation_of_wordless {field : TextField} {text : String}
    (h : Wordless field text false) (truth : Bool) :
    textOperation field text truth = .unconstrained := by
  rw [textOperation, compileText, PhraseShape.ofText_eq_empty_iff.2 h]
  rfl

theorem textOperation_not {field : TextField} {text : String} (h : ¬ Wordless field text false)
    (hstars : WellStarred text) (truth : Bool) :
    textOperation field text (!truth) = (textOperation field text truth).dual := by
  have hnot := compileText_not h truth
  rw [compileText_of_wellStarred hstars, compileText_of_wellStarred hstars] at hnot
  exact Except.ok.inj hnot

/-! ## Items without words -/

/-- No tag of the item is known, and no word in any of its fields. -/
structure ItemFacts.IsBlank (item : ItemFacts) : Prop where
  tags : item.tags = []
  words : ∀ entry ∈ item.terms, entry.2 = []

theorem answers_nil (query : IndexQuery) : ItemFacts.answers [] query = false := by
  cases query <;> simp [ItemFacts.answers]

theorem ItemFacts.IsBlank.meetsQuery {item : ItemFacts} (h : item.IsBlank) (field : TextField)
    {query : IndexQuery} (hrange : ∀ name range, query ≠ .range name range) :
    item.meetsQuery field query = false := by
  have hanswers : (item.terms.lookup field).any (answers · query) = false := by
    cases hl : item.terms.lookup field with
    | none => rfl
    | some words =>
      obtain ⟨before, after, hsplit, -⟩ := List.lookup_eq_some_iff.1 hl
      have hwords : words = [] := h.words (field, words) (by rw [hsplit]; simp)
      rw [Option.any_some, hwords]
      exact answers_nil query
  cases query with
  | range name range => exact absurd rfl (hrange name range)
  | term word => exact hanswers
  | phrase terms => exact hanswers
  | stem leading last => exact hanswers

theorem ItemFacts.IsBlank.not_selected {item : ItemFacts} (h : item.IsBlank) {field : TextField}
    {text : String} (hwords : ¬ Wordless field text false) (hstars : WellStarred text) :
    (textOperation field text true).selects item = false := by
  rw [← PhraseShape.ofText_eq_empty_iff] at hwords
  have hcompiled := compileText_of_wellStarred hstars field true
  rw [compileText] at hcompiled
  cases hshape : PhraseShape.ofText field text false with
  | error fault => simp [hshape, bind, Except.bind] at hcompiled
  | ok shape =>
    rw [hshape] at hcompiled hwords
    rw [← Except.ok.inj hcompiled]
    cases shape with
    | empty => exact absurd rfl hwords
    | term word => simp [PhraseShape.operation, Operation.selects, h.meetsQuery]
    | phrase terms => simp [PhraseShape.operation, Operation.selects, h.meetsQuery]
    | stem leading last => simp [PhraseShape.operation, Operation.selects, h.meetsQuery]

/-! ## The alternatives -/

def Mailbox.meAlternatives (mailbox : Mailbox) (fields : AddressFields) (truth : Bool) :
    List Operation :=
  (if fields.sender then [.db (.tag Flag.sent.id) truth] else []) ++
    mailbox.names.flatMap fun name => fields.receivers.map fun field => textOperation field name truth

/-- One name in each of the fields. -/
def compileName (fields : AddressFields) (truth : Bool) (name : String) :
    Except Fault (List Operation) :=
  fields.receivers.mapM fun field => compileText field name false truth

theorem compileMe_eq (mailbox : Mailbox) (fields : AddressFields) (truth : Bool) :
    mailbox.compileMe fields truth =
      (mailbox.names.mapM (compileName fields truth)).map fun received =>
        .anyOf truth
          ((if fields.sender then [.db (.tag Flag.sent.id) truth] else []) ++ received.flatten) := rfl

theorem compileName_eq_ok {fields : AddressFields} {name : String}
    (h : fields.receivers = [] ∨ WellStarred name) (truth : Bool) :
    compileName fields truth name =
      .ok (fields.receivers.map fun field => textOperation field name truth) := by
  rcases h with h | h
  · rw [compileName, h]
    rfl
  · exact mapM_eq_ok fun field _ => compileText_of_wellStarred h field truth

theorem compileMe_eq_ok {mailbox : Mailbox} {fields : AddressFields}
    (h : fields.receivers = [] ∨ ∀ name ∈ mailbox.names, WellStarred name) (truth : Bool) :
    mailbox.compileMe fields truth = .ok (.anyOf truth (mailbox.meAlternatives fields truth)) := by
  have hname : ∀ name ∈ mailbox.names, compileName fields truth name =
      .ok (fields.receivers.map fun field => textOperation field name truth) :=
    fun name hname => compileName_eq_ok (h.imp_right fun h => h name hname) truth
  rw [compileMe_eq, mapM_eq_ok hname, Mailbox.meAlternatives, List.flatMap_def]
  rfl

/-- The first name with a misplaced star is the failure, whatever is asked. -/
theorem compileMe_eq_error {mailbox : Mailbox} {fields : AddressFields} {name : String}
    (hfields : fields.receivers ≠ [])
    (hname : mailbox.names.find? (¬ WellStarred ·) = some name) (truth : Bool) :
    mailbox.compileMe fields truth = .error (.misplacedWildcard name) := by
  obtain ⟨hstar, before, after, hsplit, hbefore⟩ := List.find?_eq_some_iff_append.1 hname
  have hok : ∀ n ∈ before, compileName fields truth n =
      .ok (fields.receivers.map fun field => textOperation field n truth) := by
    intro n hn
    have hstars : WellStarred n := by simpa using hbefore n hn
    exact compileName_eq_ok (.inr hstars) truth
  have herror : compileName fields truth name = .error (.misplacedWildcard name) := by
    have hbad : ¬ WellStarred name := by simpa using hstar
    obtain ⟨field, rest, hcons⟩ := List.exists_cons_of_ne_nil hfields
    rw [compileName, hcons, List.mapM_cons, compileText_eq_error_iff.2 ⟨hbad, rfl⟩]
    rfl
  rw [compileMe_eq, hsplit, mapM_eq_error hok herror]
  rfl

theorem meAlternatives_not {mailbox : Mailbox} {fields : AddressFields}
    (hstars : fields.receivers = [] ∨ ∀ name ∈ mailbox.names, WellStarred name)
    (hwords : ∀ name ∈ mailbox.names, ∀ field ∈ fields.receivers, ¬ Wordless field name false)
    (truth : Bool) :
    mailbox.meAlternatives fields (!truth) = (mailbox.meAlternatives fields truth).map .dual := by
  have hname : ∀ name ∈ mailbox.names,
      (fields.receivers.map fun field => textOperation field name (!truth)) =
        (fields.receivers.map fun field => textOperation field name truth).map .dual := by
    intro name hname
    rw [List.map_map]
    refine List.map_congr_left fun field hfield => ?_
    rcases hstars with hnil | hstars
    · simp [hnil] at hfield
    · exact textOperation_not (hwords name hname field hfield) (hstars name hname) truth
  unfold Mailbox.meAlternatives
  rw [List.map_append, List.map_flatMap]
  congr 1
  · split <;> rfl
  · exact List.flatMap_congr hname

theorem not_selected_of_mem {mailbox : Mailbox} {fields : AddressFields} {item : ItemFacts}
    (hblank : item.IsBlank) (hstars : fields.receivers = [] ∨ ∀ name ∈ mailbox.names, WellStarred name)
    (hwords : ∀ name ∈ mailbox.names, ∀ field ∈ fields.receivers, ¬ Wordless field name false)
    {operation : Operation} (h : operation ∈ mailbox.meAlternatives fields true) :
    operation.selects item = false := by
  rcases List.mem_append.1 h with h | h
  · split at h
    · have hsent : operation = .db (.tag Flag.sent.id) true := List.mem_singleton.1 h
      simp [hsent, Operation.selects, ItemFacts.meets, hblank.tags]
    · cases h
  · obtain ⟨name, hname, h⟩ := List.mem_flatMap.1 h
    obtain ⟨field, hfield, rfl⟩ := List.mem_map.1 h
    rcases hstars with hnil | hstars
    · simp [hnil] at hfield
    · exact hblank.not_selected (hwords name hname field hfield) (hstars name hname)

/-! ## The question -/

/-- What the question about the searching account compiles to. -/
structure Mailbox.MeCompiles (mailbox : Mailbox) (settings : Settings) (fields : AddressFields) :
    Prop where
  /-- A misplaced star fails both forms alike. -/
  misplaced : fields.receivers ≠ [] →
    ∀ name, mailbox.names.find? (¬ WellStarred ·) = some name → ∀ truth,
      (Predicate.me fields).compile mailbox settings truth = .error (.misplacedWildcard name)
  /-- Where every name has a word to look for, the two forms are duals and share the items. -/
  complementary : (fields.receivers = [] ∨ ∀ name ∈ mailbox.names, WellStarred name) →
    (∀ name ∈ mailbox.names, ∀ field ∈ fields.receivers, ¬ Wordless field name false) →
    ∃ positive, (Predicate.me fields).compile mailbox settings true = .ok positive ∧
      (Predicate.me fields).compile mailbox settings false = .ok positive.dual ∧
      (∀ item : ItemFacts, item.IsBlank → positive.selects item = false) ∧
      ∀ item, positive.dual.selects item = !positive.selects item
  /-- A name without words is found in every item. -/
  wordless : (∀ name ∈ mailbox.names, WellStarred name) →
    (∃ name ∈ mailbox.names, ∃ field ∈ fields.receivers, Wordless field name false) →
    ∃ positive negative, (Predicate.me fields).compile mailbox settings true = .ok positive ∧
      (Predicate.me fields).compile mailbox settings false = .ok negative ∧
      ∀ item, positive.selects item = true

/-- Whatever the names of the account are, and whichever fields are asked for. -/
theorem compile_me (mailbox : Mailbox) (settings : Settings) (fields : AddressFields) :
    mailbox.MeCompiles settings fields where
  misplaced hfields name hname truth := compileMe_eq_error hfields hname truth
  complementary hstars hwords := by
    refine ⟨_, compileMe_eq_ok hstars true, ?_, fun item hblank => ?_,
      fun item => Operation.selects_dual item _⟩
    · rw [Operation.dual_anyOf, ← meAlternatives_not hstars hwords]
      exact compileMe_eq_ok hstars false
    · simp only [Operation.anyOf, if_true, Operation.selects, Operation.anySelects_eq_any]
      refine List.any_eq_false.2 fun operation hmem => ?_
      rw [Bool.not_eq_true]
      exact not_selected_of_mem hblank hstars hwords hmem
  wordless hstars hname := by
    obtain ⟨name, hname, field, hfield, hwordless⟩ := hname
    refine ⟨_, _, compileMe_eq_ok (.inr hstars) true, compileMe_eq_ok (.inr hstars) false,
      fun item => ?_⟩
    have hmem : Operation.unconstrained ∈ mailbox.meAlternatives fields true := by
      rw [← textOperation_of_wordless hwordless true]
      refine List.mem_append_right _ (List.mem_flatMap.2 ⟨name, hname, ?_⟩)
      exact List.mem_map_of_mem hfield
    simp only [Operation.anyOf, if_true, Operation.selects, Operation.anySelects_eq_any]
    exact List.any_eq_true.2 ⟨_, hmem, rfl⟩

/-- Mail to or from an account with an ordinary name and another one. -/
theorem two_names_complementary :
    let account : AccountId := ⟨List.replicate 32 0, rfl⟩
    let mailbox := (Mailbox.new account "user@example.com").addAlias "Bob Smith"
    let settings := Settings.standard ⟨0, 0⟩
    let fields : AddressFields := ⟨true, true, true⟩
    (∀ name ∈ mailbox.names, WellStarred name) ∧
      (∀ name ∈ mailbox.names, ∀ field ∈ fields.receivers, ¬ Wordless field name false) ∧
      ∃ positive, (Predicate.me fields).compile mailbox settings true = .ok positive ∧
        (Predicate.me fields).compile mailbox settings false = .ok positive.dual ∧
        (∀ item : ItemFacts, item.IsBlank → positive.selects item = false) ∧
        ∀ item, positive.dual.selects item = !positive.selects item := by
  intro account mailbox settings fields
  have hstars : ∀ name ∈ mailbox.names, WellStarred name := by decide +kernel
  have hwords : ∀ name ∈ mailbox.names, ∀ field ∈ fields.receivers, ¬ Wordless field name false := by
    simp only [← PhraseShape.ofText_eq_empty_iff]
    decide +kernel
  exact ⟨hstars, hwords, (compile_me mailbox settings fields).complementary (.inr hstars) hwords⟩

/-- Mail to an account whose name has a star in the middle, and to one whose name has no word. -/
theorem unchecked_names :
    let account : AccountId := ⟨List.replicate 32 0, rfl⟩
    let starred := Mailbox.new account "a*b"
    let dotted := Mailbox.new account "..."
    let settings := Settings.standard ⟨0, 0⟩
    let question : Predicate := .me ⟨false, true, false⟩
    let item : ItemFacts := ⟨none, none, none, none, [], [], none, none, none, none, none, [], []⟩
    (∀ truth, question.compile starred settings truth = .error (.misplacedWildcard "a*b")) ∧
      item.IsBlank ∧
      ∃ positive negative, question.compile dotted settings true = .ok positive ∧
        question.compile dotted settings false = .ok negative ∧
        positive.selects item = true ∧ negative.selects item = true := by
  intro account starred dotted settings question item
  have hstar : starred.names.find? (¬ WellStarred ·) = some "a*b" := by decide +kernel
  have hdots : ∀ name ∈ dotted.names, WellStarred name := by decide +kernel
  have hwordless : Wordless .recipient "..." false :=
    PhraseShape.ofText_eq_empty_iff.1 (by decide +kernel)
  have halternatives : ∀ truth, dotted.meAlternatives ⟨false, true, false⟩ truth = [.unconstrained] := by
    intro truth
    rw [← textOperation_of_wordless hwordless truth]
    rfl
  refine ⟨compileMe_eq_error (by decide) hstar, ⟨rfl, by simp [item]⟩, _, _,
    compileMe_eq_ok (.inr hdots) true, compileMe_eq_ok (.inr hdots) false, ?_, ?_⟩
  · rw [halternatives]
    rfl
  · rw [halternatives]
    rfl

end Sift
