/-
  Sift.Proofs.Negation — asking for the opposite of a question.

  No question is wrapped in a negation: each compiles its own negative form, with the truth at the
  leaves. `Predicate.compile_not` says that the two forms fail alike or are duals of each other, and
  `Node.compile_complementary` draws the consequence for a node and both answers that can be
  requested of it: every item is selected by exactly one of its two operations.

  Left out are the questions of `Predicate.IsLopsided`, whose negative form is another one: a text
  without words asks for nothing either way, and one locality is negated by the other.
-/

import Sift.Node
import Sift.Proofs.Operation.Dual
import Sift.Proofs.Wildcard

namespace Sift

/-! ## Texts without words -/

/-- The words that a text is searched by. A last word that is only begun counts even if it is a
    stop word. -/
def searchedTokens (field : TextField) (split : WildcardSplit) (quick : Bool) : List Token :=
  if split.wildcard || quick then allTokens field split.body else tokens field split.body

/-- The analysis of the text leaves nothing to search for. -/
def Wordless (field : TextField) (text : String) (quick : Bool) : Prop :=
  ∃ split, splitWildcard text = .ok split ∧ searchedTokens field split quick = []

namespace PhraseShape

theorem ofStem_eq_empty_iff {field : TextField} {body : String} :
    ofStem field body = empty ↔ allTokens field body = [] := by
  unfold ofStem
  rw [← List.getLast?_eq_none_iff]
  split <;> simp_all

theorem ofWords_eq_empty_iff {field : TextField} {body : String} :
    ofWords field body = empty ↔ tokens field body = [] := by
  unfold ofWords
  split <;> simp_all

theorem ofText_eq_empty_iff {field : TextField} {text : String} {quick : Bool} :
    ofText field text quick = .ok empty ↔ Wordless field text quick := by
  unfold ofText Wordless searchedTokens
  cases splitWildcard text with
  | error fault => simp [bind, Except.bind]
  | ok split =>
    simp only [bind, Except.bind, pure, Except.pure, Except.ok.injEq, exists_eq_left']
    split
    · exact ofStem_eq_empty_iff
    · exact ofWords_eq_empty_iff

theorem operation_not {shape : PhraseShape} (field : TextField) (truth : Bool)
    (h : shape ≠ empty) : shape.operation field (!truth) = (shape.operation field truth).dual := by
  cases shape with
  | empty => exact absurd rfl h
  | term | phrase | stem => rfl

end PhraseShape

/-! ## Questions with two forms -/

/-- Questions whose negative form is not the dual of the positive one. -/
def Predicate.IsLopsided : Predicate → Prop
  | .text field body quick => Wordless field body quick
  | .contact body => Wordless .contact body false
  | .address fields body =>
    startsDomain body = false ∧ ∃ field ∈ fields.textFields, Wordless field body false
  | .me _ | .folder (.locality .own) _ | .folder (.locality .foreign) _ => True
  | _ => False

/-! ## Texts -/

theorem compileText_not {field : TextField} {text : String} {quick : Bool}
    (h : ¬ Wordless field text quick) (truth : Bool) :
    compileText field text quick (!truth) = (compileText field text quick truth).map Operation.dual := by
  rw [← PhraseShape.ofText_eq_empty_iff] at h
  unfold compileText
  cases hs : PhraseShape.ofText field text quick with
  | error fault => rfl
  | ok shape =>
    have hne : shape ≠ .empty := fun he => h (he ▸ hs)
    simp [bind, Except.bind, pure, Except.pure, Except.map, PhraseShape.operation_not field truth hne]

/-- Contacts keep their stop words, so a contact has words whether its last one is begun or not. -/
theorem wordless_contact {text : String} {quick : Bool} (h : Wordless .contact text quick) :
    Wordless .contact text false := by
  obtain ⟨split, hs, ht⟩ := h
  refine ⟨split, hs, ?_⟩
  unfold searchedTokens at ht ⊢
  split at ht <;> split <;> exact ht

theorem compileContact_not {text : String} (h : ¬ Wordless .contact text false) (truth : Bool) :
    compileContact text (!truth) = (compileContact text truth).map Operation.dual := by
  unfold compileContact
  cases splitWildcard text with
  | error fault => rfl
  | ok split =>
    simp only [bind, Except.bind]
    exact compileText_not (fun hw => h (wordless_contact hw)) truth

/-- Alternatives that fail alike or are duals of each other, one by one, do so as a list. -/
theorem mapM_not {α : Type} {f g : α → Except Fault Operation} {xs : List α}
    (h : ∀ x ∈ xs, f x = (g x).map Operation.dual) :
    xs.mapM f = (xs.mapM g).map (List.map Operation.dual) := by
  induction xs with
  | nil => rfl
  | cons x xs ih =>
    rw [List.mapM_cons, List.mapM_cons, h x List.mem_cons_self,
      ih fun y hy => h y (List.mem_cons_of_mem x hy)]
    cases g x with
    | error fault => rfl
    | ok operation => cases xs.mapM g <;> rfl

/-- The text of an address question, searched in one field. -/
def compileAddressField (text : String) (truth : Bool) (field : TextField) :
    Except Fault Operation :=
  if startsDomain text then .ok (compileDomain field text truth)
  else compileText field text false truth

theorem compileAddress_eq (fields : AddressFields) (text : String) (truth : Bool) :
    compileAddress fields text truth =
      (fields.textFields.mapM (compileAddressField text truth)).map (.anyOf truth) := rfl

theorem compileAddress_not {fields : AddressFields} {text : String}
    (h : startsDomain text = true ∨ ∀ field ∈ fields.textFields, ¬ Wordless field text false)
    (truth : Bool) :
    compileAddress fields text (!truth) =
      (compileAddress fields text truth).map Operation.dual := by
  have hfield : ∀ field ∈ fields.textFields, compileAddressField text (!truth) field =
      (compileAddressField text truth field).map Operation.dual := by
    intro field hf
    unfold compileAddressField
    split
    · rfl
    · next hd => exact compileText_not (h.resolve_left hd field hf) truth
  rw [compileAddress_eq, compileAddress_eq, mapM_not hfield]
  cases fields.textFields.mapM (compileAddressField text truth) with
  | error fault => rfl
  | ok operations => exact congrArg Except.ok (Operation.dual_anyOf truth operations).symm

/-! ## Structured fields -/

/-- The colon between the name and the value is a word of its own, if there is nothing else. -/
theorem not_wordless_structured (name value : String) :
    ¬ Wordless .structured (name ++ ":" ++ value) false := by
  rintro ⟨split, hs, ht⟩
  have hmem : ':' ∈ split.body.toList := mem_body hs (by simp) (by decide) (by decide)
  have hall : allTokens .structured split.body = [] := by
    unfold searchedTokens at ht
    split at ht <;> exact ht
  have htrim : ':' ∈ (Text.trim split.body).toList := by
    rw [Text.toList_trim]
    exact Text.mem_dropAround hmem (by decide)
  simp [allTokens, TextField.analysis, Analysis.split, wholeWord, numberTokens] at hall
  simp [hall] at htrim

theorem compileStructured_not (name value : String) (truth : Bool) :
    compileStructured name value (!truth) =
      (compileStructured name value truth).map Operation.dual := by
  unfold compileStructured
  cases numericRange value with
  | some range => rfl
  | none => exact compileText_not (not_wordless_structured name (Text.trim value)) truth

/-! ## Folders -/

theorem compileSubtree_not (mailbox : Mailbox) (id : FolderId) (truth : Bool) :
    mailbox.compileSubtree id (!truth) = (mailbox.compileSubtree id truth).map Operation.dual := by
  unfold Mailbox.compileSubtree
  cases mailbox.hierarchy id with
  | error fault => rfl
  | ok folders =>
    simp only [bind, Except.bind]
    cases folders.mapM mailbox.subtreeConstraint with
    | error fault => rfl
    | ok constraints =>
      refine congrArg Except.ok ?_
      rw [Operation.dual_anyOf, List.map_map]
      rfl

theorem compilePlace_not (mailbox : Mailbox) (withSubfolders : Bool) (place : Place) (truth : Bool) :
    mailbox.compilePlace withSubfolders (!truth) place =
      (mailbox.compilePlace withSubfolders truth place).map Operation.dual := by
  cases place with
  | foreign owner folder subpath => rfl
  | own folder =>
    cases withSubfolders with
    | false => rfl
    | true => exact compileSubtree_not mailbox folder.id truth

theorem compileFolder_not (mailbox : Mailbox) (limit : Nat) (withSubfolders : Bool)
    {target : FolderTarget} (h : ¬ (Predicate.folder target withSubfolders).IsLopsided)
    (truth : Bool) :
    mailbox.compileFolder limit withSubfolders (!truth) target =
      (mailbox.compileFolder limit withSubfolders truth target).map Operation.dual := by
  cases target with
  | locality l =>
    cases l with
    | anywhere | nowhere => cases truth <;> rfl
    | own | foreign => exact absurd trivial h
  | path path =>
    simp only [Mailbox.compileFolder]
    cases mailbox.placeOfPath limit path with
    | error fault => rfl
    | ok place => exact compilePlace_not mailbox withSubfolders place truth
  | id item subpath =>
    simp only [Mailbox.compileFolder]
    cases mailbox.placeOfId limit item subpath with
    | error fault => rfl
    | ok place => exact compilePlace_not mailbox withSubfolders place truth

/-! ## All questions -/

theorem ItemSet.compile_not (items : ItemSet) (truth : Bool) :
    items.compile (!truth) = (items.compile truth).dual := by
  cases items <;> cases truth <;> rfl

theorem Predicate.compile_not (mailbox : Mailbox) (settings : Settings) {p : Predicate}
    (h : ¬ p.IsLopsided) (truth : Bool) :
    p.compile mailbox settings (!truth) =
      (p.compile mailbox settings truth).map Operation.dual := by
  cases p with
  | text field body quick => exact compileText_not h truth
  | contact body => exact compileContact_not h truth
  | structured name value => exact compileStructured_not name value truth
  | address fields body =>
    refine compileAddress_not ?_ truth
    cases hd : startsDomain body with
    | true => exact .inl rfl
    | false => exact .inr fun field hf hw => h ⟨hd, field, hf, hw⟩
  | me fields => exact absurd trivial h
  | tag target =>
    simp only [Predicate.compile]
    cases mailbox.tagId target <;> rfl
  | folder target withSubfolders =>
    exact compileFolder_not mailbox settings.mountpointLimit withSubfolders h truth
  | item items => exact congrArg Except.ok (items.compile_not truth)
  | domain | term | date | size | count | stringRange | conversation => rfl

theorem Node.effectiveTruth_not (node : Node) (requested : Bool) :
    node.effectiveTruth (!requested) = !node.effectiveTruth requested := by
  unfold effectiveTruth Modifier.apply
  cases node.modifier <;> cases requested <;> cases node.truth <;> rfl

/-- Whatever its sign and its own truth, a node fails alike for both requested answers, or compiles
    to two operations that are duals of each other and share the items between them. -/
theorem Node.compile_complementary (node : Node) (h : ¬ node.predicate.IsLopsided) (mailbox : Mailbox)
    (settings : Settings) :
    (∃ fault, node.compile mailbox settings true = .error fault ∧
      node.compile mailbox settings false = .error fault) ∨
    ∃ operation, node.compile mailbox settings true = .ok operation ∧
      node.compile mailbox settings false = .ok operation.dual ∧
      ∀ item : ItemFacts, operation.dual.selects item = !operation.selects item := by
  have hnot : node.compile mailbox settings false =
      (node.compile mailbox settings true).map Operation.dual := by
    unfold Node.compile
    rw [← node.predicate.compile_not mailbox settings h, ← node.effectiveTruth_not, Bool.not_true]
  rw [hnot]
  cases node.compile mailbox settings true with
  | error fault => exact .inl ⟨fault, rfl, rfl⟩
  | ok operation =>
    exact .inr ⟨operation, rfl, rfl, fun item => Operation.selects_dual item operation⟩

theorem excluded_address_complementary :
    let node : Node := ⟨.exclude, true, none, .address ⟨true, true, false⟩ "Bob Smith"⟩
    let mailbox := Mailbox.new ⟨List.replicate 32 0, rfl⟩ "user@example.com"
    let settings := Settings.standard ⟨0, 0⟩
    ¬ node.predicate.IsLopsided ∧
    ((∃ fault, node.compile mailbox settings true = .error fault ∧
      node.compile mailbox settings false = .error fault) ∨
    ∃ operation, node.compile mailbox settings true = .ok operation ∧
      node.compile mailbox settings false = .ok operation.dual ∧
      ∀ item : ItemFacts, operation.dual.selects item = !operation.selects item) := by
  intro node mailbox settings
  have hwords : ¬ node.predicate.IsLopsided := by
    simp only [node, Predicate.IsLopsided, ← PhraseShape.ofText_eq_empty_iff]
    decide +kernel
  exact ⟨hwords, node.compile_complementary hwords mailbox settings⟩

end Sift
