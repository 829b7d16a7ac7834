/-
  Sift.Proofs.Addresses — a text that is looked for in several address fields at once.

  The question over several fields and the questions over the single ones are made in different ways:
  the one keeps its text trimmed and looks for a domain when it is compiled, the others keep it as it
  was put and look for a domain when they are read. They meet again in one operation for each field
  (`addressOperation`).

  - `compileAddress_eq_ok` / `compile_fieldQuestion`: both compile to that operation.
  - `Searcher.addresses_union`: several fields can be searched for exactly the texts that each of them
    can be, and find what any of them finds; the negative form finds what all the negative forms find.

  Left out are comparisons, which only `from` has, and domains with a star, which only the question over
  several fields refuses.
-/

import Sift.Proofs.Compiled
import Sift.Proofs.Me
import Sift.Proofs.Reread.Text

namespace Sift

/-! ## One field -/

variable {field : TextField} {text : String}

/-- What becomes of a text without stars at a wrong place in one address field. -/
def addressOperation (text : String) (truth : Bool) (field : TextField) : Operation :=
  if startsDomain text then compileDomain field text truth else textOperation field text truth

theorem compileAddressField_eq_ok (h : WellStarred text) (truth : Bool) (field : TextField) :
    compileAddressField text truth field = .ok (addressOperation text truth field) := by
  rw [compileAddressField, addressOperation, compileText_of_wellStarred h]
  split
  · rfl
  · rfl

theorem compileAddress_eq_ok (h : WellStarred text) (fields : AddressFields) (truth : Bool) :
    compileAddress fields text truth =
      .ok (.anyOf truth (fields.textFields.map (addressOperation text truth))) := by
  rw [compileAddress_eq, mapM_eq_ok fun field _ => compileAddressField_eq_ok h truth field]
  rfl

/-! ## Values that address fields take as addresses -/

/-- The address fields that are searched alone or together. -/
def TextField.addressFields : List TextField := [.sender, .recipient, .cc]

/-- Words or a domain; and a domain without stars. -/
structure IsAddressText (value : String) : Prop where
  nonempty : Text.trim value ≠ ""
  /-- Otherwise `from` compares with the sender. -/
  not_compared : ∀ c ∈ (Text.trim value).toList.head?, c ≠ '<' ∧ c ≠ '>'
  domain_starless : startsDomain (Text.trim value) = true → '*' ∉ (Text.trim value).toList

/-- The question of a single field. -/
def fieldQuestion (field : TextField) (value : String) : Predicate :=
  if startsDomain (Text.trim value) then .domain field (Text.trim value) else .text field value false

namespace IsAddressText

variable {value : String}

theorem isEmpty_trim (h : IsAddressText value) : (Text.trim value).isEmpty = false :=
  String.isEmpty_eq_false_iff.2 h.nonempty

theorem startsComparison_trim (h : IsAddressText value) :
    Predicate.startsComparison (Text.trim value) = false :=
  Predicate.startsComparison_of_head h.not_compared

theorem wellStarred_of_domain (h : IsAddressText value)
    (hdomain : startsDomain (Text.trim value) = true) : WellStarred value := by
  by_contra hstars
  exact h.domain_starless hdomain (star_mem_trim hstars)

theorem ofTextField_eq (h : IsAddressText value) (hfield : field ∈ TextField.addressFields) :
    Predicate.ofTextField field value =
      if WellStarred value then .ok (fieldQuestion field value)
      else .error (.misplacedWildcard value) := by
  have haddress : field.isAddress = true := by
    revert hfield
    cases field <;> decide
  rw [Predicate.ofTextField_eq, if_neg (by simp [h.isEmpty_trim]), haddress, Bool.true_and,
    ← startsDomain, h.startsComparison_trim, fieldQuestion]
  by_cases hdomain : startsDomain (Text.trim value) = true
  · rw [if_pos hdomain, if_pos hdomain, if_pos (h.wellStarred_of_domain hdomain)]
  · rw [if_neg hdomain, if_neg hdomain, ← Predicate.ofText_eq field value false]
    -- Whether the field has a column or not, no comparison begins here.
    cases Predicate.comparedColumn field with
    | none => rfl
    | some column => rfl

theorem ofAddress_eq (h : IsAddressText value) (fields : AddressFields) :
    Predicate.ofAddress fields value =
      if WellStarred value then .ok (.address fields (Text.trim value))
      else .error (.misplacedWildcard value) := by
  rw [Predicate.ofAddress, Predicate.nonBlank_eq_ok_iff.2 ⟨rfl, h.isEmpty_trim⟩]
  by_cases hstars : WellStarred value
  · rw [if_pos hstars, splitWildcard_eq_ok_iff.2 ⟨hstars, rfl⟩]
    rfl
  · rw [if_neg hstars, splitWildcard_eq_error_iff.2 ⟨hstars, rfl⟩]
    rfl

end IsAddressText

variable {value : String} {mailbox : Mailbox} {settings : Settings}

/-- A single field is searched for what several fields are searched for in it. -/
theorem compile_fieldQuestion (hstars : WellStarred value) (hfield : field ∈ TextField.addressFields)
    (truth : Bool) :
    (fieldQuestion field value).compile mailbox settings truth =
      .ok (addressOperation (Text.trim value) truth field) := by
  have hwhole : field.analysis ≠ .words := by
    revert hfield
    cases field <;> decide
  rw [fieldQuestion, addressOperation]
  split
  · rfl
  · show compileText field value false truth = _
    rw [← compileText_trim hwhole hstars, compileText_of_wellStarred (wellStarred_trim hstars)]

/-! ## Several fields and single ones -/

/-- The searches over several address fields. -/
def SearchField.addressNames : List (String × List TextField) :=
  [("tofrom", [.sender, .recipient]), ("tocc", [.recipient, .cc]), ("fromcc", [.sender, .cc]),
    ("tofromcc", [.sender, .recipient, .cc])]

theorem SearchField.ofName_of_addressNames {name : String} {covered : List TextField}
    (h : (name, covered) ∈ addressNames) :
    ∃ fields, ofName name = some (.addresses fields) ∧ fields.textFields = covered := by
  simp only [addressNames, List.mem_cons, Prod.mk.injEq, List.not_mem_nil, or_false] at h
  rcases h with ⟨rfl, rfl⟩ | ⟨rfl, rfl⟩ | ⟨rfl, rfl⟩ | ⟨rfl, rfl⟩
  · exact ⟨⟨true, true, false⟩, by decide +kernel, rfl⟩
  · exact ⟨⟨false, true, true⟩, by decide +kernel, rfl⟩
  · exact ⟨⟨true, false, true⟩, by decide +kernel, rfl⟩
  · exact ⟨⟨true, true, true⟩, by decide +kernel, rfl⟩

theorem SearchField.ofName_of_addressFields (h : field ∈ TextField.addressFields) :
    ofName field.searchName = some (.text field) := by
  simp only [TextField.addressFields, List.mem_cons, List.not_mem_nil, or_false] at h
  rcases h with rfl | rfl | rfl <;> decide +kernel

theorem AddressFields.textFields_subset (fields : AddressFields) :
    fields.textFields ⊆ TextField.addressFields := by
  rcases fields with ⟨_ | _, _ | _, _ | _⟩ <;> decide

/-- A search over several fields is the union of the searches over the single ones. -/
structure Searcher.IsUnion (searcher : Searcher) (name : String) (covered : List TextField)
    (value : String) : Prop where
  builds : ∀ field ∈ TextField.addressFields,
    (∃ node, searcher.node name value = some (.ok node)) ↔
      ∃ node, searcher.node field.searchName value = some (.ok node)
  refused : ∀ field ∈ TextField.addressFields, ∀ fault,
    searcher.node name value = some (.error fault) ↔
      searcher.node field.searchName value = some (.error fault)
  selects : (∃ node, searcher.node name value = some (.ok node)) →
    ∃ (several : Bool → Operation) (single : TextField → Bool → Operation),
      searcher.Compiles name value several ∧
      (∀ field ∈ covered, searcher.Compiles field.searchName value (single field)) ∧
      ∀ item : ItemFacts,
        ((several true).selects item = true ↔
          ∃ field ∈ covered, (single field true).selects item = true) ∧
        ((several false).selects item = true ↔
          ∀ field ∈ covered, (single field false).selects item = true)

namespace IsAddressText

variable {name : String} {fields : AddressFields} {searcher : Searcher}

theorem node_several (h : IsAddressText value)
    (hname : SearchField.ofName name = some (.addresses fields)) :
    searcher.node name value = some (if WellStarred value then
        .ok (.ofPredicate (.address fields (Text.trim value)))
      else .error (.misplacedWildcard value)) := by
  rw [Searcher.node, hname, Option.map_some, SearchField.read, h.ofAddress_eq]
  split
  · rfl
  · rfl

theorem node_single (h : IsAddressText value) (hfield : field ∈ TextField.addressFields) :
    searcher.node field.searchName value = some (if WellStarred value then
        .ok (.ofPredicate (fieldQuestion field value))
      else .error (.misplacedWildcard value)) := by
  rw [Searcher.node, SearchField.ofName_of_addressFields hfield, Option.map_some, SearchField.read,
    h.ofTextField_eq hfield]
  split
  · rfl
  · rfl

theorem compiles_several (h : IsAddressText value) (hstars : WellStarred value)
    (hname : SearchField.ofName name = some (.addresses fields)) :
    searcher.Compiles name value fun truth =>
      .anyOf truth (fields.textFields.map (addressOperation (Text.trim value) truth)) := by
  apply Searcher.compiles_of_read (p := .address fields (Text.trim value)) hname
  · rw [SearchField.read, h.ofAddress_eq, if_pos hstars]
    rfl
  · intro _ _ truth
    exact compileAddress_eq_ok (wellStarred_trim hstars) fields truth

theorem compiles_single (h : IsAddressText value) (hstars : WellStarred value)
    (hfield : field ∈ TextField.addressFields) :
    searcher.Compiles field.searchName value fun truth =>
      addressOperation (Text.trim value) truth field := by
  apply Searcher.compiles_of_read (SearchField.ofName_of_addressFields hfield)
  · rw [SearchField.read, h.ofTextField_eq hfield, if_pos hstars]
    rfl
  · intro _ _ truth
    exact compile_fieldQuestion hstars hfield truth

end IsAddressText

/-- Whatever words the text has, if any, whatever star at its end and whatever blanks around it. -/
theorem Searcher.addresses_union (searcher : Searcher) {name : String} {covered : List TextField}
    (hname : (name, covered) ∈ SearchField.addressNames) {value : String}
    (hvalue : IsAddressText value) : searcher.IsUnion name covered value := by
  obtain ⟨fields, hof, rfl⟩ := SearchField.ofName_of_addressNames hname
  by_cases hstars : WellStarred value
  · have hseveral : searcher.node name value =
        some (.ok (.ofPredicate (.address fields (Text.trim value)))) := by
      rw [hvalue.node_several hof, if_pos hstars]
    constructor
    case builds =>
      intro field hfield
      rw [hseveral, hvalue.node_single hfield, if_pos hstars]
      exact iff_of_true ⟨_, rfl⟩ ⟨_, rfl⟩
    case refused =>
      intro field hfield fault
      rw [hseveral, hvalue.node_single hfield, if_pos hstars]
      simp
    case selects =>
      intro _
      refine ⟨_, fun field truth => addressOperation (Text.trim value) truth field,
        hvalue.compiles_several hstars hof, ?_, ?_⟩
      · intro field hcovered
        exact hvalue.compiles_single hstars (fields.textFields_subset hcovered)
      · intro item
        simp [Operation.anyOf, Operation.selects]
  · have hseveral : searcher.node name value = some (.error (.misplacedWildcard value)) := by
      rw [hvalue.node_several hof, if_neg hstars]
    constructor
    case builds =>
      intro field hfield
      rw [hseveral, hvalue.node_single hfield, if_neg hstars]
    case refused =>
      intro field hfield fault
      rw [hseveral, hvalue.node_single hfield, if_neg hstars]
    case selects =>
      intro hbuilt
      obtain ⟨node, hnode⟩ := hbuilt
      rw [hseveral] at hnode
      cases hnode

/-- Only a star, and blanks around it: there is no word to look for in either field. -/
theorem lone_star_union :
    let searcher : Searcher := ⟨⟨List.replicate 32 0, rfl⟩, .standard ⟨0, 0⟩⟩
    ("tofrom", [TextField.sender, .recipient]) ∈ SearchField.addressNames ∧ IsAddressText " * " ∧
      searcher.node "tofrom" " * " = some (.ok (.ofPredicate (.address ⟨true, true, false⟩ "*"))) ∧
      searcher.node "from" " * " = some (.ok (.ofPredicate (.text .sender " * " false))) ∧
      searcher.IsUnion "tofrom" [.sender, .recipient] " * " := by
  intro searcher
  have hname : ("tofrom", [TextField.sender, .recipient]) ∈ SearchField.addressNames := by decide
  have htrim : Text.trim " * " = "*" := by decide +kernel
  have hvalue : IsAddressText " * " := by
    constructor
    case nonempty => simp [htrim]
    case not_compared => simp [htrim]
    case domain_starless => simp [htrim, startsDomain]
  exact ⟨hname, hvalue, by decide +kernel, by decide +kernel, searcher.addresses_union hname hvalue⟩

end Sift
