/-
  Sift.Proofs.Star — what becomes of the stars in the value of a text search.

  A star says that a word is only begun, so it may stand at the end of a value and nowhere else. Each
  way from a value to the terms of the index (`TextQuestion`) decides on its own whether it looks for
  misplaced stars.

  - `starless_compileText`: whatever a text is compiled to, its terms have no stars.
  - `SearchField.misplaced_of_read`: a misplaced star is refused, unless the value is a comparison or
    a domain.
  - `Searcher.stars_of_text`: the two, for every field that takes a text (`Searcher.StarsAtEnd`). The
    terms of a domain keep the stars of the value.
  - `domain_keeps_star`: a domain that is accepted with a star in the middle, and searched with it.
-/

import Sift.Operation.Leaves
import Sift.Proofs.CompileFault
import Sift.Proofs.Text.Lower
import Sift.Proofs.Tokens

namespace Sift

/-! ## Terms without stars -/

/-- No term that the operation looks for has a star in it. -/
def Operation.Starless (operation : Operation) : Prop :=
  ∀ term ∈ operation.terms, '*' ∉ term.toList

/-- What all terms of the alternatives have in common. -/
theorem Operation.forall_terms_anyOf {truth : Bool} {operations : List Operation} {P : String → Prop}
    (h : ∀ operation ∈ operations, ∀ term ∈ operation.terms, P term) :
    ∀ term ∈ (anyOf truth operations).terms, P term := by
  rw [terms_anyOf, List.forall_mem_flatMap]
  exact h

/-- Nothing becomes a star in lower case, and a star stays one. -/
theorem star_mem_lower_iff {s : String} : '*' ∈ (Text.lower s).toList ↔ '*' ∈ s.toList := by
  have hlow : Text.Lowered '*' := ⟨by decide, by decide +kernel⟩
  have hfresh : '*'.toNat ∉ Text.substitutes.flatten := by
    rw [← Text.testBit_groupBits]
    decide +kernel
  exact Text.mem_lower_iff hlow hfresh

namespace PhraseShape

variable {field : TextField} {body term : String} {truth : Bool}

theorem exists_token_of_ofWords (h : term ∈ ((ofWords field body).operation field truth).terms) :
    ∃ t ∈ allTokens field body, t.term = term := by
  have htokens : ∃ t ∈ tokens field body, t.term = term := by
    unfold ofWords at h
    split at h
    · cases h
    · next t ht => simpa [operation, IndexQuery.terms, ht, eq_comm] using h
    · next t ts _ ht =>
      simp only [operation, Operation.terms_index, IndexQuery.terms, termsFrom, List.map_map,
        List.mem_map] at h
      rw [ht]
      exact h
  obtain ⟨t, ht, hterm⟩ := htokens
  exact ⟨t, (tokens_sublist field body).subset ht, hterm⟩

theorem exists_token_of_ofStem (h : term ∈ ((ofStem field body).operation field truth).terms) :
    ∃ t ∈ allTokens field body, t.term = term := by
  unfold ofStem at h
  split at h
  · cases h
  · next last hlast =>
    simp only [operation, Operation.terms_index, IndexQuery.terms, termsFrom, List.map_map,
      List.mem_append, List.mem_map, List.mem_singleton] at h
    rcases h with ⟨t, ht, hterm⟩ | hterm
    · exact ⟨t, (tokens_sublist field body).subset (List.mem_of_mem_filter ht), hterm⟩
    · exact ⟨last, List.mem_of_getLast? hlast, hterm.symm⟩

end PhraseShape

/-- The terms are words of the text without the stars at its end, and no other star is let through. -/
theorem starless_compileText {field : TextField} {text : String} {quick truth : Bool}
    {operation : Operation} (h : compileText field text quick truth = .ok operation) :
    operation.Starless := by
  obtain ⟨shape, hshape, hk⟩ := exists_of_bind h
  cases hk
  obtain ⟨split, hsplit, hk⟩ := exists_of_bind hshape
  cases hk
  obtain ⟨hbody, rfl⟩ := splitWildcard_eq_ok_iff.1 hsplit
  intro term hterm hstar
  have htoken : ∃ t ∈ allTokens field (String.ofList (wildcardBody text)), t.term = term := by
    split at hterm
    · exact PhraseShape.exists_token_of_ofStem hterm
    · exact PhraseShape.exists_token_of_ofWords hterm
  obtain ⟨t, ht, rfl⟩ := htoken
  obtain ⟨word, hword, hlower⟩ := exists_word_of_mem ht
  rw [hlower, star_mem_lower_iff] at hstar
  have := Analysis.mem_of_mem_split hword hstar
  rw [String.toList_ofList] at this
  exact hbody this

/-- A domain is one term, with the stars that it was put with. -/
theorem star_of_compileDomain {field : TextField} {domain term : String} {truth : Bool}
    (h : term ∈ (compileDomain field domain truth).terms) :
    '*' ∈ term.toList ↔ '*' ∈ domain.toList := by
  rw [compileDomain, Operation.terms_index, IndexQuery.terms, List.mem_singleton] at h
  rw [h, star_mem_lower_iff]

/-! ## Texts, domains and comparisons -/

/-- Whether whole domains are asked for. -/
def Predicate.asksDomain : Predicate → Bool
  | .domain .. => true
  | .address _ body => startsDomain body
  | _ => false

def Predicate.isComparison : Predicate → Bool
  | .stringRange .. => true
  | _ => false

namespace TextQuestion

variable {value : String} {p : Predicate}

theorem startsDomain_of_asksDomain (h : TextQuestion value p) (hdomain : p.asksDomain = true) :
    startsDomain (Text.trim value) = true := by
  cases h with
  | text => cases hdomain
  | contact => cases hdomain
  | comparison => cases hdomain
  | address => exact hdomain
  | domain field hstarts => exact hstarts

variable {mailbox : Mailbox} {settings : Settings} {truth : Bool}

/-- What a text search asks can always be compiled: its stars have been looked at where that matters. -/
theorem compiles (h : TextQuestion value p) :
    ∃ operation, p.compile mailbox settings truth = .ok operation := by
  cases hcompile : p.compile mailbox settings truth with
  | ok operation => exact ⟨operation, rfl⟩
  | error fault =>
    exfalso
    cases h with
    | text field hstars => exact (compileText_eq_error_iff.1 hcompile).1 hstars
    | contact hstars => exact not_wellStarred_of_compileContact hcompile hstars
    | address fields hstars =>
      exact not_wellStarred_of_compileAddress hcompile (wellStarred_trim hstars)
    | domain => cases hcompile
    | comparison => cases hcompile

theorem starless (h : TextQuestion value p) (hdomain : p.asksDomain = false) {operation : Operation}
    (hcompile : p.compile mailbox settings truth = .ok operation) : operation.Starless := by
  cases h with
  | text => exact starless_compileText hcompile
  | contact =>
    obtain ⟨split, -, htext⟩ := exists_of_bind hcompile
    exact starless_compileText htext
  | address fields =>
    obtain ⟨operations, hoperations, hk⟩ := exists_of_bind hcompile
    cases hk
    refine Operation.forall_terms_anyOf (forall_of_mapM ?_ hoperations)
    intro field operation hfield
    rw [Predicate.asksDomain] at hdomain
    rw [if_neg (by simp [hdomain])] at hfield
    exact starless_compileText hfield
  | domain => cases hdomain
  | comparison column =>
    cases hcompile
    intro term hterm
    cases hterm

/-- The value is searched as it is, but for the blanks around it and for case. -/
theorem star_of_domain (h : TextQuestion value p) (hdomain : p.asksDomain = true)
    {operation : Operation} (hcompile : p.compile mailbox settings truth = .ok operation) :
    ∀ term ∈ operation.terms, '*' ∈ term.toList ↔ '*' ∈ value.toList := by
  have htrim : '*' ∈ (Text.trim value).toList ↔ '*' ∈ value.toList := by
    rw [Text.toList_trim]
    exact ⟨Text.mem_of_mem_dropAround, fun hstar => Text.mem_dropAround hstar (by decide)⟩
  rw [← htrim]
  cases h with
  | text => cases hdomain
  | contact => cases hdomain
  | comparison => cases hdomain
  | domain field =>
    cases hcompile
    exact fun term hterm => star_of_compileDomain hterm
  | address fields =>
    obtain ⟨operations, hoperations, hk⟩ := exists_of_bind hcompile
    cases hk
    refine Operation.forall_terms_anyOf (forall_of_mapM ?_ hoperations)
    intro field operation hfield
    rw [Predicate.asksDomain] at hdomain
    rw [if_pos hdomain] at hfield
    cases hfield
    exact fun term hterm => star_of_compileDomain hterm

end TextQuestion

/-! ## Misplaced stars -/

namespace Predicate

variable {value : String}

theorem trim_ne_empty (h : ¬ WellStarred value) : (Text.trim value).isEmpty = false :=
  Text.isEmpty_trim_of_mem (star_mem h) (by decide)

/-- A text that begins as a comparison is one, if more than a comparator is there. -/
theorem exists_comparison {column : StringColumn} {text : String}
    (hstarts : startsComparison text = true) (htrim : Text.trim text = text)
    (hstar : '*' ∈ text.toList) :
    ∃ comparator rest, ofStringRange column text = .ok (.stringRange column comparator rest) := by
  have hhead : text.toList.head? = some '<' ∨ text.toList.head? = some '>' := by
    unfold startsComparison at hstarts
    split at hstarts
    · next c d cs htext => simpa [htext] using hstarts
    · cases hstarts
  rw [ofStringRange, htrim]
  split
  · next rest htake => exact absurd htake (Comparator.take_ne_none hhead)
  · next comparator rest htake =>
    refine ⟨comparator, rest, if_neg ?_⟩
    intro hempty
    -- The comparator has no star, so there is one after it.
    rw [← Comparator.sign_append_take htake, String.isEmpty_iff.1 hempty, String.append_empty] at hstar
    cases comparator <;> revert hstar <;> decide

/-- A reader tells of a misplaced star, unless it takes the value for a comparison or a domain. -/
def TellsOfStar (value : String) (result : Except Fault Predicate) : Prop :=
  result = .error (.misplacedWildcard value) ∨
    ∃ p, result = .ok p ∧ (p.isComparison = true ∨ ∃ column, p = .domain column (Text.trim value))

theorem tellsOfStar_ofTextField {field : TextField} (h : ¬ WellStarred value) :
    TellsOfStar value (ofTextField field value) := by
  have htext : ofText field value false = .error (.misplacedWildcard value) := by
    rw [ofText_eq, if_neg h]
  rw [ofTextField_eq, if_neg (by simp [trim_ne_empty h])]
  by_cases hdomain : (field.isAddress && (Text.trim value).toList.head? == some '@') = true
  · rw [if_pos hdomain]
    exact .inr ⟨_, rfl, .inr ⟨field, rfl⟩⟩
  rw [if_neg hdomain]
  cases comparedColumn field with
  | none => exact .inl htext
  | some column =>
    by_cases hstarts : startsComparison (Text.trim value) = true
    · simp only [if_pos hstarts]
      obtain ⟨comparator, rest, hp⟩ := exists_comparison hstarts (Text.trim_trim value) (star_mem_trim h)
      exact .inr ⟨_, hp, .inl rfl⟩
    · simp only [if_neg hstarts]
      exact .inl htext

theorem tellsOfStar_ofContact (h : ¬ WellStarred value) :
    TellsOfStar value (ofContact value) := by
  left
  rw [ofContact, nonBlank_eq_ok_iff.2 ⟨rfl, trim_ne_empty h⟩, splitWildcard_eq_error_iff.2 ⟨h, rfl⟩]
  rfl

theorem tellsOfStar_ofAddress {fields : AddressFields} (h : ¬ WellStarred value) :
    TellsOfStar value (ofAddress fields value) := by
  left
  rw [ofAddress, nonBlank_eq_ok_iff.2 ⟨rfl, trim_ne_empty h⟩, splitWildcard_eq_error_iff.2 ⟨h, rfl⟩]
  rfl

end Predicate

/-! ## Fields -/

namespace SearchField

/-- Whether the value of the field is a text to look for. -/
def takesText : SearchField → Bool
  | standard | text _ | contact | addresses _ => true
  | _ => false

def textNames : List String :=
  ["text", "content", "subject", "from", "to", "cc", "envfrom", "envto", "msgid", "filename", "author",
    "title", "keywords", "company", "metadata", "contact", "tofrom", "tocc", "fromcc", "tofromcc"]

theorem takesText_of_textNames : ∀ name ∈ textNames, ∃ field, ofName name = some field ∧
    field.takesText = true := by
  have h : ∀ name ∈ textNames, (ofName name).any takesText = true := by decide +kernel
  intro name hname
  exact Option.any_eq_true _ _ |>.1 (h name hname)

variable {searcher : Searcher} {field : SearchField} {value : String}

theorem textQuestion_of_read {node : Node} (hfield : field.takesText = true)
    (h : field.read searcher value = .ok node) : TextQuestion value node.predicate := by
  have hof : ∀ {result : Except Fault Predicate}, result.map Node.ofPredicate = .ok node →
      (∀ p, result = .ok p → TextQuestion value p) → TextQuestion value node.predicate := by
    intro result hmap hresult
    obtain ⟨p, hp, rfl⟩ := exists_of_map hmap
    exact hresult p hp
  unfold read at h
  cases field with
  | standard => exact hof h fun p hp => .ofTextField hp
  | text field => exact hof h fun p hp => .ofTextField hp
  | contact => exact hof h fun p hp => .ofContact hp
  | addresses fields => exact hof h fun p hp => .ofAddress hp
  | _ => cases hfield

theorem misplaced_of_read (hfield : field.takesText = true) (hstars : ¬ WellStarred value) :
    field.read searcher value = .error (.misplacedWildcard value) ∨
      ∃ node, field.read searcher value = .ok node ∧
        (node.predicate.isComparison = true ∨
          ∃ column, node.predicate = .domain column (Text.trim value)) := by
  have hof : ∀ {result : Except Fault Predicate}, Predicate.TellsOfStar value result →
      result.map Node.ofPredicate = .error (.misplacedWildcard value) ∨
        ∃ node, result.map Node.ofPredicate = .ok node ∧
          (node.predicate.isComparison = true ∨
            ∃ column, node.predicate = .domain column (Text.trim value)) := by
    intro result h
    rcases h with rfl | ⟨p, rfl, hp⟩
    · exact .inl rfl
    · exact .inr ⟨.ofPredicate p, rfl, hp⟩
  unfold read
  cases field with
  | standard => exact hof (Predicate.tellsOfStar_ofTextField hstars)
  | text field => exact hof (Predicate.tellsOfStar_ofTextField hstars)
  | contact => exact hof (Predicate.tellsOfStar_ofContact hstars)
  | addresses fields => exact hof (Predicate.tellsOfStar_ofAddress hstars)
  | _ => cases hfield

end SearchField

/-! ## Text searches -/

/-- What a text search makes of the stars in its value, if it takes the value at all. -/
structure Searcher.StarsAtEnd (searcher : Searcher) (field value : String) : Prop where
  /-- The field is one. -/
  known : ∃ result, searcher.node field value = some result
  /-- A star that is not at the end is refused. A comparison has its texts from a column, where a star
      is a character as any other; a domain is not looked at. -/
  misplaced : ¬ WellStarred value →
    searcher.node field value = some (.error (.misplacedWildcard value)) ∨
      ∃ node, searcher.node field value = some (.ok node) ∧
        (node.predicate.isComparison = true ∨
          ∃ column, node.predicate = .domain column (Text.trim value))
  starless : ∀ node, searcher.node field value = some (.ok node) → node.predicate.asksDomain = false →
    ∀ mailbox settings requested, ∃ operation,
      node.compile mailbox settings requested = .ok operation ∧ operation.Starless
  /-- A domain begins with `@`, and is looked for with the stars that it was put with. -/
  domain : ∀ node, searcher.node field value = some (.ok node) → node.predicate.asksDomain = true →
    startsDomain (Text.trim value) = true ∧
      ∀ mailbox settings requested, ∃ operation,
        node.compile mailbox settings requested = .ok operation ∧
          ∀ term ∈ operation.terms, '*' ∈ term.toList ↔ '*' ∈ value.toList

theorem Searcher.stars_of_text (searcher : Searcher) {field : String}
    (hfield : field ∈ SearchField.textNames) (value : String) : searcher.StarsAtEnd field value := by
  obtain ⟨found, hname, htakes⟩ := SearchField.takesText_of_textNames field hfield
  have hnode : searcher.node field value = some (found.read searcher value) := by
    rw [Searcher.node, hname, Option.map_some]
  have hquestion : ∀ node, searcher.node field value = some (.ok node) →
      TextQuestion value node.predicate := by
    intro node h
    rw [hnode, Option.some_inj] at h
    exact SearchField.textQuestion_of_read htakes h
  constructor
  case known => exact ⟨_, hnode⟩
  case misplaced =>
    intro hstars
    simp only [hnode, Option.some_inj]
    exact SearchField.misplaced_of_read htakes hstars
  case starless =>
    intro node h hdomain mailbox settings requested
    obtain ⟨operation, hcompile⟩ := (hquestion node h).compiles
    exact ⟨operation, hcompile, (hquestion node h).starless hdomain hcompile⟩
  case domain =>
    intro node h hdomain
    refine ⟨(hquestion node h).startsDomain_of_asksDomain hdomain, ?_⟩
    intro mailbox settings requested
    obtain ⟨operation, hcompile⟩ := (hquestion node h).compiles
    exact ⟨operation, hcompile, (hquestion node h).star_of_domain hdomain hcompile⟩

/-- A name of which the end is left open: its star is in none of the terms. -/
theorem begun_name_starless :
    let searcher : Searcher := ⟨⟨List.replicate 32 0, rfl⟩, .standard ⟨0, 0⟩⟩
    let mailbox := Mailbox.new searcher.account ""
    let node : Node := .ofPredicate (.text .sender "Ann Smi* " false)
    "from" ∈ SearchField.textNames ∧ searcher.node "from" "Ann Smi* " = some (.ok node) ∧
      ∃ operation, node.compile mailbox searcher.settings true = .ok operation ∧
        operation.terms = ["ann", "smi"] ∧ operation.Starless := by
  intro searcher mailbox node
  have hfield : "from" ∈ SearchField.textNames := by decide
  have hnode : searcher.node "from" "Ann Smi* " = some (.ok node) := by decide +kernel
  have hshape : PhraseShape.ofText .sender "Ann Smi* " false =
      .ok (.stem [⟨0, "ann"⟩] ⟨1, "smi"⟩) := by decide +kernel
  obtain ⟨operation, hcompile, hstarless⟩ :=
    (searcher.stars_of_text hfield "Ann Smi* ").starless node hnode rfl mailbox searcher.settings true
  refine ⟨hfield, hnode, operation, hcompile, ?_, hstarless⟩
  have hterms : compileText .sender "Ann Smi* " false true =
      .ok (.index .sender (.stem [⟨0, "ann"⟩] ⟨1, "smi"⟩) true) := by
    rw [compileText, hshape]
    rfl
  obtain rfl : Operation.index .sender (.stem [⟨0, "ann"⟩] ⟨1, "smi"⟩) true = operation :=
    Except.ok.inj (hterms.symm.trans hcompile)
  simp [IndexQuery.terms]

/-- A star inside a domain is let through, and one at its end is not taken off: both are looked for. -/
theorem domain_keeps_star :
    let searcher : Searcher := ⟨⟨List.replicate 32 0, rfl⟩, .standard ⟨0, 0⟩⟩
    let mailbox := Mailbox.new searcher.account ""
    let inside : Node := .ofPredicate (.domain .sender "@exa*mple.com")
    let atEnd : Node := .ofPredicate (.address ⟨true, true, false⟩ "@example.com*")
    ¬ WellStarred "@exa*mple.com" ∧ searcher.node "from" "@exa*mple.com" = some (.ok inside) ∧
      inside.predicate.isComparison = false ∧
      inside.compile mailbox searcher.settings true =
        .ok (.index .sender (.term "@exa*mple.com") true) ∧
      searcher.node "tofrom" "@example.com*" = some (.ok atEnd) ∧
      atEnd.predicate.isComparison = false ∧
      atEnd.compile mailbox searcher.settings true =
        .ok (.union [.index .sender (.term "@example.com*") true,
          .index .recipient (.term "@example.com*") true]) := by
  intro searcher mailbox inside atEnd
  have hinside : Text.lower "@exa*mple.com" = "@exa*mple.com" := by decide +kernel
  have hend : Text.lower "@example.com*" = "@example.com*" := by decide +kernel
  refine ⟨by decide +kernel, by decide +kernel, rfl, ?_, by decide +kernel, rfl, ?_⟩
  · show Except.ok (compileDomain .sender "@exa*mple.com" true) = _
    rw [compileDomain, hinside]
  · show Except.ok (Operation.union [compileDomain .sender "@example.com*" true,
      compileDomain .recipient "@example.com*" true]) = _
    rw [compileDomain, compileDomain, hend]

end Sift
