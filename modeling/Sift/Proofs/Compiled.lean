/-
  Sift.Proofs.Compiled — what texts compile to, and what searches compile to whatever the mailbox.

  - `compileText_eq_ok`: a text whose stars are at its end compiles, by its words.
  - `compileText_trim`: the blanks around it change nothing in a field that is not cut at the boundaries
    of words, whatever stars and however few words it has.
  - `compileText_eq_term_iff`: a field of whole values is searched for one term.
  - `Searcher.compiles_of_read`: only questions about folders, tags and the account itself look into the
    mailbox; the others compile to what their predicate does.
-/

import Sift.Proofs.Tokens
import Sift.Proofs.Wildcard
import Sift.SearchField

namespace Sift

/-! ## Texts -/

namespace PhraseShape

variable {field : TextField} {body other : String}

/-- A word that is only begun is not asked for as a term. -/
theorem operation_ofStem_ne (field other : TextField) (body word : String) (truth : Bool) :
    (ofStem field body).operation field truth ≠ .index other (.term word) truth := by
  intro h
  unfold ofStem at h
  split at h <;> cases h

theorem ofWords_of_singleton {t : Token} (h : tokens field body = [t]) :
    ofWords field body = .term t.term := by
  rw [ofWords, h]

theorem ofWords_congr (h : tokens field body = tokens field other) :
    ofWords field body = ofWords field other := by
  rw [ofWords, ofWords, h]

theorem ofStem_congr (h : tokens field body = tokens field other)
    (hall : allTokens field body = allTokens field other) :
    ofStem field body = ofStem field other := by
  rw [ofStem, ofStem, h, hall]

end PhraseShape

variable {field : TextField} {text : String}

theorem compileText_eq_ok (h : WellStarred text) (field : TextField) (quick truth : Bool) :
    compileText field text quick truth =
      .ok ((if hasWildcard text || quick then
          PhraseShape.ofStem field (String.ofList (wildcardBody text))
        else PhraseShape.ofWords field (String.ofList (wildcardBody text))).operation field truth) := by
  rw [compileText, PhraseShape.ofText, splitWildcard_eq_ok_iff.2 ⟨h, rfl⟩]
  rfl

theorem tokens_wildcardBody_trim (h : field.analysis ≠ .words) (text : String) :
    tokens field (String.ofList (wildcardBody (Text.trim text))) =
      tokens field (String.ofList (wildcardBody text)) := by
  obtain ⟨lead, hlead, -, hbody⟩ := exists_lead text
  rw [← tokens_trim h, ← tokens_trim h (String.ofList (wildcardBody text)), hbody,
    Text.trim_lead hlead]

theorem compileText_trim (h : field.analysis ≠ .words) (hstars : WellStarred text) (truth : Bool) :
    compileText field (Text.trim text) false truth = compileText field text false truth := by
  have htokens := tokens_wildcardBody_trim h text
  -- No stop words are left out, so all words are the same as well.
  have hall := htokens
  rw [tokens_eq_allTokens h, tokens_eq_allTokens h] at hall
  rw [compileText_eq_ok (wellStarred_trim hstars), compileText_eq_ok hstars, hasWildcard_trim,
    PhraseShape.ofStem_congr htokens hall, PhraseShape.ofWords_congr htokens]

/-- A field of whole values is searched for one term, unless the value ends in a star. -/
theorem compileText_eq_term_iff {other : TextField} {word : String} (hwhole : field.analysis = .whole)
    (hstars : WellStarred text) (hblank : (Text.trim text).isEmpty = false) (truth : Bool) :
    .ok (.index other (.term word) truth) = compileText field text false truth ↔
      hasWildcard text = false ∧ other = field ∧ word = Text.lower (Text.trim text) := by
  rw [compileText_eq_ok hstars, Bool.or_false, Except.ok.injEq, eq_comm]
  by_cases hstar : hasWildcard text = true
  · rw [if_pos hstar, hstar]
    constructor
    · intro h
      exact absurd h (PhraseShape.operation_ofStem_ne field other _ word truth)
    · rintro ⟨h, -⟩
      cases h
  · have hplain : hasWildcard text = false := by simpa using hstar
    have htokens : tokens field (Text.trimEnd text) = [⟨Text.lower (Text.trim text), 1⟩] := by
      rw [tokens_trimEnd (by simp [hwhole]), tokens_whole hwhole hblank]
    rw [if_neg hstar, ofList_wildcardBody hplain, PhraseShape.ofWords_of_singleton htokens]
    simp [PhraseShape.operation, hplain, eq_comm]

/-! ## Searches -/

/-- The question is answered by this operation for either truth, whatever the mailbox. -/
def Searcher.Compiles (searcher : Searcher) (field value : String) (operation : Bool → Operation) :
    Prop :=
  ∃ node, searcher.node field value = some (.ok node) ∧
    ∀ mailbox settings requested,
      node.compile mailbox settings requested = .ok (operation requested)

/-- A question with no sign before it asks for what is so. -/
theorem Node.compile_ofPredicate (mailbox : Mailbox) (settings : Settings) (p : Predicate)
    (requested : Bool) :
    (Node.ofPredicate p).compile mailbox settings requested =
      p.compile mailbox settings requested := by
  rw [Node.compile, Node.effectiveTruth, Node.ofPredicate, Modifier.apply, beq_true]

theorem Searcher.compiles_of_read {searcher : Searcher} {name value : String} {field : SearchField}
    {p : Predicate} {operation : Bool → Operation} (hname : SearchField.ofName name = some field)
    (hread : field.read searcher value = .ok (.ofPredicate p))
    (hcompile : ∀ mailbox settings truth, p.compile mailbox settings truth = .ok (operation truth)) :
    searcher.Compiles name value operation := by
  refine ⟨.ofPredicate p, ?_, ?_⟩
  · rw [Searcher.node, hname, Option.map_some, hread]
  · intro mailbox settings requested
    rw [Node.compile_ofPredicate]
    exact hcompile mailbox settings requested

end Sift
