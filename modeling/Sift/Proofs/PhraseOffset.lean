/-
  Sift.Proofs.PhraseOffset — the offsets of a phrase count from its first word.

  Offsets are differences of positions. `ofText32` makes the same shapes with numbers of 32 bits, where a
  difference below zero is no number and leaves the text without a shape.

  - `wellFormed_ofWords` / `wellFormed_ofStem`: the first offset is 0, the offsets ascend, and a word that
    is only begun comes after all others.
  - `ofWords32_eq` / `ofStem32_eq`: no difference is below zero, whatever the text: the words that are
    kept have the positions that they have among all words, and each phrase counts from its first word.
  - `offsets_counted`: both for every text whose stars stand at its end.
-/

import Sift.Proofs.Outcome
import Sift.Proofs.PhraseMatch

namespace Sift

/-! ## Well-formed shapes -/

/-- What the offsets of a shape say about its words. -/
def PhraseShape.WellFormed : PhraseShape → Prop
  | empty => True
  | term _ => True
  | phrase terms => 2 ≤ terms.length ∧ (∀ first ∈ terms.head?, first.offset = 0) ∧
      terms.Pairwise (·.offset < ·.offset)
  | stem leading last => (∀ first ∈ leading.head?, first.offset = 0) ∧
      leading.Pairwise (·.offset < ·.offset) ∧ (∀ t ∈ leading, t.offset < last.offset) ∧
      (leading = [] → last.offset = 0)

/-! ## Counted in 32 bits -/

/-- There is no number below zero. -/
def difference32 (a b : UInt32) : Option UInt32 := if b ≤ a then some (a - b) else none

def Token.position32 (t : Token) : UInt32 := .ofNat t.position

namespace PhraseShape

def term32 (start : UInt32) (t : Token) : Option PhraseTerm :=
  (difference32 t.position32 start).map fun offset => ⟨offset.toNat, t.term⟩

def ofStem32 (field : TextField) (body : String) : Option PhraseShape :=
  match (allTokens field body).getLast? with
  | none => some empty
  | some last => do
    let leading := (tokens field body).filter (·.position32 < last.position32)
    let start := (leading.head?.map Token.position32).getD last.position32
    let terms ← leading.mapM (term32 start)
    let stemmed ← term32 start last
    return stem terms stemmed

def ofWords32 (field : TextField) (body : String) : Option PhraseShape :=
  match tokens field body with
  | [] => some empty
  | [t] => some (term t.term)
  | t :: ts => ((t :: ts).mapM (term32 t.position32)).map phrase

/-- A text without a shape has a difference below zero in it. -/
def ofText32 (field : TextField) (text : String) (quick : Bool) :
    Except Fault (Option PhraseShape) := do
  let split ← splitWildcard text
  return if split.wildcard || quick then ofStem32 field split.body else ofWords32 field split.body

end PhraseShape

variable {field : TextField} {body : String}

/-! ## Offsets -/

theorem pairwise_termsFrom {ts : List Token} {start : Nat}
    (hp : ts.Pairwise (·.position < ·.position)) (hle : ∀ t ∈ ts, start ≤ t.position) :
    (PhraseShape.termsFrom start ts).Pairwise (·.offset < ·.offset) := by
  refine List.pairwise_map.2 (hp.imp_of_mem fun {t u} ht _ htu => ?_)
  have := hle t ht
  show t.position - start < u.position - start
  omega

/-- A phrase counts from its first word. -/
theorem head?_termsFrom {first : Token} {ts : List Token} (h : ts.head? = some first) :
    ∀ t ∈ (PhraseShape.termsFrom first.position ts).head?, t.offset = 0 := by
  intro t ht
  rw [PhraseShape.termsFrom, List.head?_map, h] at ht
  cases ht
  exact Nat.sub_self first.position

theorem wellFormed_ofWords (field : TextField) (body : String) :
    (PhraseShape.ofWords field body).WellFormed := by
  have hp := pairwise_tokens field body
  unfold PhraseShape.ofWords
  revert hp
  rcases tokens field body with _ | ⟨t, _ | ⟨u, us⟩⟩
  · exact fun _ => trivial
  · exact fun _ => trivial
  · intro hp
    have hle : ∀ v ∈ t :: u :: us, t.position ≤ v.position := fun v hv => head_position_le hp rfl hv
    exact ⟨by simp [PhraseShape.termsFrom], head?_termsFrom rfl, pairwise_termsFrom hp hle⟩

theorem stemStart_of_head? {first last : Token}
    (h : (tokensBefore field body last).head? = some first) :
    stemStart field body last = first.position := by
  rw [stemStart, h]
  rfl

theorem stemStart_of_nil {last : Token} (h : tokensBefore field body last = []) :
    stemStart field body last = last.position := by
  rw [stemStart, h]
  rfl

theorem wellFormed_ofStem (field : TextField) (body : String) :
    (PhraseShape.ofStem field body).WellFormed := by
  cases hlast : (allTokens field body).getLast? with
  | none =>
    rw [PhraseShape.ofStem, hlast]
    trivial
  | some last =>
    rw [ofStem_eq hlast]
    obtain ⟨hlead, -⟩ := stemStart_le field body last
    have hp : (tokensBefore field body last).Pairwise (·.position < ·.position) :=
      (pairwise_tokens field body).filter _
    refine ⟨?first, pairwise_termsFrom hp hlead, ?after, ?alone⟩
    case first =>
      cases hfirst : (tokensBefore field body last).head? with
      | none =>
        rw [List.head?_eq_none_iff.1 hfirst]
        intro t ht
        cases ht
      | some first =>
        rw [stemStart_of_head? hfirst]
        exact head?_termsFrom hfirst
    case after =>
      intro t ht
      obtain ⟨token, htoken, rfl⟩ := List.mem_map.1 ht
      have hbefore := (mem_tokensBefore.1 htoken).2
      have hstart := hlead token htoken
      show token.position - _ < last.position - _
      omega
    case alone =>
      intro hnone
      show last.position - _ = 0
      rw [stemStart_of_nil (List.map_eq_nil_iff.1 hnone), Nat.sub_self]

/-! ## Differences -/

variable {start : Nat} {t : Token} {ts : List Token}

theorem term32_eq (hle : start ≤ t.position) (hfits : t.position < UInt32.size) :
    PhraseShape.term32 (.ofNat start) t = some ⟨t.position - start, t.term⟩ := by
  have hstart : start < UInt32.size := Nat.lt_of_le_of_lt hle hfits
  have hle32 : UInt32.ofNat start ≤ t.position32 := (UInt32.ofNat_le_iff_le hstart hfits).2 hle
  have hdifference : (t.position32 - .ofNat start).toNat = t.position - start := by
    rw [UInt32.toNat_sub_of_le _ _ hle32, Token.position32, UInt32.toNat_ofNat_of_lt' hfits,
      UInt32.toNat_ofNat_of_lt' hstart]
  rw [PhraseShape.term32, difference32, if_pos hle32, Option.map_some, hdifference]

theorem mapM_term32 (h : ∀ t ∈ ts, start ≤ t.position ∧ t.position < UInt32.size) :
    ts.mapM (PhraseShape.term32 (.ofNat start)) = some (PhraseShape.termsFrom start ts) := by
  induction ts with
  | nil => rfl
  | cons t ts ih =>
    obtain ⟨⟨hle, hfits⟩, hrest⟩ := List.forall_mem_cons.1 h
    rw [List.mapM_cons, term32_eq hle hfits, ih hrest]
    rfl

theorem position_fits (hcount : (allTokens field body).length < UInt32.size)
    (h : t ∈ allTokens field body) : t.position < UInt32.size := by
  obtain ⟨i, hi⟩ := List.mem_iff_getElem?.1 h
  have hlt : i < (allTokens field body).length := (List.getElem?_eq_some_iff.1 hi).1
  rw [position_of_getElem? hi]
  omega

theorem ofWords32_eq (hcount : (allTokens field body).length < UInt32.size) :
    PhraseShape.ofWords32 field body = some (PhraseShape.ofWords field body) := by
  have hp := pairwise_tokens field body
  have hfits : ∀ t ∈ tokens field body, t.position < UInt32.size := fun t ht =>
    position_fits hcount ((tokens_sublist field body).subset ht)
  unfold PhraseShape.ofWords32 PhraseShape.ofWords
  revert hp hfits
  rcases tokens field body with _ | ⟨t, _ | ⟨u, us⟩⟩
  · exact fun _ _ => rfl
  · exact fun _ _ => rfl
  · intro hp hfits
    have hall : ∀ v ∈ t :: u :: us, t.position ≤ v.position ∧ v.position < UInt32.size :=
      fun v hv => ⟨head_position_le hp rfl hv, hfits v hv⟩
    exact congrArg (Option.map PhraseShape.phrase) (mapM_term32 hall)

theorem ofStem32_eq (hcount : (allTokens field body).length < UInt32.size) :
    PhraseShape.ofStem32 field body = some (PhraseShape.ofStem field body) := by
  cases hlast : (allTokens field body).getLast? with
  | none => rw [PhraseShape.ofStem32, PhraseShape.ofStem, hlast]
  | some last =>
    have hlastFits : last.position < UInt32.size := position_fits hcount (List.mem_of_getLast? hlast)
    have hfits : ∀ t ∈ tokens field body, t.position < UInt32.size := fun t ht =>
      position_fits hcount ((tokens_sublist field body).subset ht)
    have hbefore : (tokens field body).filter (·.position32 < last.position32) =
        tokensBefore field body last := by
      refine List.filter_congr fun t ht => ?_
      rw [decide_eq_decide]
      exact UInt32.ofNat_lt_iff_lt (hfits t ht) hlastFits
    have hstart : ((tokensBefore field body last).head?.map Token.position32).getD last.position32 =
        .ofNat (stemStart field body last) := by
      rw [stemStart]
      cases (tokensBefore field body last).head? with
      | none => rfl
      | some first => rfl
    obtain ⟨hlead, hle⟩ := stemStart_le field body last
    have hterms := mapM_term32 fun t ht => ⟨hlead t ht, hfits t (mem_tokensBefore.1 ht).1⟩
    rw [ofStem_eq hlast, PhraseShape.ofStem32, hlast]
    dsimp only
    rw [hbefore, hstart, hterms, term32_eq hle hlastFits]
    rfl

/-! ## Texts -/

/-- No difference is below zero, if the words of the text are counted in 32 bits. -/
theorem offsets_counted (field : TextField) {text : String} {split : WildcardSplit}
    (h : splitWildcard text = .ok split) (quick : Bool) :
    ∃ shape, PhraseShape.ofText field text quick = .ok shape ∧ shape.WellFormed ∧
      ((allTokens field split.body).length < UInt32.size →
        PhraseShape.ofText32 field text quick = .ok (some shape)) := by
  refine ⟨_, ofText_of_split h, ?_, fun hcount => ?_⟩
  · split
    · exact wellFormed_ofStem field split.body
    · exact wellFormed_ofWords field split.body
  · rw [PhraseShape.ofText32, h, ok_bind, ofStem32_eq hcount, ofWords32_eq hcount]
    split
    · rfl
    · rfl

/-- A stop word before the phrase, and two more in it that leave a gap. -/
theorem begun_year_counted :
    let text := "The report of the ye*"
    let split : WildcardSplit := ⟨"The report of the ye", true⟩
    let shape := PhraseShape.stem [⟨0, "report"⟩] ⟨3, "ye"⟩
    splitWildcard text = .ok split ∧ (allTokens .subject split.body).length < UInt32.size ∧
      PhraseShape.ofText .subject text false = .ok shape ∧ shape.WellFormed ∧
      PhraseShape.ofText32 .subject text false = .ok (some shape) := by
  intro text split shape
  have hsplit : splitWildcard text = .ok split := by decide +kernel
  have hcount : (allTokens .subject split.body).length < UInt32.size := by decide +kernel
  have hshape : PhraseShape.ofText .subject text false = .ok shape := by decide +kernel
  obtain ⟨found, hfound, hwell, hcounted⟩ := offsets_counted .subject hsplit false
  obtain rfl : shape = found := Except.ok.inj (hshape.symm.trans hfound)
  exact ⟨hsplit, hcount, hshape, hwell, hcounted hcount⟩

end Sift
