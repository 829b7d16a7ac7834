/-
  Sift.Proofs.Stream — the tokens that are taken one at a time are those that are cut at once.

  A stream may pass words over and so might never end; that it gives a list of tokens says that it does.

  - `Gives.unique`: it gives one list only.
  - `gives_lower` / `gives_withoutStopWords`: what comes through a filter.
  - `Collects.addresses` / `Collects.words` / `Collects.whole`: what each source gives, numbered from 1.
  - `collects_addresses`: addresses are cut into the longest runs of their characters, and the words
    put together with spaces are cut into the same words.
  - `analyses_agree`: with and without stop words a text has the same tokens with the same numbers, but
    for those that are left out.
-/

import Sift.Analysis.Stream
import Sift.Proofs.Text.AddressRun
import Sift.Proofs.Tokens

namespace Sift

namespace TokenStream

variable {stream : TokenStream} {place : stream.Place} {ts : List Token}

/-! ## What a stream gives -/

theorem Gives.unique {us : List Token} (h : stream.Gives place ts) (h' : stream.Gives place us) :
    us = ts := by
  induction h generalizing us with
  | done hstep =>
    cases h' with
    | done => rfl
    | pass hstep' => cases hstep.symm.trans hstep'
    | give hstep' => cases hstep.symm.trans hstep'
  | pass hstep _ ih =>
    cases h' with
    | done hstep' => cases hstep.symm.trans hstep'
    | pass hstep' hrest =>
      cases hstep.symm.trans hstep'
      exact ih hrest
    | give hstep' => cases hstep.symm.trans hstep'
  | give hstep _ ih =>
    cases h' with
    | done hstep' => cases hstep.symm.trans hstep'
    | pass hstep' => cases hstep.symm.trans hstep'
    | give hstep' hrest =>
      cases hstep.symm.trans hstep'
      rw [ih hrest]

theorem Collects.iff {us : List Token} (h : stream.Collects ts) : stream.Collects us ↔ us = ts := by
  constructor
  · exact h.unique
  · rintro rfl
    exact h

/-! ## Filters -/

theorem gives_lower (h : stream.Gives place ts) : stream.lower.Gives place (ts.map Token.lower) := by
  induction h with
  | done hstep => exact .done (by simp only [lower, hstep])
  | pass hstep _ ih => exact .pass (by simp only [lower, hstep]) ih
  | give hstep _ ih => exact .give (by simp only [lower, hstep]) ih

/-- A stop word is passed over, and the words after it keep their numbers. -/
theorem gives_withoutStopWords (h : stream.Gives place ts) :
    stream.withoutStopWords.Gives place (dropStopWords ts) := by
  induction h with
  | done hstep => exact .done (by simp only [withoutStopWords, hstep])
  | pass hstep _ ih => exact .pass (by simp only [withoutStopWords, hstep]) ih
  | @give place next t ts hstep _ ih =>
    cases hstop : isStopWord t.term with
    | true =>
      have hdropped : dropStopWords (t :: ts) = dropStopWords ts :=
        List.filter_cons_of_neg (by simp [hstop])
      rw [hdropped]
      exact .pass (by simp [withoutStopWords, hstep, hstop]) ih
    | false =>
      have hkept : dropStopWords (t :: ts) = t :: dropStopWords ts :=
        List.filter_cons_of_pos (by simp [hstop])
      rw [hkept]
      exact .give (by simp [withoutStopWords, hstep, hstop]) ih

/-! ## Sources -/

/-- The tokens of some words when others have been given before them. -/
def numberedAfter (given : Nat) (words : List String) : List Token :=
  (words.zipIdx (given + 1)).map fun (term, position) => ⟨term, position⟩

theorem numberedAfter_cons (given : Nat) (word : String) (words : List String) :
    numberedAfter given (word :: words) =
      ⟨word, given + 1⟩ :: numberedAfter (given + 1) words := by
  rw [numberedAfter, List.zipIdx_cons]
  rfl

theorem eq_numberedAfter_iff {given : Nat} {words : List String} {ts : List Token} :
    ts = numberedAfter given words ↔ ts.map (·.term) = words ∧
      ts.map (·.position) = List.range' (given + 1) words.length := by
  induction words generalizing given ts with
  | nil => simp [numberedAfter]
  | cons word words ih =>
    rw [numberedAfter_cons]
    cases ts with
    | nil => simp
    | cons t ts =>
      have htoken : t = ⟨word, given + 1⟩ ↔ t.term = word ∧ t.position = given + 1 := by
        cases t
        simp
      simp only [List.cons.injEq, htoken, ih, List.map_cons, List.length_cons, List.range'_succ]
      tauto

theorem numberTokens_spec (words : List String) : (numberTokens words).map (·.term) = words ∧
    (numberTokens words).map (·.position) = List.range' 1 (numberTokens words).length := by
  obtain ⟨hterms, hpositions⟩ := eq_numberedAfter_iff.1 (rfl : numberTokens words = _)
  have hlength : (numberTokens words).length = words.length := by simp [numberTokens]
  refine ⟨hterms, ?_⟩
  rw [hpositions, hlength]

theorem Collects.words (text : String) :
    (TokenStream.words text).Collects (numberTokens (Text.words text)) := by
  have hgives : ∀ (rest : List String) (given : Nat),
      (TokenStream.words text).Gives (rest, given) (numberedAfter given rest) := by
    intro rest
    induction rest with
    | nil => exact fun given => .done rfl
    | cons word rest ih =>
      intro given
      rw [numberedAfter_cons]
      exact .give rfl (ih (given + 1))
  exact hgives (Text.words text) 0

/-- What one step takes off a text: nothing where no run is left, or a run without a word, or a run with
    its word. The text is shorter after it. -/
theorem addressStep_spec (scan : Scan) :
    addressStep scan = .done ∧ Text.addressRuns scan.rest = [] ∨
    (∃ after, addressStep scan = .pass ⟨after, scan.given⟩ ∧ after.length < scan.rest.length ∧
      Text.addressRuns scan.rest = Text.addressRuns after) ∨
    ∃ word after, addressStep scan =
        .give ⟨String.ofList word, scan.given + 1⟩ ⟨after, scan.given + 1⟩ ∧
      after.length < scan.rest.length ∧
      Text.addressRuns scan.rest = word :: Text.addressRuns after := by
  have hother : ∀ c, (!Text.isAddressChar c) = true → Text.isAddressChar c = false := by simp
  have hskip := Text.addressRuns_dropWhile hother scan.rest
  have hshorter := (List.dropWhile_suffix (p := (!Text.isAddressChar ·)) (l := scan.rest)).length_le
  unfold addressStep
  cases hfound : scan.rest.dropWhile (!Text.isAddressChar ·) with
  | nil =>
    rw [hfound] at hskip
    exact .inl ⟨rfl, hskip.symm⟩
  | cons c cs =>
    rw [hfound] at hskip hshorter
    have hc : Text.isAddressChar c = true := by
      have hhead := Text.head?_dropWhile (!Text.isAddressChar ·) scan.rest c (by rw [hfound]; rfl)
      simpa using hhead
    have hrun : ∀ d ∈ c :: cs.takeWhile Text.isAddressChar, Text.isAddressChar d = true :=
      List.forall_mem_cons.2 ⟨hc, fun d hd => List.mem_takeWhile_imp hd⟩
    have hstop := Text.head?_dropWhile Text.isAddressChar cs
    have hruns := Text.addressRuns_run_append hrun hstop
    rw [List.cons_append, List.takeWhile_append_dropWhile, hskip] at hruns
    have hafter : (cs.dropWhile Text.isAddressChar).tail.length < scan.rest.length := by
      have hrest := (List.dropWhile_suffix (p := Text.isAddressChar) (l := cs)).length_le
      rw [List.length_tail]
      rw [List.length_cons] at hshorter
      omega
    dsimp only
    cases hempty : (Text.dropAround Text.isEdgeMark (c :: cs.takeWhile Text.isAddressChar)).isEmpty with
    | true =>
      refine .inr (.inl ⟨_, if_pos rfl, hafter, ?_⟩)
      rw [hruns, List.filter_cons_of_neg (by simp [hempty])]
      rfl
    | false =>
      refine .inr (.inr ⟨_, _, if_neg (by simp), hafter, ?_⟩)
      rw [hruns, List.filter_cons_of_pos (by simp [hempty])]
      rfl

/-- Any text that is left, after any number of words. -/
theorem gives_addresses (text : String) (scan : Scan) : (addresses text).Gives scan
    (numberedAfter scan.given ((Text.addressRuns scan.rest).map String.ofList)) := by
  induction hlength : scan.rest.length using Nat.strong_induction_on generalizing scan with
  | _ n ih =>
    rcases addressStep_spec scan with ⟨hstep, hruns⟩ | ⟨after, hstep, hlt, hruns⟩ |
      ⟨word, after, hstep, hlt, hruns⟩
    · rw [hruns]
      exact .done hstep
    · rw [hruns]
      exact .pass hstep (ih _ (hlength ▸ hlt) ⟨after, scan.given⟩ rfl)
    · rw [hruns, List.map_cons, numberedAfter_cons]
      exact .give hstep (ih _ (hlength ▸ hlt) ⟨after, scan.given + 1⟩ rfl)

theorem Collects.addresses (text : String) :
    (TokenStream.addresses text).Collects (numberTokens (Text.addressWords text)) :=
  gives_addresses text ⟨text.toList, 0⟩

theorem toList_wholeToken (text : String) :
    (wholeToken text).toList = (numberTokens (wholeWord text)).map Token.lower := by
  simp only [wholeToken, wholeWord]
  split
  · rfl
  · rfl

theorem collects_option (token : Option Token) :
    Collects ⟨Option Token, token, wholeStep⟩ token.toList := by
  cases token with
  | none => exact .done rfl
  | some t => exact .give rfl (.done rfl)

theorem Collects.whole (text : String) :
    (TokenStream.whole text).Collects ((numberTokens (wholeWord text)).map Token.lower) := by
  rw [← toList_wholeToken, TokenStream.whole]
  exact collects_option (wholeToken text)

/-! ## Fields -/

theorem Collects.ofText (field : TextField) (text : String) :
    (TokenStream.ofText field text true).Collects (allTokens field text) ∧
      (TokenStream.ofText field text false).Collects (tokens field text) := by
  unfold TokenStream.ofText tokens allTokens
  cases field.analysis with
  | words =>
    have hlower := gives_lower (Collects.words text)
    exact ⟨hlower, gives_withoutStopWords hlower⟩
  | addresses =>
    have hlower := gives_lower (Collects.addresses text)
    exact ⟨hlower, hlower⟩
  | whole => exact ⟨Collects.whole text, Collects.whole text⟩

/-- The stream ends for every text. -/
theorem collects_addresses (text : String) :
    let ts := numberTokens (Text.addressWords text)
    (∀ us, (addresses text).Collects us ↔ us = ts) ∧
      (∃ runs, (∀ others, Text.Runs Text.isAddressChar text.toList others ↔ others = runs) ∧
        ts.map (·.term) =
          ((runs.map (Text.dropAround Text.isEdgeMark)).filter (!·.isEmpty)).map String.ofList) ∧
      ts.map (·.position) = List.range' 1 ts.length ∧
      ∀ us, (addresses (" ".intercalate (ts.map (·.term)))).Collects us ↔ us = ts := by
  intro ts
  obtain ⟨hterms, hpositions⟩ := numberTokens_spec (Text.addressWords text)
  refine ⟨fun us => (Collects.addresses text).iff, ⟨_, fun others => Text.runs_iff, ?_⟩, hpositions,
    fun us => ?_⟩
  · rw [hterms, Text.addressWords_eq, Text.addressRuns_eq]
  · have hagain := Collects.addresses (" ".intercalate (Text.addressWords text))
    rw [Text.addressWords_intercalate] at hagain
    rw [hterms]
    exact hagain.iff

end TokenStream

/-! ## With and without stop words -/

theorem TextField.analysis_eq_words_iff {field : TextField} : field.analysis = .words ↔
    ¬ (field.isAddress ∨ field ∈ [.contact, .attachments, .type, .objects, .structured]) := by
  cases field <;> decide

theorem tokens_of_words {field : TextField} (h : field.analysis = .words) (text : String) :
    tokens field text = (allTokens field text).filter fun t => t.term ∉ stopWords := by
  have hstop : ∀ t : Token, (!isStopWord t.term) = decide (t.term ∉ stopWords) := by
    intro t
    rw [isStopWord, decide_not, List.contains_eq_mem]
  simp only [tokens, h, dropStopWords, hstop]

/-- Either stream ends for every text and gives what is cut at once. -/
theorem analyses_agree (field : TextField) (text : String) :
    (∀ ts, (TokenStream.ofText field text true).Collects ts ↔ ts = allTokens field text) ∧
      (∀ ts, (TokenStream.ofText field text false).Collects ts ↔ ts = tokens field text) ∧
      (allTokens field text).map (·.position) = List.range' 1 (allTokens field text).length ∧
      tokens field text =
        if field.isAddress ∨ field ∈ [.contact, .attachments, .type, .objects, .structured] then
          allTokens field text
        else (allTokens field text).filter fun t => t.term ∉ stopWords := by
  obtain ⟨hall, hkept⟩ := TokenStream.Collects.ofText field text
  refine ⟨fun ts => hall.iff, fun ts => hkept.iff, ?_, ?_⟩
  · have hpositions := (TokenStream.numberTokens_spec (field.analysis.split text)).2
    rw [allTokens, List.map_map, List.length_map]
    exact hpositions
  · split
    · next hfield =>
      exact tokens_eq_allTokens (fun hwords => TextField.analysis_eq_words_iff.1 hwords hfield) text
    · next hfield => exact tokens_of_words (TextField.analysis_eq_words_iff.2 hfield) text

end Sift
