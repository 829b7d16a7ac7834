/-
  Sift.Proofs.Contact — what is searched for a contact.

  A contact is cut at blanks and at what stands between addresses, and no word of it is left out. One
  word is taken as the beginning of a name, with stars after it or without; several words are a phrase.
  Whether there is one is asked of the text without the blanks around it, which makes no difference to
  the words.

  - `compileContact_of_plain`: a text without stars is searched as begun exactly if it has no second word.
  - `ofWords_of_adjacent`: several words of which none is left out follow each other at once.
  - `foundIn_begun_iff` / `foundIn_adjacent_iff`: which documents either is found in.
  - `contact_searched`: so a single word with any stars asks for the names that begin with it, and
    several words ask for all of them in a row (`ContactSearch`).
  - `compileContact_eq_iff`: where a text in the contact field is searched as a contact is.
-/

import Sift.Proofs.BegunWord
import Sift.Proofs.Reread.Text

namespace Sift

/-! ## Single words -/

namespace PhraseShape

variable {field : TextField} {text : String}

/-- A word with none before it is all of a begun phrase. -/
theorem ofStem_of_singleton {t : Token} (h : allTokens field text = [t]) :
    ofStem field text = .stem [] ⟨0, t.term⟩ := by
  have hlast : (allTokens field text).getLast? = some t := by rw [h]; rfl
  have hbefore : tokensBefore field text t = [] := by
    rw [List.eq_nil_iff_forall_not_mem]
    intro other hother
    obtain ⟨hmem, hlt⟩ := mem_tokensBefore.1 hother
    have hsame : other ∈ [t] := h ▸ (tokens_sublist field text).subset hmem
    rw [List.mem_singleton.1 hsame] at hlt
    exact Nat.lt_irrefl _ hlt
  rw [ofStem_eq hlast, stemStart, hbefore]
  simp [termsFrom]

theorem foundIn_begun_iff {words : List String} {term : String} :
    (stem [] ⟨0, term⟩).foundIn words = true ↔ ∃ word ∈ words, term.toList <+: word.toList := by
  have hat : ∀ i, ItemFacts.stemAt words i ⟨0, term⟩ = true ↔
      ∃ word, words[i]? = some word ∧ term.toList <+: word.toList := by
    intro i
    rw [ItemFacts.stemAt, Option.any_eq_true]
    simp only [Nat.add_zero, List.isPrefixOf_iff_prefix]
  have hall : ∀ i, ItemFacts.phraseAt words i [] = true := fun i => rfl
  simp only [foundIn, ItemFacts.answers, List.any_eq_true, List.mem_range, hall, hat, Bool.true_and]
  constructor
  · rintro ⟨i, -, word, hword, hbegun⟩
    exact ⟨word, List.mem_of_getElem? hword, hbegun⟩
  · rintro ⟨word, hword, hbegun⟩
    obtain ⟨i, hi⟩ := List.mem_iff_getElem?.1 hword
    exact ⟨i, (List.getElem?_eq_some_iff.1 hi).1, word, hi, hbegun⟩

/-! ## Words in a row -/

/-- The phrase of words that follow each other at once. -/
def adjacent (words : List String) : List PhraseTerm :=
  words.zipIdx.map fun (word, i) => ⟨i, word⟩

/-- The first of all words has the position 1, and each of the others the next. -/
theorem termsFrom_allTokens (field : TextField) (text : String) :
    termsFrom 1 (allTokens field text) = adjacent ((allTokens field text).map (·.term)) := by
  apply List.ext_getElem?
  intro i
  rw [termsFrom, adjacent, List.getElem?_map, List.getElem?_map, List.getElem?_zipIdx,
    List.getElem?_map]
  cases ht : (allTokens field text)[i]? with
  | none => rfl
  | some t =>
    have hposition := position_of_getElem? ht
    simp [hposition]

theorem ofWords_of_adjacent (hall : tokens field text = allTokens field text)
    (hmany : 2 ≤ (tokens field text).length) :
    ofWords field text = .phrase (adjacent ((tokens field text).map (·.term))) := by
  obtain ⟨first, second, rest, htokens⟩ : ∃ first second rest,
      tokens field text = first :: second :: rest := by
    match h : tokens field text with
    | [] | [_] => simp [h] at hmany
    | first :: second :: rest => exact ⟨first, second, rest, rfl⟩
  have hget : (allTokens field text)[0]? = some first := by
    rw [← hall, htokens]
    rfl
  have hfirst : first.position = 1 := position_of_getElem? hget
  rw [ofWords, htokens]
  show phrase (termsFrom first.position (first :: second :: rest)) = _
  rw [hfirst, ← htokens, hall, termsFrom_allTokens]

theorem phraseAt_adjacent {words terms : List String} {start : Nat} :
    ItemFacts.phraseAt words start (adjacent terms) = true ↔ terms <+: words.drop start := by
  rw [List.prefix_iff_getElem?, ItemFacts.phraseAt, adjacent, List.all_map, List.all_eq_true]
  constructor
  · intro h i hi
    have hmem : (terms[i], i) ∈ terms.zipIdx :=
      List.mk_mem_zipIdx_iff_getElem?.2 (List.getElem?_eq_getElem hi)
    rw [List.getElem?_drop]
    simpa using h (terms[i], i) hmem
  · rintro h ⟨term, i⟩ hmem
    obtain ⟨hi, hterm⟩ := List.getElem?_eq_some_iff.1 (List.mk_mem_zipIdx_iff_getElem?.1 hmem)
    have hword := h i hi
    rw [List.getElem?_drop, hterm] at hword
    simpa using hword

theorem foundIn_adjacent_iff {words terms : List String} (hne : terms ≠ []) :
    (phrase (adjacent terms)).foundIn words = true ↔ terms <:+: words := by
  have hasks : (adjacent terms).isEmpty = false := by simp [adjacent, hne]
  simp only [foundIn, ItemFacts.answers, hasks, Bool.not_false, Bool.true_and, List.any_eq_true,
    List.mem_range, phraseAt_adjacent]
  rw [List.infix_iff_prefix_suffix]
  constructor
  · rintro ⟨start, -, hprefix⟩
    exact ⟨words.drop start, hprefix, List.drop_suffix start words⟩
  · rintro ⟨tail, hprefix, before, rfl⟩
    have hlength : 0 < tail.length :=
      Nat.lt_of_lt_of_le (List.length_pos_iff.2 hne) hprefix.length_le
    refine ⟨before.length, ?_, ?_⟩
    · rw [List.length_append]
      omega
    · rw [List.drop_left]
      exact hprefix

end PhraseShape

/-! ## Contacts -/

variable {text : String}

theorem compileContact_eq (h : WellStarred text) (truth : Bool) :
    compileContact text truth = compileText .contact text
      (isContactStem ⟨String.ofList (wildcardBody text), hasWildcard text⟩) truth := by
  rw [compileContact, splitWildcard_eq_ok_iff.2 ⟨h, rfl⟩]
  simp only [bind, Except.bind]

theorem isContactStem_trimEnd (text : String) :
    isContactStem ⟨Text.trimEnd text, false⟩ =
      (!(Text.trim text).isEmpty && Text.trim text != "." && (tokens .contact text).length ≤ 1) := by
  have htokens : tokens .contact (Text.trim text) = tokens .contact text :=
    tokens_trim (by decide) text
  simp only [isContactStem, Text.trim_trimEnd, htokens, Bool.not_false, Bool.true_and]

/-- A text with a word in it is neither empty nor the mark that is looked at on its own. -/
theorem isContactStem_of_singleton {t : Token} (h : tokens .contact text = [t]) :
    isContactStem ⟨Text.trimEnd text, false⟩ = true := by
  have hword : ∀ other, tokens .contact other = [] → Text.trim text ≠ other := by
    rintro other hnone rfl
    rw [tokens_trim (by decide), h] at hnone
    cases hnone
  have hempty : Text.trim text ≠ "" := hword "" (by decide +kernel)
  have hdot : Text.trim text ≠ "." := hword "." (by decide +kernel)
  simp [isContactStem_trimEnd, hempty, hdot, h]

theorem tokens_contact (text : String) : tokens .contact text = allTokens .contact text :=
  tokens_eq_allTokens (by decide) text

theorem tokens_contact_trimEnd (text : String) :
    tokens .contact (Text.trimEnd text) = tokens .contact text :=
  tokens_trimEnd (by decide) text

theorem allTokens_contact_trimEnd (text : String) :
    allTokens .contact (Text.trimEnd text) = allTokens .contact text := by
  rw [← tokens_contact, ← tokens_contact, tokens_contact_trimEnd]

/-- Without a word either shape asks for nothing, so it does not matter that the last one is not taken as
    begun where nothing, or a single dot, stands. -/
theorem compileContact_of_plain (hstars : WellStarred text) (hplain : hasWildcard text = false)
    (truth : Bool) : compileContact text truth =
      .ok ((if (tokens .contact text).length ≤ 1 then PhraseShape.ofStem .contact text
        else PhraseShape.ofWords .contact text).operation .contact truth) := by
  rw [compileContact_eq hstars, hplain, compileText_eq_ok hstars, hplain, ofList_wildcardBody hplain,
    PhraseShape.ofStem_congr (tokens_contact_trimEnd text) (allTokens_contact_trimEnd text),
    PhraseShape.ofWords_congr (tokens_contact_trimEnd text), Bool.false_or]
  rcases ht : tokens .contact text with _ | ⟨t, _ | ⟨next, ts⟩⟩
  · have hall : allTokens .contact text = [] := by rw [← tokens_contact, ht]
    rw [PhraseShape.ofStem_eq_empty_iff.2 hall, PhraseShape.ofWords_eq_empty_iff.2 ht, ite_self,
      ite_self]
  · rw [isContactStem_of_singleton ht]
    rfl
  · have hwhole : isContactStem ⟨Text.trimEnd text, false⟩ = false := by
      simp [isContactStem_trimEnd, ht]
    rw [hwhole]
    simp

/-- A contact is searched by its words, as a text is, but for a single word without a star: the contact
    has a word that begins so, the text the word itself. -/
theorem compileContact_eq_iff (hstars : WellStarred text) (truth : Bool) :
    compileContact text truth = compileText .contact text false truth ↔
      hasWildcard text = true ∨ (tokens .contact text).length ≠ 1 := by
  by_cases hstar : hasWildcard text = true
  · have hwhole : isContactStem ⟨String.ofList (wildcardBody text), hasWildcard text⟩ = false := by
      simp [isContactStem, hstar]
    rw [compileContact_eq hstars, hwhole]
    exact iff_of_true rfl (.inl hstar)
  have hplain : hasWildcard text = false := by simpa using hstar
  rw [compileContact_of_plain hstars hplain, compileText_eq_ok hstars, hplain,
    ofList_wildcardBody hplain, PhraseShape.ofWords_congr (tokens_contact_trimEnd text)]
  rcases ht : tokens .contact text with _ | ⟨t, _ | ⟨next, ts⟩⟩
  · have hall : allTokens .contact text = [] := by rw [← tokens_contact, ht]
    rw [PhraseShape.ofStem_eq_empty_iff.2 hall, PhraseShape.ofWords_eq_empty_iff.2 ht]
    simp
  · rw [PhraseShape.ofWords_of_singleton ht]
    have hne := PhraseShape.operation_ofStem_ne .contact .contact text t.term truth
    simpa [PhraseShape.operation] using hne
  · simp

/-! ## What a contact asks for -/

theorem compileContact_of_starless (hstar : '*' ∉ text.toList) (truth : Bool) :
    compileContact text truth =
      .ok ((if (tokens .contact text).length ≤ 1 then PhraseShape.ofStem .contact text
        else PhraseShape.ofWords .contact text).operation .contact truth) :=
  compileContact_of_plain (wellStarred_of_starless hstar) (hasWildcard_of_starless hstar) truth

/-- With stars, or with no more than one word, a contact is searched as begun. -/
theorem compileContact_stars (hstar : '*' ∉ text.toList) (hfew : (tokens .contact text).length ≤ 1)
    (n : Nat) (truth : Bool) : compileContact (text ++ stars n) truth =
      .ok ((PhraseShape.ofStem .contact text).operation .contact truth) := by
  cases n with
  | zero =>
    have hnone : text ++ stars 0 = text := String.append_empty
    rw [hnone, compileContact_of_starless hstar, if_pos hfew]
  | succ n => rw [compileContact_eq (wellStarred_stars hstar n), compileText_stars hstar]

theorem ofContact_stars (hstar : '*' ∉ text.toList) (hblank : (Text.trim text).isEmpty = false)
    (n : Nat) : Predicate.ofContact (text ++ stars n) = .ok (.contact (text ++ stars n)) := by
  rw [Predicate.ofContact_eq_ok_iff]
  cases n with
  | zero =>
    have hnone : text ++ stars 0 = text := String.append_empty
    rw [hnone]
    exact ⟨hblank, wellStarred_of_starless hstar, rfl⟩
  | succ n =>
    have hmem : '*' ∈ (text ++ stars (n + 1)).toList := by simp [stars]
    exact ⟨Text.isEmpty_trim_of_mem hmem (by decide), wellStarred_stars hstar n, rfl⟩

/-- What the question about a contact asks for, by the words of its text. -/
structure ContactSearch (text : String) (p : Predicate) : Prop where
  /-- Stars add nothing to one word or to none. -/
  starred : (tokens .contact text).length ≤ 1 → ∀ n, ∃ q,
    Predicate.ofContact (text ++ stars n) = .ok q ∧ ∀ mailbox settings truth, ∃ operation,
      p.compile mailbox settings truth = .ok operation ∧
      q.compile mailbox settings truth = .ok operation
  /-- One word asks for a name that begins with it. -/
  begun : ∀ t, tokens .contact text = [t] → ∀ mailbox settings, ∃ operation,
    p.compile mailbox settings true = .ok operation ∧ ∀ item : ItemFacts,
      (operation.selects item = true ↔ ∃ words, item.terms.lookup .contact = some words ∧
        ∃ word ∈ words, t.term.toList <+: word.toList)
  /-- Several words ask for all of them, whole and one after the other. -/
  phrase : 2 ≤ (tokens .contact text).length → ∀ mailbox settings truth,
    p.compile mailbox settings truth = .ok (.index .contact
      (.phrase (PhraseShape.adjacent ((tokens .contact text).map (·.term)))) truth)
  inRow : 2 ≤ (tokens .contact text).length → ∀ mailbox settings, ∃ operation,
    p.compile mailbox settings true = .ok operation ∧ ∀ item : ItemFacts,
      (operation.selects item = true ↔ ∃ words, item.terms.lookup .contact = some words ∧
        (tokens .contact text).map (·.term) <:+: words)

theorem contact_searched {text : String} {p : Predicate} (hstar : '*' ∉ text.toList)
    (h : Predicate.ofContact text = .ok p) : ContactSearch text p := by
  obtain ⟨hblank, -, rfl⟩ := Predicate.ofContact_eq_ok_iff.1 h
  have hmany : 2 ≤ (tokens .contact text).length → ∀ truth, compileContact text truth =
      .ok ((PhraseShape.phrase (PhraseShape.adjacent ((tokens .contact text).map (·.term)))).operation
        .contact truth) := by
    intro hmany truth
    rw [compileContact_of_starless hstar, if_neg (Nat.not_le.2 hmany),
      PhraseShape.ofWords_of_adjacent (tokens_contact text) hmany]
  constructor
  case starred =>
    intro hfew n
    refine ⟨_, ofContact_stars hstar hblank n, fun mailbox settings truth => ?_⟩
    have hcompile := compileContact_of_starless hstar truth
    rw [if_pos hfew] at hcompile
    exact ⟨_, hcompile, compileContact_stars hstar hfew n truth⟩
  case begun =>
    intro t ht mailbox settings
    have hall : allTokens .contact text = [t] := by rw [← tokens_contact, ht]
    have hfew : (tokens .contact text).length ≤ 1 := by rw [ht]; exact Nat.le_refl 1
    have hcompile := compileContact_of_starless hstar true
    rw [if_pos hfew, PhraseShape.ofStem_of_singleton hall] at hcompile
    refine ⟨_, hcompile, fun item => ?_⟩
    rw [selects_operation_iff (by simp)]
    simp only [PhraseShape.foundIn_begun_iff]
  case phrase => exact fun h mailbox settings truth => hmany h truth
  case inRow =>
    intro h mailbox settings
    have hne : (tokens .contact text).map (·.term) ≠ [] := by
      rw [Ne, List.map_eq_nil_iff]
      rintro hnil
      simp [hnil] at h
    refine ⟨_, hmany h true, fun item => ?_⟩
    rw [selects_operation_iff (by simp)]
    simp only [PhraseShape.foundIn_adjacent_iff hne]

/-- The beginning of a name, with stars after it and without. -/
theorem contact_jo_searched :
    let text := " Jo"
    let item : ItemFacts := ⟨none, none, none, none, [], [], none, none, none, none, none,
      [(.contact, ["smith", "john"])], []⟩
    '*' ∉ text.toList ∧ Predicate.ofContact text = .ok (.contact text) ∧
      ∀ mailbox settings, ∃ operation,
        (Predicate.contact text).compile mailbox settings true = .ok operation ∧
        (Predicate.contact " Jo***").compile mailbox settings true = .ok operation ∧
        operation.selects item = true := by
  intro text item
  have hstar : '*' ∉ text.toList := by decide
  have hread : Predicate.ofContact text = .ok (.contact text) := by decide +kernel
  have hword : tokens .contact text = [⟨"jo", 1⟩] := by decide +kernel
  have hstars : text ++ stars 3 = " Jo***" := by decide +kernel
  have hsearch := contact_searched hstar hread
  refine ⟨hstar, hread, fun mailbox settings => ?_⟩
  obtain ⟨operation, hcompile, hselects⟩ := hsearch.begun ⟨"jo", 1⟩ hword mailbox settings
  obtain ⟨q, hq, hsame⟩ := hsearch.starred (by rw [hword]; decide) 3
  obtain ⟨again, hagain, hstarred⟩ := hsame mailbox settings true
  rw [hstars] at hq
  obtain ⟨-, -, rfl⟩ := Predicate.ofContact_eq_ok_iff.1 hq
  obtain rfl : operation = again := Except.ok.inj (hcompile.symm.trans hagain)
  refine ⟨operation, hcompile, hstarred, (hselects item).2 ⟨["smith", "john"], rfl, "john", ?_, ?_⟩⟩
  · decide
  · decide

end Sift
