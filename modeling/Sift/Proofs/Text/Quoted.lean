/-
  Sift.Proofs.Text.Quoted — what stands between quotes is read back as it was.

  - `readQuoted_flatMap`: the closing quote is found, whatever comes before and after it.
  - `quote_cases`: a value is written in quotes, or as it is, with nothing in it that needs them.
  - `suffix_of_readQuoted`: no other quote than the closing one can be taken for it.
  - `quote_self_delimiting`: so a value in quotes is taken off the front of any text, and a value as it
    is off one in which something follows that ends it.
-/

import Sift.Proofs.Text.Trim
import Sift.Text.Quoted

namespace Sift.Text

theorem readQuoted_plain {c : Char} (hquote : c ≠ '"') (hslash : c ≠ '\\') (rest : List Char) :
    readQuoted (c :: rest) = (readQuoted rest).map fun (value, rest) => (c :: value, rest) :=
  readQuoted.eq_5 c rest hquote (fun _ _ h _ => hslash h) fun h _ => hslash h

/-- One character, escaped where it has to be, is taken off the front. -/
theorem readQuoted_quotedChar (c : Char) (rest : List Char) :
    readQuoted (quotedChar c ++ rest) =
      (readQuoted rest).map fun (value, rest) => (c :: value, rest) := by
  by_cases hc : c = '"' ∨ c = '\\'
  · rw [quotedChar, if_pos hc]
    rfl
  · rw [quotedChar, if_neg hc, List.singleton_append]
    rw [not_or] at hc
    exact readQuoted_plain hc.1 hc.2 rest

theorem readQuoted_flatMap (cs rest : List Char) :
    readQuoted (cs.flatMap quotedChar ++ '"' :: rest) = some (cs, rest) := by
  induction cs with
  | nil => rfl
  | cons c cs ih =>
    rw [List.flatMap_cons, List.append_assoc, readQuoted_quotedChar, ih]
    rfl

@[simp] theorem toList_quoteAlways (s : String) : (quoteAlways s).toList = quotedChars s.toList :=
  String.toList_ofList

theorem isBlank_of_needsQuotes {c : Char} (h : needsQuotes c = false) : isBlank c = false := by
  simp only [needsQuotes, Bool.or_eq_false_iff] at h
  exact h.1.1.1

/-- What is written without quotes has none, and something to show. -/
theorem quote_cases (s : String) :
    quote s = quoteAlways s ∨ quote s = s ∧ s.toList ≠ [] ∧ ∀ c ∈ s.toList, needsQuotes c = false := by
  rw [quote]
  split
  · exact .inl rfl
  · next h =>
    simp only [Bool.or_eq_true, List.isEmpty_iff, List.any_eq_true, not_or, not_exists, not_and,
      Bool.not_eq_true] at h
    exact .inr ⟨rfl, h⟩

/-- Other texts are written as they are. -/
theorem quote_of_forall {s : String} (hs : s.toList ≠ [])
    (h : ∀ c ∈ s.toList, needsQuotes c = false) : quote s = s := by
  rw [quote, if_neg]
  simpa [List.isEmpty_iff, hs] using h

/-! ## Off the front of a text -/

/-- A value without quotes would end here. -/
def Ends (rest : List Char) : Prop := ∀ c ∈ rest.head?, endsValue c = true

instance (rest : List Char) : Decidable (Ends rest) :=
  decidable_of_iff (rest.head?.all endsValue = true) (by simp [Ends, Option.all_eq_true])

theorem endsValue_of_needsQuotes {c : Char} (h : needsQuotes c = false) : endsValue c = false := by
  simp only [needsQuotes, Bool.or_eq_false_iff] at h
  rw [endsValue, h.1.1.1, h.2]
  rfl

theorem Ends.head_ne {rest : List Char} (h : Ends rest) {c : Char} (hc : endsValue c = false) :
    rest.head? ≠ some c := by
  intro hhead
  have := h c hhead
  rw [hc] at this
  cases this

theorem readValue_quotedChars (cs rest : List Char) :
    readValue (quotedChars cs ++ rest) = some (cs, rest) := by
  have hsplit : quotedChars cs ++ rest = '"' :: (cs.flatMap quotedChar ++ '"' :: rest) := by
    rw [quotedChars, List.cons_append, List.cons_append, List.append_assoc]
    rfl
  rw [hsplit]
  exact readQuoted_flatMap cs rest

theorem readValue_of_head? {cs : List Char} (h : cs.head? ≠ some '"') :
    readValue cs = some (cs.takeWhile fun c => !endsValue c, cs.dropWhile fun c => !endsValue c) := by
  unfold readValue
  split
  · exact absurd rfl h
  · rfl

/-- Nothing in the text needs quotes. -/
def IsBare (cs : List Char) : Prop := ∀ c ∈ cs, needsQuotes c = false

instance (cs : List Char) : Decidable (IsBare cs) :=
  decidable_of_iff (cs.any needsQuotes = false) (by simp [IsBare])

theorem IsBare.not_endsValue {cs : List Char} (h : IsBare cs) :
    ∀ c ∈ cs, (!endsValue c) = true := by
  intro c hc
  rw [Bool.not_eq_true', endsValue_of_needsQuotes (h c hc)]

/-- The characters up to the first that ends a value are all of a bare text, and no more. -/
theorem takeWhile_bare {cs rest : List Char} (h : IsBare cs) (hrest : Ends rest) :
    (cs ++ rest).takeWhile (fun c => !endsValue c) = cs ∧
      (cs ++ rest).dropWhile (fun c => !endsValue c) = rest :=
  takeWhile_append_of_head? h.not_endsValue fun c hc => by rw [hrest c hc]; rfl

theorem readValue_bare {cs rest : List Char} (h : IsBare cs) (hrest : Ends rest) :
    readValue (cs ++ rest) = some (cs, rest) := by
  have hhead : (cs ++ rest).head? ≠ some '"' := by
    cases cs with
    | nil => exact hrest.head_ne (by decide)
    | cons c cs =>
      intro hquote
      have hbare := h c List.mem_cons_self
      rw [Option.some.inj hquote] at hbare
      cases hbare
  obtain ⟨htake, hdrop⟩ := takeWhile_bare h hrest
  rw [readValue_of_head? hhead, htake, hdrop]

theorem readValue_quoteAlways (s : String) (rest : List Char) :
    readValue ((quoteAlways s).toList ++ rest) = some (s.toList, rest) := by
  rw [toList_quoteAlways]
  exact readValue_quotedChars s.toList rest

theorem readValue_quote (s : String) {rest : List Char} (hrest : Ends rest) :
    readValue ((quote s).toList ++ rest) = some (s.toList, rest) := by
  rcases quote_cases s with hs | ⟨hs, -, hbare⟩
  · rw [hs]
    exact readValue_quoteAlways s rest
  · rw [hs]
    exact readValue_bare hbare hrest

theorem quotedChars_inj {cs ds : List Char} (h : quotedChars cs = quotedChars ds) : cs = ds := by
  have hread := readValue_quotedChars cs []
  rw [h, readValue_quotedChars ds [], Option.some.injEq, Prod.mk.injEq] at hread
  exact hread.1.symm

/-- A quote without a backslash before it ends a value, if nothing has ended it before. -/
theorem suffix_of_readQuoted {cs rest value left : List Char} {c : Char} (hc : c ≠ '\\')
    (h : readQuoted (cs ++ c :: '"' :: rest) = some (value, left)) : rest <:+ left := by
  -- By the recursion of the reader, in which a backslash takes the character after it along.
  induction cs using readQuoted.induct generalizing value with
  | case1 =>
    by_cases hquote : c = '"'
    · subst hquote
      cases h
      exact List.suffix_cons '"' rest
    · rw [List.nil_append, readQuoted_plain hquote hc] at h
      cases h
      exact List.suffix_refl rest
  | case2 cs =>
    cases h
    exact (List.suffix_cons '"' rest).trans ((List.suffix_cons c _).trans (List.suffix_append cs _))
  | case3 d cs ih =>
    obtain ⟨tail, htail, heq⟩ := Option.map_eq_some_iff.1 h
    cases heq
    exact ih htail
  | case4 =>
    cases h
    exact List.suffix_refl rest
  | case5 d cs hquote hpair hsingle ih =>
    have hslash : d ≠ '\\' := by
      intro hd
      cases cs with
      | nil => exact hsingle hd rfl
      | cons e cs => exact hpair e cs hd rfl
    rw [List.cons_append, readQuoted_plain hquote hslash] at h
    obtain ⟨tail, htail, heq⟩ := Option.map_eq_some_iff.1 h
    cases heq
    exact ih htail

/-- A value as it stands in a search: it is found whatever ends it. -/
def Delimited (written : String) : Prop :=
  ∃ value, ∀ rest, Ends rest → readValue (written.toList ++ rest) = some (value, rest)

theorem delimited_quoteAlways (s : String) : Delimited (quoteAlways s) :=
  ⟨s.toList, fun rest _ => readValue_quoteAlways s rest⟩

theorem delimited_bare {s : String} (h : IsBare s.toList) : Delimited s :=
  ⟨s.toList, fun _ hrest => readValue_bare h hrest⟩

theorem delimited_quote (s : String) : Delimited (quote s) :=
  ⟨s.toList, fun _ hrest => readValue_quote s hrest⟩

/-- A value is read back as it was, and nothing that comes after it is lost or taken for a part of it:
    in quotes whatever that is, and otherwise if it ends the value. -/
theorem quote_self_delimiting (s : String) (rest : List Char) :
    (Ends rest → readValue ((quote s).toList ++ rest) = some (s.toList, rest)) ∧
      readValue ((quoteAlways s).toList ++ rest) = some (s.toList, rest) :=
  ⟨readValue_quote s, readValue_quoteAlways s rest⟩

/-- Backslashes at the end, before a parenthesis where nothing is escaped and before the closing quote
    where they are. -/
theorem trailing_backslash_delimited :
    let rest := ") OR -(to:\"x\"".toList
    let bare := "\\mail\\"
    let spaced := "say \"hi\" \\"
    Ends rest ∧ quote bare = bare ∧ quote spaced = "\"say \\\"hi\\\" \\\\\"" ∧
      readValue ((quote bare).toList ++ rest) = some (bare.toList, rest) ∧
      readValue ((quote spaced).toList ++ rest) = some (spaced.toList, rest) ∧
      readValue ((quoteAlways bare).toList ++ spaced.toList) = some (bare.toList, spaced.toList) := by
  intro rest bare spaced
  have hends : Ends rest := by decide +kernel
  have hbare : quote bare = bare := by decide +kernel
  have hspaced : quote spaced = "\"say \\\"hi\\\" \\\\\"" := by decide +kernel
  exact ⟨hends, hbare, hspaced, (quote_self_delimiting bare rest).1 hends,
    (quote_self_delimiting spaced rest).1 hends, (quote_self_delimiting bare spaced.toList).2⟩

end Sift.Text
