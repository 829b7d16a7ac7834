/-
  Sift.Proofs.Write.Structured — the text of a question under a name of the user's: a number sign, the
  name as it is, a colon, and the value in quotes.

  Two such questions are never written alike: where the name ends can be seen from the quotes after it,
  since no quote inside the value is without a backslash (`structured_inj`). But that is not where a
  reader looks, who takes the name to end at the first colon (`readStructured`).

  - `structured_determined`: so the reader finds the question if its name has no colon, and some other
    name or nothing at all if it has one.
  - `colon_name_unread`: a name with a colon.
-/

import Sift.Proofs.Reread.Text

namespace Sift.Predicate

/-! ## Writing -/

theorem toList_write_structured (name value : String) :
    (structured name value).write.toList =
      '#' :: (name.toList ++ ':' :: Text.quotedChars value.toList) := by
  simp [write, written]

/-- A text that begins with a colon and a quoted value, and ends in another such pair, is one pair. -/
theorem quoted_unique {before cs ds : List Char}
    (h : ':' :: Text.quotedChars cs = before ++ ':' :: Text.quotedChars ds) : before = [] := by
  rcases before with _ | ⟨c, _ | ⟨d, before⟩⟩
  · rfl
  · -- The colon would be where the value's opening quote is.
    simp [Text.quotedChars] at h
  · -- The second pair would lie in the first value, where its opening quote had to have a backslash.
    simp only [Text.quotedChars, List.cons_append, List.cons.injEq] at h
    obtain ⟨-, -, h⟩ := h
    have hread := Text.readQuoted_flatMap cs []
    rw [h] at hread
    have hsuffix := Text.suffix_of_readQuoted (by decide) hread
    simp at hsuffix

theorem structured_inj {name value other otherValue : String}
    (h : (structured name value).write = (structured other otherValue).write) :
    name = other ∧ value = otherValue := by
  have hlist := congrArg String.toList h
  rw [toList_write_structured, toList_write_structured, List.cons.injEq] at hlist
  have hname : name.toList = other.toList := by
    rcases List.append_eq_append_iff.1 hlist.2 with ⟨more, hother, hrest⟩ | ⟨more, hname, hrest⟩
    · rw [hother, quoted_unique hrest, List.append_nil]
    · rw [hname, quoted_unique hrest, List.append_nil]
  rw [hname, List.append_right_inj, List.cons.injEq] at hlist
  exact ⟨String.toList_inj.1 hname, String.toList_inj.1 (Text.quotedChars_inj hlist.2.2)⟩

/-! ## Reading -/

/-- The name and the value of a question under a name, and what is left of the text after it. -/
def readStructured (text : String) : Option (String × String × String) :=
  match text.toList with
  | '#' :: cs => do
    let (name, rest) ← Text.breakAt (· == ':') cs
    match rest with
    | '"' :: rest =>
      let (value, rest) ← Text.readQuoted rest
      return (String.ofList name, String.ofList value, String.ofList rest)
    | _ => none
  | _ => none

theorem readStructured_write {name : String} (h : ':' ∉ name.toList) (value : String) :
    readStructured (structured name value).write = some (name, value, "") := by
  have hplain : ∀ c ∈ name.toList, (c == ':') = false := by
    intro c hc
    refine beq_eq_false_iff_ne.2 ?_
    rintro rfl
    exact h hc
  have hread : Text.readQuoted (value.toList.flatMap Text.quotedChar ++ ['"']) =
      some (value.toList, []) := Text.readQuoted_flatMap value.toList []
  rw [readStructured, toList_write_structured]
  simp only [Text.breakAt_append hplain (beq_self_eq_true ':'), Text.quotedChars, List.cons_append,
    hread, Option.bind_eq_bind, Option.bind_some, String.ofList_toList]
  rfl

theorem not_colon_of_readStructured {text name value rest : String}
    (h : readStructured text = some (name, value, rest)) : ':' ∉ name.toList := by
  unfold readStructured at h
  split at h
  · obtain ⟨⟨before, after⟩, hbreak, h⟩ := Option.bind_eq_some_iff.1 h
    dsimp only at h
    split at h
    · obtain ⟨parts, -, heq⟩ := Option.bind_eq_some_iff.1 h
      cases heq
      rw [String.toList_ofList]
      intro hcolon
      exact absurd (Text.not_sep_of_breakAt hbreak ':' hcolon) (by decide)
    · cases h
  · cases h

/-- What is accepted under a name is written unlike anything else, and read back just if the name has
    no colon. -/
theorem structured_determined {name value : String} {p : Predicate}
    (h : ofStructured name value = .ok p) :
    (':' ∉ name.toList → readStructured p.write = some (name, value, "")) ∧
      (':' ∈ name.toList → ∀ found ∈ readStructured p.write, found.1 ≠ name) ∧
      ∀ other otherValue q, ofStructured other otherValue = .ok q → p.write = q.write →
        name = other ∧ value = otherValue := by
  rw [ofStructured_eq_ok h]
  refine ⟨fun hname => readStructured_write hname value, ?_, ?_⟩
  · intro hname found hfound hsame
    rw [← hsame] at hname
    exact not_colon_of_readStructured hfound hname
  · intro other otherValue q hq hwrite
    rw [ofStructured_eq_ok hq] at hwrite
    exact structured_inj hwrite

/-- Everything in the name that would end it elsewhere, and in the value what has to be escaped. -/
theorem odd_name_determined :
    let p : Predicate := .structured "x) \"y\" " "say \\ \"hi\""
    ofStructured "x) \"y\" " "say \\ \"hi\"" = .ok p ∧
      readStructured p.write = some ("x) \"y\" ", "say \\ \"hi\"", "") := by
  intro p
  have hp : ofStructured "x) \"y\" " "say \\ \"hi\"" = .ok p := by decide +kernel
  exact ⟨hp, (structured_determined hp).1 (by decide)⟩

/-- The reader stops at the first colon, and no quote follows it. -/
theorem colon_name_unread :
    ofStructured "a:b" "x" = .ok (.structured "a:b" "x") ∧
      readStructured (structured "a:b" "x").write = none := by
  decide +kernel

end Sift.Predicate
