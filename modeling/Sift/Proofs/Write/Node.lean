/-
  Sift.Proofs.Write.Node — where a written question ends in the text of a search.

  A question is a sign, a field, a colon and a value (`IsQuestionText`), whatever its predicate:
  `Predicate.isBareField_written` and `Predicate.delimited_written` go through the kinds. So what
  follows it in a search can be told from the text alone (`Question.skip_append`).
-/

import Sift.Proofs.Reread.Node

namespace Sift

/-! ## Fields -/

/-- A field with nothing in it that could be taken for another part of a search. -/
structure IsBareField (field : String) : Prop extends IsFieldName field where
  bare : Text.IsBare field.toList

instance (field : String) : Decidable (IsBareField field) :=
  decidable_of_iff (IsFieldName field ∧ Text.IsBare field.toList)
    ⟨fun ⟨name, bare⟩ => ⟨name, bare⟩, fun h => ⟨h.toIsFieldName, h.bare⟩⟩

/-- A name without a colon, white space, a double quote or a parenthesis. -/
def IsPlainName (name : String) : Prop :=
  ∀ c ∈ name.toList, c ≠ ':' ∧ Text.isBlank c = false ∧ c ≠ '"' ∧ c ≠ '(' ∧ c ≠ ')'

instance (name : String) : Decidable (IsPlainName name) :=
  decidable_of_iff
    ((name.toList.all fun c =>
      c != ':' && !Text.isBlank c && c != '"' && c != '(' && c != ')') = true)
    (by simp [IsPlainName, and_assoc])

theorem IsPlainName.isBareField {name : String} (h : IsPlainName name) :
    IsBareField ("#" ++ name) := by
  have hlist : ("#" ++ name).toList = '#' :: name.toList := by simp
  refine ⟨⟨?_, ?_, ?_⟩, ?_⟩
  · rw [hlist]
    intro hcolon
    rcases List.mem_cons.1 hcolon with hcolon | hcolon
    · cases hcolon
    · exact (h ':' hcolon).1 rfl
  · simp [hlist]
  · simp [hlist]
  · rw [hlist]
    intro c hc
    rcases List.mem_cons.1 hc with rfl | hc
    · decide
    · obtain ⟨-, hblank, hquote, hopen, hclose⟩ := h c hc
      simp [Text.needsQuotes, hblank, hquote, hopen, hclose]

namespace Predicate

/-- If the question is put under a name of the user's, that name is plain. -/
def IsPlain : Predicate → Prop
  | .structured name _ => IsPlainName name
  | _ => True

theorem isBareField_written {p : Predicate} (h : p.IsPlain) : IsBareField p.written.1 := by
  have htext : ∀ field : TextField, IsBareField field.searchName := by
    intro field
    cases field <;> decide
  have haddress : ∀ sender recipient cc,
      IsBareField (AddressFields.mk sender recipient cc).searchName := by decide
  have hflag : ∀ flag, IsBareField (TagTarget.flag flag).written.1 := by
    intro flag
    cases flag <;> decide
  have hdate : ∀ field : DateField, IsBareField field.searchName := by
    intro field
    cases field <;> decide
  have hsize : ∀ field : SizeField, IsBareField field.searchName := by
    intro field
    cases field <;> decide
  have hcount : ∀ field : CountField, IsBareField field.searchName := by
    intro field
    cases field <;> decide
  have hcolumn : ∀ column : StringColumn, IsBareField column.searchName := by
    intro column
    cases column <;> decide
  have hfolder : ∀ byId deep, IsBareField (folderSearchName byId deep) := by decide
  have hlocality : ∀ l : Locality, IsBareField l.written.1 := by
    intro l
    cases l <;> decide
  cases p with
  | text field body quick => exact htext field
  | contact body => exact (by decide : IsBareField "contact")
  | domain field name => exact htext field
  | structured name value => exact IsPlainName.isBareField h
  | address fields body => exact haddress fields.sender fields.recipient fields.cc
  | me fields => exact (by decide : IsBareField "is")
  | tag target =>
    cases target with
    | named name => exact (by decide : IsBareField "tag")
    | flag flag => exact hflag flag
  | term field word => exact htext field
  | date field text literal => exact hdate field
  | size field text literal => exact hsize field
  | count field text literal => exact hcount field
  | stringRange column comparator value => exact hcolumn column
  | folder target deep =>
    cases target with
    | path path => exact hfolder false deep
    | id item path => cases path <;> exact hfolder true deep
    | locality l => exact hlocality l
  | item items => exact (by decide : IsBareField "item")
  | conversation id => exact (by decide : IsBareField "conv")

theorem delimited_written (p : Predicate) : Text.Delimited p.written.2 := by
  have hme : ∀ sender recipient cc,
      Text.IsBare (AddressFields.mk sender recipient cc).meName.toList := by decide
  have hflag : ∀ flag, Text.IsBare (TagTarget.flag flag).written.2.toList := by
    intro flag
    cases flag <;> decide
  have hlocality : ∀ l : Locality, Text.IsBare l.written.2.toList := by
    intro l
    cases l <;> decide
  cases p with
  | text field body quick => exact Text.delimited_quote (starred body quick)
  | contact body => exact Text.delimited_quote body
  | domain field name => exact Text.delimited_quote name
  | structured name value => exact Text.delimited_quoteAlways value
  | address fields body => exact Text.delimited_quote body
  | me fields => exact Text.delimited_bare (hme fields.sender fields.recipient fields.cc)
  | tag target =>
    cases target with
    | named name => exact Text.delimited_quote name
    | flag flag => exact Text.delimited_bare (hflag flag)
  | term field word => exact Text.delimited_quote word
  | date field text literal => exact Text.delimited_quote text
  | size field text literal => exact Text.delimited_quote text
  | count field text literal => exact Text.delimited_quote text
  | stringRange column comparator value => exact Text.delimited_quote (comparator.sign ++ value)
  | folder target deep =>
    cases target with
    | path path => exact Text.delimited_quote path
    | id item path =>
      cases path <;> simp only [written, FolderTarget.written, Text.delimited_quote]
    | locality l => exact Text.delimited_bare (hlocality l)
  | item items =>
    cases items with
    | all => exact Text.delimited_bare (s := "all") (by decide)
    | nothing => exact Text.delimited_bare (s := "none") (by decide)
    | ids ids => exact Text.delimited_bare fun c hc => needsQuotes_ids_text hc
  | conversation id =>
    exact Text.delimited_bare fun c hc => (ItemId.not_mem_alphabet c (ItemId.mem_text hc)).1

end Predicate

/-! ## Questions -/

inductive IsQuestionText : String → Prop
  | intro (modifier : Modifier) {field value : String} :
      IsBareField field → Text.Delimited value →
      IsQuestionText (modifier.sign ++ (field ++ ":" ++ value))

/-- Built-in questions have names of their own, and the other ones are written by their predicate. -/
theorem Node.isQuestionText_write {node : Node} (hplain : node.predicate.IsPlain)
    (hbuiltin : ∀ name, node.builtin = some name → ∃ builtin ∈ Builtin.all, builtin.name = name) :
    IsQuestionText node.write := by
  have hbare : ∀ builtin ∈ Builtin.all, Text.IsBare builtin.name.toList := by decide +kernel
  cases hname : node.builtin with
  | some name =>
    obtain ⟨builtin, hmem, rfl⟩ := hbuiltin name hname
    rw [Node.write_of_builtin hname]
    exact .intro node.modifier (by decide) (Text.delimited_bare (hbare builtin hmem))
  | none =>
    obtain ⟨sign, hsign, -⟩ := node.exists_sign
    rw [Node.write, hname, hsign]
    exact .intro sign (Predicate.isBareField_written hplain) node.predicate.delimited_written

namespace Question

/-- What follows the question at the front of a text. -/
def skip (cs : List Char) : Option (List Char) := do
  let (_, rest) ← Text.breakAt (· == ':') (takeSign cs).2
  let (_, rest) ← Text.readValue rest
  return rest

theorem skip_append {text : String} (h : IsQuestionText text) {rest : List Char}
    (hrest : Text.Ends rest) : skip (text.toList ++ rest) = some rest := by
  obtain ⟨modifier, hfield, value, hvalue⟩ := h
  rw [toList_question, List.append_assoc, List.append_assoc, List.cons_append, skip,
    takeSign_field modifier hfield.toIsFieldName]
  simp only [breakAt_field hfield.toIsFieldName, hvalue rest hrest, Option.bind_eq_bind,
    Option.bind_some]
  rfl

end Question

end Sift
