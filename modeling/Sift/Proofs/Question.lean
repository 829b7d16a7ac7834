/-
  Sift.Proofs.Question — a question that is written is taken apart into what it was written from.

  - `ofText_written`: the sign, the field and the value, if the field could not be taken for more.
  - `Searcher.reads_named`: so what stands in the table of search fields is read by its reader.
-/

import Sift.Proofs.Text.Quoted
import Sift.Proofs.Text.Trim
import Sift.Question

namespace Sift

/-! ## Signs and fields -/

/-- A field in which no colon ends it early and that does not begin with a sign. -/
structure IsFieldName (field : String) : Prop where
  colon : ':' ∉ field.toList
  plus : field.toList.head? ≠ some '+'
  minus : field.toList.head? ≠ some '-'

instance (field : String) : Decidable (IsFieldName field) :=
  decidable_of_iff
    (':' ∉ field.toList ∧ field.toList.head? ≠ some '+' ∧ field.toList.head? ≠ some '-')
    ⟨fun ⟨colon, plus, minus⟩ => ⟨colon, plus, minus⟩, fun h => ⟨h.colon, h.plus, h.minus⟩⟩

namespace Question

theorem takeSign_plain {cs : List Char} (hplus : cs.head? ≠ some '+') (hminus : cs.head? ≠ some '-') :
    takeSign cs = (.plain, cs) := by
  unfold takeSign
  split
  · exact absurd rfl hplus
  · exact absurd rfl hminus
  · rfl

theorem takeSign_sign (modifier : Modifier) {cs : List Char} (hplus : cs.head? ≠ some '+')
    (hminus : cs.head? ≠ some '-') :
    takeSign (modifier.sign.toList ++ cs) = (modifier, cs) := by
  cases modifier with
  | plain => exact takeSign_plain hplus hminus
  | require => rfl
  | exclude => rfl

theorem head?_field {field : String} {c : Char} (hfield : field.toList.head? ≠ some c) (hc : c ≠ ':')
    (rest : List Char) : (field.toList ++ ':' :: rest).head? ≠ some c := by
  cases hcs : field.toList with
  | nil => simpa using Ne.symm hc
  | cons d cs => simpa [hcs] using hfield

theorem takeSign_field (modifier : Modifier) {field : String} (hfield : IsFieldName field)
    (rest : List Char) :
    takeSign (modifier.sign.toList ++ (field.toList ++ ':' :: rest)) =
      (modifier, field.toList ++ ':' :: rest) :=
  takeSign_sign modifier (head?_field hfield.plus (by decide) rest)
    (head?_field hfield.minus (by decide) rest)

theorem breakAt_field {field : String} (hfield : IsFieldName field) (rest : List Char) :
    Text.breakAt (· == ':') (field.toList ++ ':' :: rest) = some (field.toList, rest) := by
  have hcolon : ∀ c ∈ field.toList, (c == ':') = false := by
    intro c hc
    refine beq_eq_false_iff_ne.2 ?_
    rintro rfl
    exact hfield.colon hc
  exact Text.breakAt_append hcolon (beq_self_eq_true ':') rest

/-! ## Values -/

theorem valueOf_quoteAlways (s : String) : valueOf (Text.quoteAlways s).toList = some s := by
  have hread : Text.readQuoted (s.toList.flatMap Text.quotedChar ++ ['"']) = some (s.toList, []) :=
    Text.readQuoted_flatMap s.toList []
  rw [Text.toList_quoteAlways]
  simp only [Text.quotedChars, List.cons_append, valueOf, hread, String.ofList_toList]

theorem valueOf_bare {s : String} (h : s.toList.head? ≠ some '"') : valueOf s.toList = some s := by
  unfold valueOf
  split
  · next hs => exact absurd (by rw [hs]; rfl) h
  · rw [String.ofList_toList]

theorem valueOf_quote (s : String) : valueOf (Text.quote s).toList = some s := by
  rcases Text.quote_cases s with hs | ⟨hs, -, hbare⟩
  · rw [hs]
    exact valueOf_quoteAlways s
  · rw [hs]
    refine valueOf_bare fun hhead => ?_
    have hquote := hbare '"' (List.mem_of_head? hhead)
    cases hquote

/-! ## All of it -/

theorem toList_question (modifier : Modifier) (field written : String) :
    (modifier.sign ++ (field ++ ":" ++ written)).toList =
      modifier.sign.toList ++ (field.toList ++ ':' :: written.toList) := by
  simp

theorem ofText_written (modifier : Modifier) {field written value : String}
    (hfield : IsFieldName field) (hvalue : valueOf written.toList = some value) :
    ofText (modifier.sign ++ (field ++ ":" ++ written)) = some ⟨modifier, field, value⟩ := by
  rw [ofText, toList_question, takeSign_field modifier hfield]
  simp only [breakAt_field hfield, hvalue, Option.bind_eq_bind, Option.bind_some,
    String.ofList_toList]
  rfl

end Question

/-! ## Fields of the table -/

/-- What is written as this field and this value is read as that node. -/
def Searcher.Reads (searcher : Searcher) (written : String × String) (node : Node) : Prop :=
  IsFieldName written.1 ∧ ∃ value, Question.valueOf written.2.toList = some value ∧
    searcher.node written.1 value = some (.ok node)

namespace SearchField

/-- The name that a field of the table stands under. -/
def name : SearchField → String
  | standard => "text"
  | text field => field.searchName
  | contact => "contact"
  | addresses fields => fields.searchName
  | tag => "tag"
  | priority => "priority"
  | builtin => "is"
  | object => "has"
  | contentType field => field.searchName
  | date field => field.searchName
  | size field => field.searchName
  | count field => field.searchName
  | conversation => "conv"
  | items => "item"
  | folderPath deep => folderSearchName false deep
  | folderId deep => folderSearchName true deep
  | locality => "scope"
  | structured name => "#" ++ name

/-- The fields that are alone of their kind. -/
def single : List SearchField :=
  [contact, tag, priority, builtin, object, contentType .attachments, conversation, items,
    folderPath false, folderPath true, folderId false, folderId true]

/-- No name of the table is shadowed by another, or begins like a structured field. -/
theorem named_spec :
    (∀ entry ∈ named,
      entry.1 = entry.2.name ∧ ofName entry.1 = some entry.2 ∧ IsFieldName entry.1) ∧
    ∀ field ∈ single, (field.name, field) ∈ named := by
  decide +kernel

theorem ofName_name {field : SearchField} (h : (field.name, field) ∈ named) :
    ofName field.name = some field ∧ IsFieldName field.name :=
  (named_spec.1 _ h).2

theorem mem_named {field : SearchField} (h : field ∈ single) : (field.name, field) ∈ named :=
  named_spec.2 field h

/-- A field that is not structured is in the table. -/
theorem mem_named_of_ofName {name : String} {field : SearchField} (h : ofName name = some field)
    (hplain : ∀ inner, field ≠ .structured inner) : (field.name, field) ∈ named := by
  unfold ofName at h
  split at h
  · next inner _ =>
    cases h
    exact absurd rfl (hplain (String.ofList inner))
  · obtain ⟨before, after, hsplit, -⟩ := List.lookup_eq_some_iff.1 h
    have hmem : (name, field) ∈ named := hsplit ▸ List.mem_append_right _ List.mem_cons_self
    have hname : name = field.name := (named_spec.1 _ hmem).1
    exact hname ▸ hmem

end SearchField

theorem Searcher.reads_named (searcher : Searcher) (field : SearchField) {written value : String}
    {node : Node} (hfield : (field.name, field) ∈ SearchField.named)
    (hvalue : Question.valueOf written.toList = some value)
    (hread : field.read searcher value = .ok node) :
    searcher.Reads (field.name, written) node := by
  obtain ⟨hname, hplain⟩ := SearchField.ofName_name hfield
  refine ⟨hplain, value, hvalue, ?_⟩
  rw [Searcher.node, hname, Option.map_some, hread]

/-- Most readers give a predicate, which stands in its node without a sign. -/
theorem Searcher.reads_predicate (searcher : Searcher) (field : SearchField)
    (reader : String → Except Fault Predicate) {written value : String} {p : Predicate}
    (hfield : (field.name, field) ∈ SearchField.named)
    (hreader : ∀ value, field.read searcher value = (reader value).map .ofPredicate)
    (hvalue : Question.valueOf written.toList = some value) (h : reader value = .ok p) :
    searcher.Reads (field.name, written) (.ofPredicate p) := by
  refine searcher.reads_named field hfield hvalue ?_
  rw [hreader, h]
  rfl

end Sift
