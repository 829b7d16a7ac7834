/-
  Sift.Proofs.Reread.Node — a node that is written is read as a node that compiles the same.

  Three things come apart when a node is written. Its kind: a locality comes back as a built-in
  question, or as a set of no items (`rereads_locality`); every other predicate comes back as itself.
  Its truth: what is read is positive, and the sign says the rest (`Node.exists_sign`). Its origin: a
  built-in question is written by its name and looked up again, so its truth is the built-in one
  (`reads_builtin`). `Searcher.node_rereads` puts them together.

  `Searcher.Legible` is what a written question cannot say.
-/

import Sift.Proofs.Reread.Item
import Sift.Proofs.Reread.Word

namespace Sift

/-! ## Kinds -/

/-- What the predicate is written as is read as a positive question that compiles the same. -/
def Searcher.Rereads (searcher : Searcher) (p : Predicate) : Prop :=
  ∃ node, searcher.Reads p.written node ∧ node.truth = true ∧
    ∀ mailbox settings truth,
      node.predicate.compile mailbox settings truth = p.compile mailbox settings truth

/-- A predicate that is read as itself. -/
theorem Searcher.Reads.rereads {searcher : Searcher} {p : Predicate}
    (h : searcher.Reads p.written (.ofPredicate p)) : searcher.Rereads p :=
  ⟨.ofPredicate p, h, rfl, fun _ _ _ => rfl⟩

theorem read_builtin : ∀ builtin ∈ Builtin.all,
    Builtin.read builtin.name = .ok builtin.node ∧ builtin.name.toList.head? ≠ some '"' := by
  decide +kernel

theorem reads_builtin (searcher : Searcher) {builtin : Builtin} (h : builtin ∈ Builtin.all) :
    searcher.Reads ("is", builtin.name) builtin.node := by
  obtain ⟨hread, hbare⟩ := read_builtin builtin h
  exact searcher.reads_named .builtin (SearchField.mem_named (by decide))
    (Question.valueOf_bare hbare) hread

theorem mem_all_of_read {name : String} {node : Node} (h : Builtin.read name = .ok node) :
    ∃ builtin ∈ Builtin.all, node = builtin.node := by
  simp only [Builtin.read] at h
  split at h
  · next builtin hfind =>
    cases h
    exact ⟨builtin, List.mem_of_find?_eq_some hfind, rfl⟩
  · cases h

/-- To be nowhere is to be none of the items. -/
theorem compile_nowhere (mailbox : Mailbox) (settings : Settings) (truth : Bool) :
    (Predicate.item .nothing).compile mailbox settings truth =
      (Predicate.folder (.locality .nowhere) false).compile mailbox settings truth := by
  cases truth <;> rfl

theorem rereads_locality (searcher : Searcher) (l : Locality) :
    searcher.Rereads (.folder (.locality l) false) := by
  have hbuiltin : ∀ name l, Builtin.ofLocality name l ∈ Builtin.all →
      (Predicate.folder (.locality l) false).written = ("is", name) →
      searcher.Rereads (.folder (.locality l) false) := by
    intro name l hmem hwritten
    refine ⟨(Builtin.ofLocality name l).node, ?_, rfl, fun _ _ _ => rfl⟩
    rw [hwritten]
    exact reads_builtin searcher hmem
  cases l with
  | anywhere => exact hbuiltin "anywhere" .anywhere (by simp [Builtin.all]) rfl
  | own => exact hbuiltin "local" .own (by simp [Builtin.all]) rfl
  | foreign => exact hbuiltin "remote" .foreign (by simp [Builtin.all]) rfl
  | nowhere => exact ⟨_, Predicate.reads_nothing searcher, rfl, compile_nowhere⟩

/-! ## Fields -/

/-- What a written question says as it was put. -/
structure Searcher.Legible (searcher : Searcher) (field value : String) (p : Predicate) : Prop where
  /-- The first colon ends the name. -/
  name : ∀ name text, p = .structured name text → ':' ∉ name.toList
  /-- Blanks at the end of a path go with those at the end of the value. -/
  path : ∀ item path deep, p = .folder (.id item (some path)) deep →
    ∀ c ∈ path.toList.getLast?, Text.isBlank c = false
  /-- The item of the least conversation has a number that is not one of 32 bits. -/
  conversation : SearchField.ofName field = some .conversation →
    ∀ id, ItemId.read searcher.account value = .ok id → id.id ≠ -2147483648

namespace SearchField

/-- The text fields whose names are not those of questions of another kind. -/
theorem text_mem_named {field : TextField}
    (h : field ∉ [TextField.contact, .attachments, .type, .objects, .structured]) :
    (field.searchName, text field) ∈ named := by
  revert h
  cases field <;> decide +kernel

/-- A reader that gives a predicate is done with when the predicate is read as itself. -/
theorem rereads_of_map {searcher : Searcher} {result : Except Fault Predicate} {node : Node}
    (h : result.map Node.ofPredicate = .ok node)
    (hreads : ∀ p, result = .ok p → node = .ofPredicate p →
      searcher.Reads p.written (.ofPredicate p)) :
    ∃ p, node = .ofPredicate p ∧ searcher.Rereads p := by
  obtain ⟨p, hp, hnode⟩ := exists_of_map h
  exact ⟨p, hnode, (hreads p hp hnode).rereads⟩

/-- What a field reads is a built-in question, or a predicate that is read again. -/
theorem read_rereads {searcher : Searcher} {name value : String} {field : SearchField} {node : Node}
    (hdefault : searcher.settings.defaultField ∉
      [TextField.contact, .attachments, .type, .objects, .structured])
    (hname : ofName name = some field) (hread : field.read searcher value = .ok node)
    (hlegible : searcher.Legible name value node.predicate) :
    (∃ builtin ∈ Builtin.all, node = builtin.node) ∨
      ∃ p, node = .ofPredicate p ∧ searcher.Rereads p := by
  by_cases hbuiltin : field = .builtin
  · rw [hbuiltin, read] at hread
    exact .inl (mem_all_of_read hread)
  right
  have hnamed := mem_named_of_ofName hname
  cases field with
  | builtin => exact absurd rfl hbuiltin
  | locality =>
    rw [read] at hread
    obtain ⟨l, -, rfl⟩ := exists_of_map hread
    exact ⟨_, rfl, rereads_locality searcher l⟩
  | standard =>
    rw [read] at hread
    have hfield := text_mem_named hdefault
    exact rereads_of_map hread fun p hp _ => Predicate.reads_ofTextField searcher hfield hp
  | text field =>
    rw [read] at hread
    have hfield := hnamed (by simp)
    exact rereads_of_map hread fun p hp _ => Predicate.reads_ofTextField searcher hfield hp
  | contact =>
    rw [read] at hread
    exact rereads_of_map hread fun p hp _ => Predicate.reads_ofContact searcher hp
  | addresses fields =>
    rw [read] at hread
    have hfield := hnamed (by simp)
    exact rereads_of_map hread fun p hp _ => Predicate.reads_ofAddress searcher hfield hp
  | tag =>
    rw [read] at hread
    exact rereads_of_map hread fun p hp _ => Predicate.reads_ofTagName searcher hp
  | priority =>
    rw [read] at hread
    exact rereads_of_map hread fun p hp _ => Predicate.reads_ofPriority searcher hp
  | object =>
    rw [read] at hread
    exact rereads_of_map hread fun p hp _ => Predicate.reads_ofObject searcher hp
  | contentType field =>
    rw [read] at hread
    have hfield := hnamed (by simp)
    exact rereads_of_map hread fun p hp _ => Predicate.reads_ofContentType searcher hfield hp
  | date field =>
    rw [read] at hread
    have hfield := hnamed (by simp)
    exact rereads_of_map hread fun p hp _ => Predicate.reads_ofDate searcher hfield hp
  | size field =>
    rw [read] at hread
    have hfield := hnamed (by simp)
    exact rereads_of_map hread fun p hp _ => Predicate.reads_ofSize searcher hfield hp
  | count field =>
    rw [read] at hread
    have hfield := hnamed (by simp)
    exact rereads_of_map hread fun p hp _ => Predicate.reads_ofCount searcher hfield hp
  | conversation =>
    rw [read] at hread
    have hleast := hlegible.conversation hname
    exact rereads_of_map hread fun p hp _ => Predicate.reads_ofConversationText searcher hleast hp
  | items =>
    rw [read] at hread
    exact rereads_of_map hread fun p hp _ => Predicate.reads_ofItemList searcher hp
  | folderPath deep =>
    rw [read] at hread
    exact rereads_of_map hread fun p hp _ => Predicate.reads_ofFolderPath searcher hp
  | folderId deep =>
    rw [read] at hread
    refine rereads_of_map hread fun p hp hnode => ?_
    rw [hnode] at hlegible
    exact Predicate.reads_ofFolderId searcher hp fun item path => hlegible.path item path deep
  | structured inner =>
    rw [read] at hread
    refine rereads_of_map hread fun p hp hnode => ?_
    rw [hnode] at hlegible
    have hcolon := hlegible.name inner value (Predicate.ofStructured_eq_ok hp)
    exact Predicate.reads_ofStructured searcher hcolon hp

end SearchField

/-! ## Signs and truths -/

namespace Node

/-- The node with another sign, when another answer is wanted. -/
def put (node : Node) (modifier : Modifier) (truth : Bool) : Node :=
  { node with modifier := modifier, truth := truth }

/-- The sign that is written gives a positive node the truth of the node. -/
theorem exists_sign (node : Node) : ∃ modifier : Modifier, node.sign = modifier.sign ∧
    ∀ requested, (modifier.apply requested == true) = node.effectiveTruth requested := by
  obtain ⟨modifier, truth, builtin, p⟩ := node
  cases modifier <;> cases truth
  case plain.true => exact ⟨.plain, rfl, by intro requested; rfl⟩
  case plain.false => exact ⟨.exclude, rfl, by intro requested; cases requested <;> rfl⟩
  case require.true => exact ⟨.require, rfl, by intro requested; rfl⟩
  case require.false => exact ⟨.exclude, rfl, by intro requested; cases requested <;> rfl⟩
  case exclude.true => exact ⟨.exclude, rfl, by intro requested; rfl⟩
  case exclude.false => exact ⟨.plain, rfl, by intro requested; cases requested <;> rfl⟩

theorem write_of_builtin {node : Node} {name : String} (h : node.builtin = some name) :
    node.write = node.modifier.sign ++ ("is" ++ ":" ++ name) := by
  have hname : "is" ++ ":" = "is:" := by decide
  rw [write, h, hname, ← String.append_assoc]

end Node

theorem Builtin.write_put (builtin : Builtin) (modifier : Modifier) (truth : Bool) :
    (builtin.node.put modifier truth).write = modifier.sign ++ ("is" ++ ":" ++ builtin.name) :=
  Node.write_of_builtin rfl

/-- A sign before what is written becomes the sign of what is read. -/
theorem Searcher.Reads.question {searcher : Searcher} {written : String × String} {node : Node}
    (h : searcher.Reads written node) (modifier : Modifier) :
    ∃ question, Question.ofText (modifier.sign ++ (written.1 ++ ":" ++ written.2)) = some question ∧
      question.node searcher = some (.ok { node with modifier := modifier }) := by
  obtain ⟨hfield, value, hvalue, hnode⟩ := h
  refine ⟨_, Question.ofText_written modifier hfield hvalue, ?_⟩
  rw [Question.node, hnode]
  rfl

/-- Whatever its sign and, unless it is a built-in question, its truth, a node that a field and a
    value made is written as a question that makes a node that compiles the same. -/
theorem Searcher.node_rereads (searcher : Searcher) {field value : String} {node : Node}
    (hdefault : searcher.settings.defaultField ∉
      [TextField.contact, .attachments, .type, .objects, .structured])
    (hnode : searcher.node field value = some (.ok node))
    (hlegible : searcher.Legible field value node.predicate) (modifier : Modifier) {truth : Bool}
    (htruth : node.builtin.isSome = true → truth = node.truth) :
    ∃ question reread, Question.ofText (node.put modifier truth).write = some question ∧
      question.node searcher = some (.ok reread) ∧
      ∀ mailbox settings requested, reread.compile mailbox settings requested =
        (node.put modifier truth).compile mailbox settings requested := by
  obtain ⟨name, hname, hread⟩ := Option.map_eq_some_iff.1 hnode
  rcases SearchField.read_rereads hdefault hname hread hlegible with
    ⟨builtin, hmem, rfl⟩ | ⟨p, rfl, reread, hreads, hpositive, hcompile⟩
  · have hsame : truth = builtin.truth := htruth rfl
    obtain ⟨question, htext, hquestion⟩ := (reads_builtin searcher hmem).question modifier
    rw [← builtin.write_put modifier truth] at htext
    refine ⟨question, _, htext, hquestion, fun mailbox settings requested => ?_⟩
    rw [hsame]
    rfl
  · obtain ⟨sign, hsign, heffective⟩ := ((Node.ofPredicate p).put modifier truth).exists_sign
    obtain ⟨question, htext, hquestion⟩ := hreads.question sign
    refine ⟨question, _, ?_, hquestion, ?_⟩
    · rw [← htext, ← hsign]
      rfl
    · intro mailbox settings requested
      have hsame : Node.effectiveTruth { reread with modifier := sign } requested =
          ((Node.ofPredicate p).put modifier truth).effectiveTruth requested := by
        rw [← heffective, Node.effectiveTruth, hpositive]
      rw [Node.compile, hsame, hcompile]
      rfl

theorem virtual_conversation_rereads :
    let searcher : Searcher := ⟨⟨List.replicate 32 0, rfl⟩, .standard ⟨0, 0⟩⟩
    let node : Node := .ofPredicate (.item (.ids [⟨searcher.account, 257⟩]))
    (searcher.settings.defaultField ∉
      [TextField.contact, .attachments, .type, .objects, .structured]) ∧
    searcher.node "conv" "-257" = some (.ok node) ∧
    searcher.Legible "conv" "-257" node.predicate ∧
    ∃ question reread, Question.ofText (node.put .require false).write = some question ∧
      question.node searcher = some (.ok reread) ∧
      ∀ mailbox settings requested, reread.compile mailbox settings requested =
        (node.put .require false).compile mailbox settings requested := by
  intro searcher node
  have hdefault : searcher.settings.defaultField ∉
      [TextField.contact, .attachments, .type, .objects, .structured] := by decide
  have hnode : searcher.node "conv" "-257" = some (.ok node) := by decide +kernel
  have hread : ItemId.read searcher.account "-257" = .ok ⟨searcher.account, -257⟩ := by
    decide +kernel
  have hlegible : searcher.Legible "conv" "-257" node.predicate := by
    refine ⟨fun _ _ h => ?_, fun _ _ _ h => ?_, fun _ id hid => ?_⟩
    · cases h
    · cases h
    · rw [hread] at hid
      cases hid
      decide
  exact ⟨hdefault, hnode, hlegible,
    searcher.node_rereads hdefault hnode hlegible .require (fun h => nomatch h)⟩

end Sift
