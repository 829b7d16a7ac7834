/-
  Sift.Proofs.Document.Value — a JSON value has each key of an object once.

  `Json.isValue_of_tree`: what a text means is a value, whatever keys the text repeats.
-/

import Mathlib.Data.String.Basic
import Sift.Json.Basic

namespace Sift

namespace JsonTree

mutual

/-- No object has a key twice. -/
def IsValue : JsonTree → Prop
  | .array items => EachIsValue items
  | .object members => (members.map (·.1)).Nodup ∧ MembersAreValues members
  | _ => True

def EachIsValue : List JsonTree → Prop
  | [] => True
  | tree :: rest => tree.IsValue ∧ EachIsValue rest

def MembersAreValues : List (String × JsonTree) → Prop
  | [] => True
  | (_, tree) :: rest => tree.IsValue ∧ MembersAreValues rest

end

end JsonTree

/-! ## Members in order -/

section

variable {α : Type} {key : String} {value : α} {members : List (String × α)}

theorem mem_putMember {member : String × α} (h : member ∈ putMember key value members) :
    member = (key, value) ∨ member ∈ members := by
  induction members with
  | nil => exact .inl (List.mem_singleton.1 h)
  | cons first rest ih =>
    obtain ⟨k, v⟩ := first
    unfold putMember at h
    split at h
    · exact List.mem_cons.1 h
    · split at h
      · exact (List.mem_cons.1 h).imp_right (List.mem_cons_of_mem _)
      · rcases List.mem_cons.1 h with rfl | h
        · exact .inr List.mem_cons_self
        · exact (ih h).imp_right (List.mem_cons_of_mem _)

theorem pairwise_putMember (h : members.Pairwise (·.1 < ·.1)) :
    (putMember key value members).Pairwise (·.1 < ·.1) := by
  induction members with
  | nil => exact List.pairwise_singleton _ _
  | cons first rest ih =>
    obtain ⟨k, v⟩ := first
    obtain ⟨hfirst, hrest⟩ := List.pairwise_cons.1 h
    unfold putMember
    by_cases hlt : key < k
    · rw [if_pos hlt]
      refine List.pairwise_cons.2 ⟨?_, h⟩
      intro member hmember
      rcases List.mem_cons.1 hmember with rfl | hmember
      · exact hlt
      · exact hlt.trans (hfirst member hmember)
    rw [if_neg hlt]
    by_cases heq : key = k
    · rw [if_pos heq, heq]
      exact List.pairwise_cons.2 ⟨hfirst, hrest⟩
    rw [if_neg heq]
    refine List.pairwise_cons.2 ⟨?_, ih hrest⟩
    intro member hmember
    rcases mem_putMember hmember with rfl | hmember
    · exact lt_of_le_of_ne (not_lt.1 hlt) (Ne.symm heq)
    · exact hfirst member hmember

end

/-! ## Trees that a text means -/

theorem JsonTree.membersAreValues_iff {members : List (String × JsonTree)} :
    MembersAreValues members ↔ ∀ member ∈ members, member.2.IsValue := by
  induction members with
  | nil => simp [MembersAreValues]
  | cons member rest ih => rw [MembersAreValues, ih, List.forall_mem_cons]

/-- Members that are put in one after the other, the last for a key staying. -/
theorem isValue_of_members {pairs done : List (String × JsonTree)}
    (hpairs : ∀ pair ∈ pairs, pair.2.IsValue) (hdone : ∀ member ∈ done, member.2.IsValue)
    (hkeys : done.Pairwise (·.1 < ·.1)) :
    (JsonTree.object (pairs.foldl (fun done (key, value) => putMember key value done) done)).IsValue := by
  induction pairs generalizing done with
  | nil =>
    refine ⟨?_, JsonTree.membersAreValues_iff.2 hdone⟩
    exact (List.pairwise_map.2 hkeys).imp fun h => h.ne
  | cons pair pairs ih =>
    obtain ⟨key, value⟩ := pair
    obtain ⟨hvalue, hpairs⟩ := List.forall_mem_cons.1 hpairs
    refine ih hpairs ?_ (pairwise_putMember hkeys)
    intro member hmember
    rcases mem_putMember hmember with rfl | hmember
    · exact hvalue
    · exact hdone member hmember

namespace Json

mutual

theorem isValue_of_tree : (json : Json) → {depth : Nat} → {tree : JsonTree} →
    json.tree depth = some tree → tree.IsValue
  | .null, _, _, h => by
    cases h
    trivial
  | .bool _, _, _, h => by
    cases h
    trivial
  | .whole _, _, _, h => by
    cases h
    trivial
  | .real tooLarge, _, _, h => by
    cases tooLarge with
    | false =>
      cases h
      trivial
    | true => cases h
  | .string _, _, _, h => by
    obtain ⟨text, -, rfl⟩ := Option.map_eq_some_iff.1 h
    trivial
  | .array items, depth, _, h => by
    cases depth with
    | zero => cases h
    | succ depth =>
      obtain ⟨trees, htrees, rfl⟩ := Option.map_eq_some_iff.1 h
      exact isValue_of_trees items htrees
  | .object members, depth, _, h => by
    cases depth with
    | zero => cases h
    | succ depth =>
      obtain ⟨pairs, hpairs, rfl⟩ := Option.map_eq_some_iff.1 h
      exact isValue_of_members (isValue_of_treeMembers members hpairs) (by simp) .nil

theorem isValue_of_trees : (items : List Json) → {depth : Nat} → {trees : List JsonTree} →
    Json.trees depth items = some trees → JsonTree.EachIsValue trees
  | [], _, _, h => by
    cases h
    trivial
  | item :: rest, _, _, h => by
    obtain ⟨tree, htree, h⟩ := Option.bind_eq_some_iff.1 h
    obtain ⟨trees, htrees, h⟩ := Option.bind_eq_some_iff.1 h
    cases h
    exact ⟨isValue_of_tree item htree, isValue_of_trees rest htrees⟩

theorem isValue_of_treeMembers : (members : List (Option String × Json)) → {depth : Nat} →
    {pairs : List (String × JsonTree)} → treeMembers depth members = some pairs →
    ∀ pair ∈ pairs, pair.2.IsValue
  | [], _, _, h => by
    cases h
    simp
  | (key, value) :: rest, _, _, h => by
    obtain ⟨key, -, h⟩ := Option.bind_eq_some_iff.1 h
    obtain ⟨tree, htree, h⟩ := Option.bind_eq_some_iff.1 h
    obtain ⟨pairs, hpairs, h⟩ := Option.bind_eq_some_iff.1 h
    cases h
    exact List.forall_mem_cons.2 ⟨isValue_of_tree value htree, isValue_of_treeMembers rest hpairs⟩

end

end Json

end Sift
