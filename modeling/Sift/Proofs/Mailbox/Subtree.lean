/-
  Sift.Proofs.Mailbox.Subtree — the folders beneath a folder, and the order they are listed in.

  `Mailbox.beneath` goes down no further than as many levels as there are folders. A line of descent
  (`Descent`) in which no folder is its own ancestor has each folder once, so nothing lies deeper.

  - `mem_beneath_iff`: the list is the subtree.
  - `pairwise_beneath`: it is in depth-first order, the children of a folder by ascending id.
    `Precedes` says of two folders, without the list, which of them that order has first, and
    `Precedes.asymm` that it is never both.
  - `mem_subtree_iff` / `pairwise_subtree`: the same with the folder itself in front.
-/

import Mathlib.Data.List.Nodup
import Sift.Mailbox.Ancestry
import Sift.Proofs.Mailbox.Lookup

namespace Sift.Mailbox

variable {mailbox : Mailbox}

/-! ## Folders of a table -/

theorem eq_of_id_eq {f g : Folder} (hf : f ∈ mailbox.folders) (hg : g ∈ mailbox.folders)
    (h : f.id = g.id) : f = g := by
  have hnodup : (mailbox.folders.map (·.id)).Nodup := by
    rw [List.Nodup, List.pairwise_map]
    exact mailbox.table.ascending.imp Int.ne_of_lt
  exact List.inj_on_of_nodup_map hnodup hf hg h

theorem folderById_id {f : Folder} (h : f ∈ mailbox.folders) : mailbox.folderById f.id = .ok f := by
  unfold folderById FolderTable.get?
  cases hfound : mailbox.table.folders.find? (·.id == f.id) with
  | none =>
    have := List.find?_eq_none.1 hfound f h
    simp at this
  | some g =>
    have hid : g.id = f.id := by simpa using List.find?_some hfound
    rw [eq_of_id_eq (List.mem_of_find?_eq_some hfound) h hid]

theorem mem_children {id : FolderId} {f : Folder} :
    f ∈ mailbox.children id ↔ f ∈ mailbox.folders ∧ f.parent = some id := by
  simp [children]

theorem pairwise_children (mailbox : Mailbox) (id : FolderId) :
    (mailbox.children id).Pairwise (·.id < ·.id) :=
  mailbox.table.ascending.filter _

/-! ## Ancestors -/

theorem Beneath.mem {top : FolderId} {f : Folder} (h : mailbox.Beneath top f) :
    f ∈ mailbox.folders := by
  cases h with
  | child hf _ => exact hf
  | deeper _ hf _ => exact hf

theorem Within.mem {top : FolderId} {f : Folder} (h : mailbox.Within top f) :
    f ∈ mailbox.folders := by
  rcases h with ⟨hf, -⟩ | h
  · exact hf
  · exact h.mem

theorem within_id {f : Folder} (h : f ∈ mailbox.folders) : mailbox.Within f.id f := .inl ⟨h, rfl⟩

theorem beneath_of_mem_children {top : FolderId} {f : Folder} (h : f ∈ mailbox.children top) :
    mailbox.Beneath top f := by
  obtain ⟨hf, hp⟩ := mem_children.1 h
  exact .child hf hp

theorem Beneath.trans {top : FolderId} {f g : Folder} (h : mailbox.Beneath top f)
    (h' : mailbox.Beneath f.id g) : mailbox.Beneath top g := by
  induction h' with
  | child hg hp => exact .deeper h hg hp
  | deeper _ hg hp ih => exact .deeper ih hg hp

theorem Beneath.trans_within {top : FolderId} {f g : Folder} (h : mailbox.Beneath top f)
    (h' : mailbox.Within f.id g) : mailbox.Beneath top g := by
  rcases h' with ⟨hg, hid⟩ | h'
  · rw [eq_of_id_eq hg h.mem hid]
    exact h
  · exact h.trans h'

theorem Within.trans_beneath {top : FolderId} {f g : Folder} (h : mailbox.Within top f)
    (h' : mailbox.Beneath f.id g) : mailbox.Beneath top g := by
  rcases h with ⟨-, rfl⟩ | h
  · exact h'
  · exact h.trans h'

/-- Whatever a folder lies beneath, its parent lies within. -/
theorem Beneath.within_parent {top : FolderId} {f g : Folder} (h : mailbox.Beneath top f)
    (hg : g ∈ mailbox.folders) (hp : f.parent = some g.id) : mailbox.Within top g := by
  cases h with
  | child _ htop =>
    rw [hp] at htop
    cases htop
    exact within_id hg
  | @deeper f' _ hf' _ hf =>
    rw [hp] at hf
    have hid : g.id = f'.id := Option.some.inj hf
    rw [eq_of_id_eq hg hf'.mem hid]
    exact .inr hf'

theorem Beneath.sibling {top p : FolderId} {f g : Folder} (h : mailbox.Beneath top f)
    (hf : f ∈ mailbox.children p) (hg : g ∈ mailbox.children p) : mailbox.Beneath top g := by
  obtain ⟨hmem, hgp⟩ := mem_children.1 hg
  have hparent : g.parent = f.parent := hgp.trans (mem_children.1 hf).2.symm
  cases h with
  | child _ hp => exact .child hmem (hparent.trans hp)
  | deeper hup _ hp => exact .deeper hup hmem (hparent.trans hp)

theorem Within.eq_or_beneath {a b : Folder} (ha : a ∈ mailbox.folders)
    (h : mailbox.Within a.id b) : a = b ∨ mailbox.Beneath a.id b := by
  rcases h with ⟨hb, hid⟩ | h
  · exact .inl (eq_of_id_eq ha hb hid.symm)
  · exact .inr h

/-- The ancestors of a folder stand in one line. -/
theorem Within.trichotomy {a b f : Folder} (ha : a ∈ mailbox.folders) (hb : b ∈ mailbox.folders)
    (h : mailbox.Within a.id f) (h' : mailbox.Within b.id f) :
    a = b ∨ mailbox.Beneath a.id b ∨ mailbox.Beneath b.id a := by
  rcases h.eq_or_beneath ha with rfl | h
  · rcases h'.eq_or_beneath hb with rfl | h'
    · exact .inl rfl
    · exact .inr (.inr h')
  induction h with
  | child hf hp =>
    rcases h'.eq_or_beneath hb with rfl | h'
    · exact .inr (.inl (.child hf hp))
    · rcases (h'.within_parent ha hp).eq_or_beneath hb with rfl | h'
      · exact .inl rfl
      · exact .inr (.inr h')
  | deeper hup hf hp ih =>
    rcases h'.eq_or_beneath hb with rfl | h'
    · exact .inr (.inl (.deeper hup hf hp))
    · exact ih (.inr hup) (h'.within_parent hup.mem hp)

theorem Acyclic.eq_of_within_sibling (hacyclic : mailbox.Acyclic) {p : FolderId} {a b f : Folder}
    (ha : a ∈ mailbox.children p) (hb : b ∈ mailbox.children p) (h : mailbox.Within a.id f)
    (h' : mailbox.Within b.id f) : a = b := by
  have hma := (mem_children.1 ha).1
  have hmb := (mem_children.1 hb).1
  -- A folder that lies beneath its sibling lies beneath itself.
  rcases Within.trichotomy hma hmb h h' with heq | hab | hba
  · exact heq
  · exact absurd (hab.sibling hb ha) (hacyclic a)
  · exact absurd (hba.sibling ha hb) (hacyclic b)

/-- Where every folder has a greater id than its parent, no folder is its own ancestor. -/
theorem acyclic_of_parent_lt
    (h : ∀ f ∈ mailbox.folders, ∀ p, f.parent = some p → p < f.id) : mailbox.Acyclic := by
  have hlt : ∀ {top : FolderId} {f : Folder}, mailbox.Beneath top f → top < f.id := by
    intro top f hb
    induction hb with
    | child hf hp => exact h _ hf _ hp
    | deeper _ hg hp ih => exact Int.lt_trans ih (h _ hg _ hp)
  intro f hf
  exact Int.lt_irrefl f.id (hlt hf)

theorem acyclic_of_all (h : (mailbox.folders.all fun f => f.parent.all (· < f.id)) = true) :
    mailbox.Acyclic := by
  refine acyclic_of_parent_lt fun f hf p hp => ?_
  simpa [hp] using List.all_eq_true.1 h f hf

/-! ## Lines of descent -/

/-- Each folder is a child of the one before it, and the first is a child of the folder with the
    id `top`. -/
inductive Descent (mailbox : Mailbox) : FolderId → List Folder → Prop
  | nil (top : FolderId) : Descent mailbox top []
  | cons {top : FolderId} {f : Folder} {line : List Folder} : f ∈ mailbox.children top →
      Descent mailbox f.id line → Descent mailbox top (f :: line)

theorem Descent.beneath {top : FolderId} {line : List Folder} (h : mailbox.Descent top line) :
    ∀ f ∈ line, mailbox.Beneath top f := by
  induction h with
  | nil => simp
  | cons hc _ ih =>
    intro f hf
    rcases List.mem_cons.1 hf with rfl | hf
    · exact beneath_of_mem_children hc
    · exact (beneath_of_mem_children hc).trans (ih f hf)

theorem Descent.snoc {top : FolderId} {line : List Folder} {f g : Folder}
    (h : mailbox.Descent top (line ++ [f])) (hg : g ∈ mailbox.children f.id) :
    mailbox.Descent top (line ++ [f] ++ [g]) := by
  induction line generalizing top with
  | nil =>
    cases h with
    | cons hc _ => exact .cons hc (.cons hg (.nil g.id))
  | cons c line ih =>
    cases h with
    | cons hc hline => exact .cons hc (ih hline)

theorem Beneath.exists_descent {top : FolderId} {f : Folder} (h : mailbox.Beneath top f) :
    ∃ line, mailbox.Descent top (line ++ [f]) := by
  induction h with
  | child hf hp => exact ⟨[], .cons (mem_children.2 ⟨hf, hp⟩) (.nil _)⟩
  | deeper _ hg hp ih =>
    obtain ⟨line, hline⟩ := ih
    exact ⟨_, hline.snoc (mem_children.2 ⟨hg, hp⟩)⟩

theorem Descent.nodup (hacyclic : mailbox.Acyclic) {top : FolderId} {line : List Folder}
    (h : mailbox.Descent top line) : line.Nodup := by
  induction h with
  | nil => exact List.nodup_nil
  | cons _ hline ih => exact List.nodup_cons.2 ⟨fun hf => hacyclic _ (hline.beneath _ hf), ih⟩

theorem Descent.length_le (hacyclic : mailbox.Acyclic) {top : FolderId} {line : List Folder}
    (h : mailbox.Descent top line) : line.length ≤ mailbox.folders.length :=
  (h.nodup hacyclic).length_le_of_subset fun f hf => (h.beneath f hf).mem

/-! ## The list of a subtree -/

theorem mem_beneath_succ {depth : Nat} {top : FolderId} {f : Folder} :
    f ∈ mailbox.beneath (depth + 1) top ↔
      ∃ c ∈ mailbox.children top, f = c ∨ f ∈ mailbox.beneath depth c.id := by
  simp [Mailbox.beneath]

theorem beneath_of_mem {depth : Nat} {top : FolderId} {f : Folder}
    (h : f ∈ mailbox.beneath depth top) : mailbox.Beneath top f := by
  induction depth generalizing top with
  | zero => simp [Mailbox.beneath] at h
  | succ depth ih =>
    obtain ⟨c, hc, rfl | hf⟩ := mem_beneath_succ.1 h
    · exact beneath_of_mem_children hc
    · exact (beneath_of_mem_children hc).trans (ih hf)

theorem Descent.mem_beneath {top : FolderId} {line : List Folder} {f : Folder} {depth : Nat}
    (h : mailbox.Descent top (line ++ [f])) (hdepth : (line ++ [f]).length ≤ depth) :
    f ∈ mailbox.beneath depth top := by
  induction line generalizing top depth with
  | nil =>
    cases depth with
    | zero => simp at hdepth
    | succ depth =>
      cases h with
      | cons hc _ => exact mem_beneath_succ.2 ⟨f, hc, .inl rfl⟩
  | cons c line ih =>
    cases depth with
    | zero => simp at hdepth
    | succ depth =>
      cases h with
      | cons hc hline =>
        have hf := ih hline (Nat.le_of_succ_le_succ hdepth)
        exact mem_beneath_succ.2 ⟨c, hc, .inr hf⟩

theorem mem_beneath_iff (hacyclic : mailbox.Acyclic) {top : FolderId} {f : Folder} :
    f ∈ mailbox.beneath mailbox.folders.length top ↔ mailbox.Beneath top f := by
  constructor
  · exact beneath_of_mem
  · intro h
    obtain ⟨line, hline⟩ := h.exists_descent
    exact hline.mem_beneath (hline.length_le hacyclic)

/-! ## Depth-first order -/

/-- One folder lies beneath the other, or where the lines of the two part, the one's has the
    smaller id. -/
def Precedes (mailbox : Mailbox) (f g : Folder) : Prop :=
  mailbox.Beneath f.id g ∨
    ∃ p, ∃ a ∈ mailbox.children p, ∃ b ∈ mailbox.children p, a.id < b.id ∧
      mailbox.Within a.id f ∧ mailbox.Within b.id g

/-- The subtrees of two siblings lie one after the other, so the order of the siblings holds for all
    that is in them. -/
theorem pairwise_beneath (mailbox : Mailbox) (depth : Nat) (top : FolderId) :
    (mailbox.beneath depth top).Pairwise mailbox.Precedes := by
  induction depth generalizing top with
  | zero => exact List.Pairwise.nil
  | succ depth ih =>
    have hwithin : ∀ c ∈ mailbox.children top, ∀ f ∈ c :: mailbox.beneath depth c.id,
        mailbox.Within c.id f := by
      intro c hc f hf
      rcases List.mem_cons.1 hf with rfl | hf
      · exact within_id (mem_children.1 hc).1
      · exact .inr (beneath_of_mem hf)
    rw [Mailbox.beneath, List.pairwise_flatMap]
    constructor
    · intro c _
      exact List.pairwise_cons.2 ⟨fun f hf => .inl (beneath_of_mem hf), ih c.id⟩
    · refine (pairwise_children mailbox top).imp_of_mem fun {a b} ha hb hlt f hf g hg => ?_
      exact .inr ⟨top, a, ha, b, hb, hlt, hwithin a ha f hf, hwithin b hb g hg⟩

/-- Whatever parts the lines of two folders one way cannot part them the other way too: of the two
    pairs of siblings, one would have to lie inside one half of the other. -/
theorem Precedes.asymm (hacyclic : mailbox.Acyclic) {f g : Folder} (h : mailbox.Precedes f g) :
    ¬ mailbox.Precedes g f := by
  rintro (hgf | ⟨q, c, hc, d, hd, hcd, hcg, hdf⟩)
  · rcases h with hfg | ⟨p, a, ha, b, hb, hab, haf, hbg⟩
    · exact hacyclic f (hfg.trans hgf)
    · have hbf : mailbox.Within b.id f := .inr (hbg.trans_beneath hgf)
      rw [hacyclic.eq_of_within_sibling ha hb haf hbf] at hab
      exact Int.lt_irrefl b.id hab
  · rcases h with hfg | ⟨p, a, ha, b, hb, hab, haf, hbg⟩
    · have hdg : mailbox.Within d.id g := .inr (hdf.trans_beneath hfg)
      rw [hacyclic.eq_of_within_sibling hc hd hcg hdg] at hcd
      exact Int.lt_irrefl d.id hcd
    · obtain ⟨hma, hpa⟩ := mem_children.1 ha
      obtain ⟨hmd, hpd⟩ := mem_children.1 hd
      rcases Within.trichotomy hma hmd haf hdf with rfl | had | hda
      · have hpq : p = q := Option.some.inj (hpa.symm.trans hpd)
        subst hpq
        rw [hacyclic.eq_of_within_sibling hc hb hcg hbg] at hcd
        exact Int.lt_irrefl a.id (Int.lt_trans hab hcd)
      · have hag : mailbox.Within a.id g := .inr ((had.sibling hd hc).trans_within hcg)
        rw [hacyclic.eq_of_within_sibling ha hb hag hbg] at hab
        exact Int.lt_irrefl b.id hab
      · have hdg : mailbox.Within d.id g := .inr ((hda.sibling ha hb).trans_within hbg)
        rw [hacyclic.eq_of_within_sibling hc hd hcg hdg] at hcd
        exact Int.lt_irrefl d.id hcd

/-! ## With the folder itself -/

/-- A folder and what is beneath it, as `Mailbox.hierarchy` lists them. -/
def subtree (mailbox : Mailbox) (folder : Folder) : List Folder :=
  folder :: mailbox.beneath mailbox.folders.length folder.id

theorem hierarchy_id {folder : Folder} (h : folder ∈ mailbox.folders) :
    mailbox.hierarchy folder.id = .ok (mailbox.subtree folder) := by
  rw [hierarchy, folderById_id h]
  rfl

theorem mem_subtree_iff (hacyclic : mailbox.Acyclic) {folder f : Folder}
    (h : folder ∈ mailbox.folders) :
    f ∈ mailbox.subtree folder ↔ mailbox.Within folder.id f := by
  rw [subtree, List.mem_cons, mem_beneath_iff hacyclic]
  constructor
  · rintro (rfl | hf)
    · exact within_id h
    · exact .inr hf
  · intro hf
    rcases hf.eq_or_beneath h with rfl | hf
    · exact .inl rfl
    · exact .inr hf

theorem pairwise_subtree (mailbox : Mailbox) (folder : Folder) :
    (mailbox.subtree folder).Pairwise mailbox.Precedes :=
  List.pairwise_cons.2 ⟨fun _ hf => .inl (beneath_of_mem hf), pairwise_beneath mailbox _ folder.id⟩

theorem nodup_subtree (hacyclic : mailbox.Acyclic) (folder : Folder) :
    (mailbox.subtree folder).Nodup := by
  apply (mailbox.pairwise_subtree folder).imp
  intro f g hprecedes heq
  rw [heq] at hprecedes
  exact hprecedes.asymm hacyclic hprecedes

end Sift.Mailbox
