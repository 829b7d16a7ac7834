/-
  Sift.Proofs.Mailbox.StoredPath — which stored paths are true after folders were renamed or moved.

  A folder's path is made when the folder is given, from the path that its parent has then. A folder may
  be given again, with another name or another parent. It then has a new path, and the folders beneath it
  keep theirs. `GrownUnder` remembers, for each folder, the parent as it was when the folder was given
  last, and every mailbox that has grown has such parents (`Grown.exists_under`).

  - `hasTruePath_iff`: a folder's path is its parent's path with its own name behind it exactly if that
    parent has the path now that it had then.
  - `GrownUnder.unchanged`: it has where no folder is given another path while others lie beneath it
    (`IsHarmless`).
  - `stored_paths`: both, for whatever is given as long as no folder ends up as its own ancestor.
  - `moved_folder_leaves_paths`: a folder that is moved leaves the path of the folder beneath it as it
    was.
-/

import Sift.Document.Mailbox
import Sift.Proofs.Mailbox.Growth

namespace Sift

namespace Mailbox

/-! ## Paths beneath paths -/

/-- What stands in front of the slash and the name in a path beneath that one. -/
def pathStem (path : String) : String := if path = "/" then "" else path

theorem pathBeneath_eq (path name : String) : pathBeneath path name = pathStem path ++ "/" ++ name := by
  unfold pathBeneath pathStem
  split
  · rw [String.empty_append]
  · rfl

theorem pathStem_inj {path path' : String} (hpath : path ≠ "") (hpath' : path' ≠ "") :
    pathStem path = pathStem path' ↔ path = path' := by
  unfold pathStem
  by_cases h : path = "/" <;> by_cases h' : path' = "/"
  · rw [if_pos h, if_pos h', h, h']
    exact iff_of_true rfl rfl
  · rw [if_pos h, if_neg h', h]
    exact iff_of_false hpath'.symm (Ne.symm h')
  · rw [if_neg h, if_pos h', h']
    exact iff_of_false hpath h
  · rw [if_neg h, if_neg h']

theorem pathBeneath_ne_empty (path name : String) : pathBeneath path name ≠ "" := by
  simp [pathBeneath_eq, String.append_eq_empty_iff]

theorem pathBeneath_ne_slash {name : String} (hname : name ≠ "") (path : String) :
    pathBeneath path name ≠ "/" := by
  intro heq
  have hlength := congrArg String.length heq
  rw [pathBeneath_eq, String.length_append, String.length_append] at hlength
  exact hname (String.length_eq_zero_iff.1 (by omega))

/-! ## What is remembered -/

/-- Grown from a new mailbox as in `Grown`. For each id, the folder is remembered that the folder with
    that id was last put beneath, as that one was then. -/
inductive GrownUnder (admitted : Mailbox → FolderEntry → Prop) :
    Mailbox → (FolderId → Folder) → Prop
  | new (account : AccountId) (accountName : String) :
      GrownUnder admitted (Mailbox.new account accountName) fun _ => root
  | addFolder {mailbox grown : Mailbox} {under : FolderId → Folder} {entry : FolderEntry}
      {parent : Folder} : GrownUnder admitted mailbox under → admitted mailbox entry →
      mailbox.folderById entry.parent = .ok parent →
      mailbox.addFolder entry.parent entry.id entry.name entry.kind = .ok grown →
      GrownUnder admitted grown (Function.update under entry.id parent)
  | addAlias {mailbox : Mailbox} {under : FolderId → Folder} : GrownUnder admitted mailbox under →
      (name : String) → GrownUnder admitted (mailbox.addAlias name) under
  | addTag {mailbox : Mailbox} {under : FolderId → Folder} : GrownUnder admitted mailbox under →
      (id : TagId) → (name : String) → GrownUnder admitted (mailbox.addTag id name) under

/-- The folder lies beneath that one, and its path was made from the path that one has. -/
structure StoredUnder (f upper : Folder) : Prop where
  link : f.parent = some upper.id
  path : f.path = pathBeneath upper.path f.name

variable {mailbox : Mailbox} {admitted : Mailbox → FolderEntry → Prop}
  {under : FolderId → Folder}

theorem GrownUnder.put (h : GrownUnder admitted mailbox under) (entry : FolderEntry) (parent : Folder)
    (hadmitted : admitted mailbox entry) (hparent : mailbox.folderById entry.parent = .ok parent) :
    GrownUnder admitted (mailbox.putBeneath parent entry.id entry.name entry.kind)
      (Function.update under entry.id parent) :=
  h.addFolder hadmitted hparent (addFolder_eq_ok hparent)

theorem GrownUnder.grown (h : GrownUnder admitted mailbox under) : Grown admitted mailbox := by
  induction h with
  | new account accountName => exact .new account accountName
  | addFolder _ hadmitted _ hadd ih => exact ih.addFolder hadmitted hadd
  | addAlias _ name ih => exact ih.addAlias name
  | addTag _ id name ih => exact ih.addTag id name

theorem Grown.exists_under (h : Grown admitted mailbox) : ∃ under, GrownUnder admitted mailbox under := by
  induction h with
  | new account accountName => exact ⟨_, .new account accountName⟩
  | addFolder _ hadmitted hadd ih =>
    obtain ⟨under, hunder⟩ := ih
    obtain ⟨parent, hparent, -⟩ := exists_of_bind hadd
    exact ⟨_, hunder.addFolder hadmitted hparent hadd⟩
  | addAlias _ name ih =>
    obtain ⟨under, hunder⟩ := ih
    exact ⟨under, hunder.addAlias name⟩
  | addTag _ id name ih =>
    obtain ⟨under, hunder⟩ := ih
    exact ⟨under, hunder.addTag id name⟩

/-- A mailbox that a document describes has grown from a new one by the folders in the document. -/
theorem grown_of_document {document : Document.MailboxEntry}
    (hadmitted : ∀ entry ∈ document.folders, ∀ mailbox, admitted mailbox entry)
    (h : document.mailbox = .ok mailbox) : Grown admitted mailbox := by
  have haliases : Grown admitted
      (document.aliases.foldl addAlias (.new document.account document.accountName)) :=
    List.foldlRecOn document.aliases addAlias (.new document.account document.accountName)
      fun _ hm name _ => hm.addAlias name
  obtain ⟨filled, hfilled, hk⟩ := exists_of_bind h
  cases hk
  exact List.foldlRecOn document.tags _ (haliases.addFolders hadmitted hfilled)
    fun _ hm tag _ => hm.addTag tag.id tag.name

/-! ## Paths that are stored -/

/-- Every folder but the root was stored beneath the folder remembered for it, and no path is empty. -/
structure Remembers (mailbox : Mailbox) (under : FolderId → Folder) : Prop where
  stored : ∀ f ∈ mailbox.folders, f = root ∨ StoredUnder f (under f.id) ∧ f.name ≠ ""
  nonempty : ∀ id, (under id).path ≠ ""

theorem Remembers.path_ne_empty (h : mailbox.Remembers under) {f : Folder}
    (hf : f ∈ mailbox.folders) : f.path ≠ "" := by
  rcases h.stored f hf with rfl | ⟨hstored, -⟩
  · decide
  · rw [hstored.path]
    exact pathBeneath_ne_empty _ _

theorem Remembers.path_ne_slash (h : mailbox.Remembers under) {f : Folder}
    (hf : f ∈ mailbox.folders) (hroot : f ≠ root) : f.path ≠ "/" := by
  obtain ⟨hstored, hname⟩ := (h.stored f hf).resolve_left hroot
  rw [hstored.path]
  exact pathBeneath_ne_slash hname _

theorem Remembers.putBeneath (h : mailbox.Remembers under) {parent : Folder}
    (hparent : parent ∈ mailbox.folders) (id : FolderId) {name : String} (hname : name ≠ "")
    (kind : FolderKind) :
    (mailbox.putBeneath parent id name kind).Remembers (Function.update under id parent) := by
  constructor
  · intro f hf
    rcases mem_putBeneath_iff.1 hf with rfl | ⟨hf, hid⟩
    · refine .inr ⟨?_, hname⟩
      rw [Function.update_self]
      exact ⟨rfl, rfl⟩
    · rw [Function.update_of_ne hid]
      exact h.stored f hf
  · intro known
    by_cases hid : known = id
    · subst hid
      rw [Function.update_self]
      exact h.path_ne_empty hparent
    · rw [Function.update_of_ne hid]
      exact h.nonempty known

theorem GrownUnder.remembers (h : GrownUnder admitted mailbox under)
    (hnamed : ∀ m entry, admitted m entry → entry.name ≠ "") : mailbox.Remembers under := by
  induction h with
  | new account accountName =>
    refine ⟨fun f hf => ?_, fun _ => by decide⟩
    rw [folders_new] at hf
    rcases List.mem_cons.1 hf with rfl | hf
    · exact .inl rfl
    · obtain ⟨known, hknown, rfl⟩ := List.mem_map.1 hf
      have hnames : ∀ known ∈ systemFolders, known.2 ≠ "" := by decide
      exact .inr ⟨⟨rfl, rfl⟩, hnames known hknown⟩
  | @addFolder mailbox _ _ entry parent _ hadmitted hparent hadd ih =>
    obtain rfl := Except.ok.inj ((addFolder_eq_ok hparent).symm.trans hadd)
    exact ih.putBeneath (folderById_mem hparent).1 entry.id (hnamed mailbox entry hadmitted) entry.kind
  | addAlias _ name ih => exact ⟨ih.stored, ih.nonempty⟩
  | addTag _ id name ih => exact ⟨ih.stored, ih.nonempty⟩

/-! ## Paths that are true -/

/-- The folder's path is the path of its parent, a slash and the folder's name; beneath the root it is
    just a slash and the name. -/
def HasTruePath (mailbox : Mailbox) (f : Folder) : Prop :=
  ∃ parent ∈ mailbox.folders, f.parent = some parent.id ∧
    f.path = (if parent.id = rootId then "" else parent.path) ++ "/" ++ f.name

/-- The folder with the id of `remembered` has the path that `remembered` has. -/
def KeepsPath (mailbox : Mailbox) (remembered : Folder) : Prop :=
  ∃ now ∈ mailbox.folders, now.id = remembered.id ∧ now.path = remembered.path

theorem Remembers.pathStem_eq (h : mailbox.Remembers under) (hroot : root ∈ mailbox.folders)
    {f : Folder} (hf : f ∈ mailbox.folders) :
    pathStem f.path = if f.id = rootId then "" else f.path := by
  by_cases hid : f.id = rootId
  · rw [if_pos hid, eq_of_id_eq hf hroot hid]
    decide
  · have hne : f ≠ root := by
      rintro rfl
      exact hid rfl
    rw [if_neg hid, pathStem, if_neg (h.path_ne_slash hf hne)]

theorem hasTruePath_iff (h : mailbox.Remembers under) (hroot : root ∈ mailbox.folders) {f : Folder}
    (hstored : StoredUnder f (under f.id)) :
    mailbox.HasTruePath f ↔ mailbox.KeepsPath (under f.id) := by
  have hpath : ∀ parent ∈ mailbox.folders,
      f.path = (if parent.id = rootId then "" else parent.path) ++ "/" ++ f.name ↔
        parent.path = (under f.id).path := by
    intro parent hparent
    rw [← h.pathStem_eq hroot hparent, hstored.path, pathBeneath_eq, String.append_left_inj,
      String.append_left_inj, pathStem_inj (h.nonempty f.id) (h.path_ne_empty hparent), eq_comm]
  constructor
  · rintro ⟨parent, hmem, hparent, htrue⟩
    exact ⟨parent, hmem, Option.some.inj (hparent.symm.trans hstored.link), (hpath parent hmem).1 htrue⟩
  · rintro ⟨now, hmem, hid, hkept⟩
    exact ⟨now, hmem, hid ▸ hstored.link, (hpath now hmem).2 hkept⟩

/-! ## What leaves all paths true -/

/-- The entry takes no folder's place, or that of one that nothing lies beneath, or it gives the path
    that is there. -/
def IsHarmless (mailbox : Mailbox) (entry : FolderEntry) : Prop :=
  ∀ replaced ∈ mailbox.folders, replaced.id = entry.id → ∀ parent ∈ mailbox.folders,
    parent.id = entry.parent → mailbox.children entry.id = [] ∨
      replaced.path = pathBeneath parent.path entry.name

instance (mailbox : Mailbox) (entry : FolderEntry) : Decidable (mailbox.IsHarmless entry) :=
  inferInstanceAs (Decidable (∀ replaced ∈ mailbox.folders, replaced.id = entry.id →
    ∀ parent ∈ mailbox.folders, parent.id = entry.parent → mailbox.children entry.id = [] ∨
      replaced.path = pathBeneath parent.path entry.name))

/-- Between two folders, the upper has the path that the lower was stored with. -/
def Unchanged (mailbox : Mailbox) (under : FolderId → Folder) : Prop :=
  ∀ f ∈ mailbox.folders, ∀ parent ∈ mailbox.folders, f.parent = some parent.id → parent.id ≠ f.id →
    parent.path = (under f.id).path

theorem Unchanged.putBeneath (h : mailbox.Unchanged under) (hrooted : mailbox.Rooted)
    {parent : Folder} (hparent : parent ∈ mailbox.folders) {entry : FolderEntry}
    (hid : parent.id = entry.parent) (hharmless : mailbox.IsHarmless entry) :
    (mailbox.putBeneath parent entry.id entry.name entry.kind).Unchanged
      (Function.update under entry.id parent) := by
  intro f hf upper hupper hlink hne
  rcases mem_putBeneath_iff.1 hf with rfl | ⟨hf, hfid⟩
  · rw [Function.update_self]
    rcases mem_putBeneath_iff.1 hupper with rfl | ⟨hupper, -⟩
    · exact absurd rfl hne
    · rw [eq_of_id_eq hupper hparent (Option.some.inj hlink).symm]
  · rw [Function.update_of_ne hfid]
    rcases mem_putBeneath_iff.1 hupper with rfl | ⟨hupper, -⟩
    · -- The upper one was given just now, and the lower one lay beneath it before.
      obtain ⟨replaced, hreplaced, hreplacedId⟩ := hrooted.parent f hf entry.id hlink
      rcases hharmless replaced hreplaced hreplacedId parent hparent hid with hnone | hpath
      · have hmem : f ∈ mailbox.children entry.id := mem_children.2 ⟨hf, hlink⟩
        rw [hnone] at hmem
        cases hmem
      · have hkept := h f hf replaced hreplaced (hreplacedId ▸ hlink) (hreplacedId ▸ hne)
        exact hpath.symm.trans hkept
    · exact h f hf upper hupper hlink hne

theorem GrownUnder.unchanged (h : GrownUnder admitted mailbox under)
    (hharmless : ∀ m entry, admitted m entry → m.IsHarmless entry) : mailbox.Unchanged under := by
  induction h with
  | new account accountName =>
    intro f hf upper hupper hlink _
    have hroot := root_mem_new account accountName
    rw [folders_new] at hf
    rcases List.mem_cons.1 hf with rfl | hf
    · cases hlink
    · obtain ⟨known, -, rfl⟩ := List.mem_map.1 hf
      rw [eq_of_id_eq hupper hroot (Option.some.inj hlink).symm]
  | @addFolder mailbox _ _ entry parent hgrown hadmitted hparent hadd ih =>
    obtain rfl := Except.ok.inj ((addFolder_eq_ok hparent).symm.trans hadd)
    obtain ⟨hmem, hid⟩ := folderById_mem hparent
    exact ih.putBeneath hgrown.grown.rooted hmem hid (hharmless mailbox entry hadmitted)
  | addAlias _ name ih => exact ih
  | addTag _ id name ih => exact ih

/-- What the paths in a mailbox tell of the parents that are remembered. -/
structure StoresPaths (admitted : Mailbox → FolderEntry → Prop) (mailbox : Mailbox)
    (under : FolderId → Folder) : Prop where
  stored : ∀ f ∈ mailbox.folders, f ≠ root → StoredUnder f (under f.id)
  /-- A path is true if the parent's is what it was, and not otherwise. -/
  true_iff : ∀ f ∈ mailbox.folders, f ≠ root →
    (mailbox.HasTruePath f ↔ mailbox.KeepsPath (under f.id))
  all_true : (∀ m entry, admitted m entry → m.IsHarmless entry) →
    ∀ f ∈ mailbox.folders, f ≠ root → mailbox.HasTruePath f

theorem stored_paths (h : GrownUnder admitted mailbox under)
    (hnamed : ∀ m entry, admitted m entry → entry.name ≠ "") (hacyclic : mailbox.Acyclic) :
    mailbox.StoresPaths admitted under := by
  have hrooted := h.grown.rooted
  have hremembers := h.remembers hnamed
  have hroot := hrooted.root_mem hacyclic
  have hstored : ∀ f ∈ mailbox.folders, f ≠ root → StoredUnder f (under f.id) :=
    fun f hf hne => ((hremembers.stored f hf).resolve_left hne).1
  refine ⟨hstored, fun f hf hne => hasTruePath_iff hremembers hroot (hstored f hf hne), ?_⟩
  intro hharmless f hf hne
  rw [hasTruePath_iff hremembers hroot (hstored f hf hne)]
  have hlink := (hstored f hf hne).link
  obtain ⟨parent, hparent, hid⟩ := hrooted.parent f hf _ hlink
  have hapart : parent.id ≠ f.id := by
    intro heq
    exact hacyclic f (.child hf (by rw [hlink, ← hid, heq]))
  exact ⟨parent, hparent, hid, h.unchanged hharmless f hf parent hparent (hid ▸ hlink) hapart⟩

/-- A folder that is moved and renamed, and one of the two beneath it given again. -/
theorem renamed_folder_stored :
    let account : AccountId := ⟨List.replicate 32 0, rfl⟩
    let inbox : Folder := ⟨inboxId, some rootId, "Inbox", "/Inbox", .regular⟩
    let work : Folder := ⟨257, some inboxId, "Work", "/Inbox/Work", .regular⟩
    let play : Folder := ⟨257, some rootId, "Play", "/Play", .regular⟩
    let again : Folder := ⟨258, some 257, "A", "/Play/A", .regular⟩
    let left : Folder := ⟨259, some 257, "B", "/Inbox/Work/B", .search⟩
    let mailbox := { Mailbox.new account "" with
      table := (((Mailbox.new account "").table.put play).put again).put left }
    let first := Function.update (Function.update (Function.update (fun _ => root) 257 inbox) 258 work)
      259 work
    let under := Function.update (Function.update first 257 root) 258 play
    let named := fun (_ : Mailbox) (entry : FolderEntry) => entry.name ≠ ""
    GrownUnder named mailbox under ∧ (∀ m entry, named m entry → entry.name ≠ "") ∧
      mailbox.Acyclic ∧ mailbox.StoresPaths named under ∧
      mailbox.HasTruePath again ∧ ¬ mailbox.HasTruePath left := by
  intro account inbox work play again left mailbox first under named
  have hgrown : GrownUnder named mailbox under := by
    have hnew : GrownUnder named _ _ := .new account ""
    have hwork := hnew.put ⟨257, inboxId, "Work", .regular⟩ inbox (by decide) rfl
    have hold := hwork.put ⟨258, 257, "A", .regular⟩ work (by decide) rfl
    have hleft := hold.put ⟨259, 257, "B", .search⟩ work (by decide) rfl
    have hplay := hleft.put ⟨257, rootId, "Play", .regular⟩ root (by decide) rfl
    have hagain := hplay.put ⟨258, 257, "A", .regular⟩ play (by decide) rfl
    exact hagain
  have hnamed : ∀ m entry, named m entry → entry.name ≠ "" := fun _ _ h => h
  have hacyclic : mailbox.Acyclic := acyclic_of_all (by decide)
  have hstores := stored_paths hgrown hnamed hacyclic
  refine ⟨hgrown, hnamed, hacyclic, hstores, ?_, ?_⟩
  · unfold HasTruePath
    decide +kernel
  · unfold HasTruePath
    decide +kernel

/-- The folder beneath the moved one is stored with a path that leads nowhere any more. -/
theorem moved_folder_leaves_paths :
    let account : AccountId := ⟨List.replicate 32 0, rfl⟩
    let entries : List FolderEntry := [⟨257, inboxId, "Work", .regular⟩, ⟨258, 257, "A", .regular⟩,
      ⟨257, rootId, "Work", .regular⟩]
    let beneath : Folder := ⟨258, some 257, "A", "/Inbox/Work/A", .regular⟩
    ∃ mailbox, (Mailbox.new account "").addFolders entries = .ok mailbox ∧
      (∀ entry ∈ entries, entry.name ≠ "") ∧ mailbox.Acyclic ∧ beneath ∈ mailbox.folders ∧
      beneath ≠ root ∧ ¬ mailbox.HasTruePath beneath := by
  intro account entries beneath
  let mailbox := { Mailbox.new account "" with
    table := ((Mailbox.new account "").table.put
      ⟨257, some rootId, "Work", "/Work", .regular⟩).put beneath }
  have hacyclic : mailbox.Acyclic := acyclic_of_all (by decide)
  have huntrue : ¬ mailbox.HasTruePath beneath := by
    unfold HasTruePath
    decide +kernel
  exact ⟨mailbox, rfl, by decide, hacyclic, by decide, by decide, huntrue⟩

end Mailbox

end Sift
