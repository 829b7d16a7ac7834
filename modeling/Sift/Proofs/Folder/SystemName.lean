/-
  Sift.Proofs.Folder.SystemName — the name of a system folder, and the same name as a path.

  A name without a slash is looked up among the system folders first, by its lower case, and is a path
  otherwise. As a path it is looked up among the folders beneath the root, by id and in either case of
  A to Z. As long as only ids above those of the system folders are given to new folders, the system
  folders come first beneath the root (`Grown.systemKept`), so both lookups find the same one.

  - `placeOfPath_slash`: what a name behind a slash leads to.
  - `compile_folderName`: so a question about a name compiles to what the question about the path does,
    operation or fault. Names of the junk folder that have the sign for Kelvin in them are parted: they
    mean the junk folder as names, and another folder, if there is one, as paths.
  - `kelvin_junk_parted`: a mailbox in which there is one, and one in which there is none.
-/

import Sift.Proofs.Compiled
import Sift.Proofs.Mailbox.Growth
import Sift.Proofs.Mailbox.Path
import Sift.Proofs.Reread.Item
import Sift.Proofs.Text.AsciiCase

namespace Sift

/-! ## Names of system folders -/

namespace Mailbox

variable {mailbox : Mailbox} {limit : Nat} {name : String}

/-- The folder that a system folder is in a new mailbox. -/
def systemEntry (known : FolderId × String) : Folder :=
  ⟨known.1, some rootId, known.2, "/" ++ known.2, .regular⟩

theorem exists_of_systemFolder {id : FolderId} (h : systemFolder name = some id) :
    ∃ known ∈ systemFolders, known.1 = id ∧ Text.lower known.2 = Text.lower name := by
  obtain ⟨known, hknown, hid⟩ := Option.map_eq_some_iff.1 h
  exact ⟨known, List.mem_of_find?_eq_some hknown, hid, by simpa using List.find?_some hknown⟩

theorem lower_system : ∀ known ∈ systemFolders,
    (Text.lower known.2).toList.all Char.isLower = true ∧ Text.kelvin ∉ known.2.toList ∧
      ('k' ∈ (Text.lower known.2).toList → known = (junkId, "Junk")) := by
  decide +kernel

/-- A path that begins with a slash is no name of a system folder. -/
theorem systemFolder_slash (name : String) : systemFolder ("/" ++ name) = none := by
  rw [systemFolder, Option.map_eq_none_iff, List.find?_eq_none]
  intro known hknown heq
  have hslash : '/' ∈ (Text.lower ("/" ++ name)).toList := by
    have hlow : Text.Lowered '/' := ⟨by decide, by decide +kernel⟩
    rw [Text.toList_lower, String.toList_append]
    show '/' ∈ Text.lowerAfter [] ('/' :: name.toList)
    rw [Text.lowerAfter_cons, Text.lowerAt_of_lowered hlow]
    exact List.mem_append_left _ (List.mem_singleton_self '/')
  rw [← beq_iff_eq.1 heq] at hslash
  exact absurd (List.all_eq_true.1 (lower_system known hknown).1 '/' hslash) (by decide)

/-! ## System folders first -/

/-- The root and the system folders are as they were, and all others come after them. -/
def SystemKept (mailbox : Mailbox) : Prop :=
  ∃ others, mailbox.folders = (root :: systemFolders.map systemEntry) ++ others ∧
    ∀ f ∈ others, contactsId < f.id

theorem SystemKept.putBeneath (h : mailbox.SystemKept) (parent : Folder) {id : FolderId}
    (hid : contactsId < id) (name : String) (kind : FolderKind) :
    (mailbox.putBeneath parent id name kind).SystemKept := by
  obtain ⟨others, hfolders, hothers⟩ := h
  have hsystem : ∀ f ∈ root :: systemFolders.map systemEntry, f.id < id := by
    have hle : ∀ f ∈ root :: systemFolders.map systemEntry, f.id ≤ contactsId := by decide
    exact fun f hf => Int.lt_of_le_of_lt (hle f hf) hid
  refine ⟨putFolder ⟨id, some parent.id, name, pathBeneath parent.path name, kind⟩ others, ?_, ?_⟩
  · rw [← putFolder_append hsystem, ← hfolders]
    rfl
  · intro f hf
    rcases mem_putFolder hf with rfl | hf
    · exact hid
    · exact hothers f hf

theorem Grown.systemKept (h : Grown (fun _ entry => contactsId < entry.id) mailbox) :
    mailbox.SystemKept := by
  induction h with
  | new account accountName => exact ⟨[], by rw [folders_new, List.append_nil]; rfl, by simp⟩
  | @addFolder mailbox _ entry _ hid hadd ih =>
    obtain ⟨parent, -, hk⟩ := exists_of_bind hadd
    cases hk
    exact ih.putBeneath parent hid entry.name entry.kind
  | addAlias _ name ih => exact ih
  | addTag _ id name ih => exact ih

theorem SystemKept.root_mem (h : mailbox.SystemKept) : root ∈ mailbox.folders := by
  obtain ⟨others, hfolders, -⟩ := h
  rw [hfolders]
  exact List.mem_append_left _ List.mem_cons_self

theorem SystemKept.system_mem (h : mailbox.SystemKept) {known : FolderId × String}
    (hknown : known ∈ systemFolders) : systemEntry known ∈ mailbox.folders := by
  obtain ⟨others, hfolders, -⟩ := h
  rw [hfolders]
  exact List.mem_append_left _ (List.mem_cons_of_mem _ (List.mem_map_of_mem hknown))

/-- Beneath the root each system folder is found by its own name. -/
theorem find?_system : ∀ known ∈ systemFolders,
    (root :: systemFolders.map systemEntry).find?
      (fun f => f.parent == some rootId && Text.sameAscii f.name known.2) =
        some (systemEntry known) := by
  decide +kernel

theorem SystemKept.childNamed_system (h : mailbox.SystemKept) {known : FolderId × String}
    (hknown : known ∈ systemFolders) (hsame : Text.sameAscii known.2 name = true) :
    mailbox.childNamed rootId name = some (systemEntry known) := by
  obtain ⟨others, hfolders, -⟩ := h
  simp only [childNamed, hfolders, List.find?_append, Text.sameAscii_congr hsame,
    find?_system known hknown, Option.some_or]

theorem SystemKept.childNamed_kelvin (h : mailbox.SystemKept) (hkelvin : Text.kelvin ∈ name.toList)
    {child : Folder} (hchild : mailbox.childNamed rootId name = some child) :
    contactsId < child.id := by
  obtain ⟨others, hfolders, hothers⟩ := h
  have hmem := childNamed_mem hchild
  have hname : Text.sameAscii child.name name = true := by
    have := List.find?_some hchild
    simp only [Bool.and_eq_true] at this
    exact this.2
  rw [hfolders, List.mem_append] at hmem
  rcases hmem with hsystem | hother
  · have hplain : ∀ f ∈ root :: systemFolders.map systemEntry, Text.kelvin ∉ f.name.toList := by
      decide
    rw [Text.not_sameAscii_of_kelvin (hplain child hsystem) hkelvin] at hname
    cases hname
  · exact hothers child hother

/-! ## Names and paths -/

theorem pathNames_slash_name (h : IsPathName name) : pathNames ("/" ++ name) = [name] := by
  have hnames := pathNames_slash "" name
  rw [String.empty_append, pathNames_of_isPathName h] at hnames
  exact hnames

/-- What a name behind a slash leads to is found among the folders beneath the root. -/
theorem placeOfPath_slash (h : mailbox.SystemKept) (hname : IsPathName name) (limit : Nat) :
    mailbox.placeOfPath limit ("/" ++ name) = match mailbox.childNamed rootId name with
      | some child => mailbox.placeOf limit child none
      | none => .error (.notFound (.folderPath ("/" ++ name))) := by
  have hroot : root.isMountpoint = false ∧ root.id = rootId := ⟨rfl, rfl⟩
  rw [placeOfPath, systemFolder_slash]
  show (mailbox.folderByPath root.id ("/" ++ name) >>= fun next =>
    mailbox.placeOf limit next.1 next.2) = _
  rw [folderByPath_of_mem h.root_mem, pathNames_slash_name hname, descend, hroot.1, hroot.2]
  cases mailbox.childNamed rootId name with
  | some child => rfl
  | none =>
    have hleft : joinNames [name] = some name := congrArg some (String.intercalate_singleton ..)
    have habove : String.ofList (Text.dropTrailing (· == '/') root.path.toList) = "" := by
      decide +kernel
    show mailbox.placeOf limit root (joinNames [name]) = .error _
    rw [hleft, placeOf, settle_arrived rfl]
    simp only [arrival, habove, String.empty_append, show root.kind = .regular from rfl]

/-- A name that is none of a system folder is a path, with or without the slash. -/
theorem placeOfPath_name (hname : IsPathName name) (hplain : systemFolder name = none) (limit : Nat) :
    mailbox.placeOfPath limit name = mailbox.placeOfPath limit ("/" ++ name) := by
  rw [placeOfPath, placeOfPath, hplain, systemFolder_slash]
  simp only [folderByPath, pathNames_slash_name hname, pathNames_of_isPathName hname]

theorem placeOf_system (known : FolderId × String) (limit : Nat) :
    mailbox.placeOf limit (systemEntry known) none = .ok (.own (systemEntry known)) := by
  rw [placeOf, settle_arrived rfl]
  rfl

theorem SystemKept.placeOfPath_system (h : mailbox.SystemKept) {known : FolderId × String}
    (hknown : known ∈ systemFolders) (hname : systemFolder name = some known.1) (limit : Nat) :
    mailbox.placeOfPath limit name = .ok (.own (systemEntry known)) := by
  have hfound : mailbox.folderById known.1 = .ok (systemEntry known) :=
    folderById_id (h.system_mem hknown)
  rw [placeOfPath, hname, ← placeOf_system known limit]
  simp only [follow, hfound]
  rfl

/-! ## Questions -/

/-- A name for a folder, with nothing around it. -/
structure IsFolderName (name : String) : Prop extends IsPathName name where
  trimmed : Text.trim name = name

instance (name : String) : Decidable (IsFolderName name) :=
  decidable_of_iff (name.toList ≠ [] ∧ '/' ∉ name.toList ∧ Text.trim name = name)
    ⟨fun h => ⟨⟨h.1, h.2.1⟩, h.2.2⟩, fun h => ⟨h.nonempty, h.slash, h.trimmed⟩⟩

/-- A name of the junk folder with the sign for Kelvin in it. -/
def IsKelvinJunk (name : String) : Prop :=
  Text.lower name = "junk" ∧ Text.kelvin ∈ name.toList

theorem IsFolderName.trim_slash (h : IsFolderName name) : Text.trim ("/" ++ name) = "/" ++ name := by
  have hslash : Text.isBlank '/' = false := by decide +kernel
  have htrimmed : Text.Trimmed Text.isBlank name.toList := h.trimmed ▸ Text.trimmed_trim name
  refine Text.trim_of_trimmed ⟨?_, ?_⟩
  · intro c hc
    rw [String.toList_append] at hc
    obtain rfl : '/' = c := Option.some.inj hc
    exact hslash
  · intro c hc
    rw [String.toList_append, List.getLast?_append_of_ne_nil _ h.nonempty] at hc
    exact htrimmed.last c hc

/-- The question for what is at that path. -/
def pathQuestion (path : String) (deep : Bool) : Predicate := .folder (.path path) deep

theorem node_folderPath (searcher : Searcher) (deep : Bool) {path : String}
    (htrim : Text.trim path = path) (hne : path.toList ≠ []) :
    searcher.node (folderSearchName false deep) path =
      some (.ok (.ofPredicate (pathQuestion path deep))) := by
  have hfield : SearchField.ofName (folderSearchName false deep) = some (.folderPath deep) :=
    (SearchField.ofName_name (Predicate.folderPath_mem_named deep)).1
  have hvalue : Predicate.nonBlank (folderSearchName false deep) path = .ok path :=
    Predicate.nonBlank_eq_ok_iff.2 ⟨htrim.symm, by rw [htrim]; simpa using hne⟩
  rw [Searcher.node, hfield, Option.map_some]
  show some ((Predicate.ofFolderPath deep path).map Node.ofPredicate) = _
  rw [Predicate.ofFolderPath, hvalue]
  rfl

theorem compile_pathQuestion (mailbox : Mailbox) (settings : Settings) (path : String)
    (deep requested : Bool) :
    (Node.ofPredicate (pathQuestion path deep)).compile mailbox settings requested =
      mailbox.placeOfPath settings.mountpointLimit path >>= mailbox.compilePlace deep requested := by
  rw [Node.compile_ofPredicate]
  rfl

/-- Without the sign for Kelvin a name of a system folder is that of the folder, but for the case of A to
    Z. -/
theorem sameAscii_of_systemFolder {known : FolderId × String} (hknown : known ∈ systemFolders)
    (hlower : Text.lower known.2 = Text.lower name) (hplain : ¬IsKelvinJunk name) :
    Text.sameAscii known.2 name = true := by
  obtain ⟨hletters, hsystem, hk⟩ := lower_system known hknown
  refine Text.sameAscii_of_lower hlower (List.all_eq_true.1 hletters) hsystem fun hkelvin => ?_
  refine hplain ⟨?_, hkelvin⟩
  have hmem : 'k' ∈ (Text.lower known.2).toList := by
    rw [hlower, Text.toList_lower]
    exact Text.k_mem_lowerAfter hkelvin []
  rw [← hlower, hk hmem]
  decide +kernel

/-- A name and the path that it is behind a slash lead to the same place. -/
theorem SystemKept.placeOfPath_slash_eq (h : mailbox.SystemKept) (hname : IsPathName name)
    (hplain : ¬IsKelvinJunk name) (limit : Nat) :
    mailbox.placeOfPath limit name = mailbox.placeOfPath limit ("/" ++ name) := by
  cases hsystem : systemFolder name with
  | none => exact placeOfPath_name hname hsystem limit
  | some id =>
    obtain ⟨known, hknown, rfl, hlower⟩ := exists_of_systemFolder hsystem
    have hsame := sameAscii_of_systemFolder hknown hlower hplain
    rw [h.placeOfPath_system hknown hsystem, placeOfPath_slash h hname,
      h.childNamed_system hknown hsame]
    exact (placeOf_system known limit).symm

/-- What the questions about a name and about the path compile to where the name is one of the junk folder
    with the sign for Kelvin in it. -/
structure KelvinParted (mailbox : Mailbox) (deep : Bool) (name : String) (short long : Node) :
    Prop where
  /-- The name means the junk folder. -/
  ofName : ∀ settings requested, short.compile mailbox settings requested =
    mailbox.compilePlace deep requested (.own (systemEntry (junkId, "Junk")))
  /-- The path means a folder that has the sign in its name too, if there is one. -/
  ofPath : ∀ settings requested, long.compile mailbox settings requested =
    match mailbox.childNamed rootId name with
    | some child =>
      mailbox.placeOf settings.mountpointLimit child none >>= mailbox.compilePlace deep requested
    | none => .error (.notFound (.folderPath ("/" ++ name)))
  /-- That is none of the system folders. -/
  added : ∀ child, mailbox.childNamed rootId name = some child → contactsId < child.id

/-- Both questions are read, and they compile to the same for all names but those with that sign. -/
theorem compile_folderName (searcher : Searcher) {mailbox : Mailbox}
    (hgrown : Grown (fun _ entry => contactsId < entry.id) mailbox) {name : String}
    (hname : IsFolderName name) (deep : Bool) :
    ∃ short long, searcher.node (folderSearchName false deep) name = some (.ok short) ∧
      searcher.node (folderSearchName false deep) ("/" ++ name) = some (.ok long) ∧
      (¬IsKelvinJunk name → ∀ settings requested,
        short.compile mailbox settings requested = long.compile mailbox settings requested) ∧
      (IsKelvinJunk name → mailbox.KelvinParted deep name short long) := by
  have hkept := hgrown.systemKept
  refine ⟨_, _, node_folderPath searcher deep hname.trimmed hname.nonempty,
    node_folderPath searcher deep hname.trim_slash (by simp), ?_, ?_⟩
  · intro hplain settings requested
    rw [compile_pathQuestion, compile_pathQuestion,
      hkept.placeOfPath_slash_eq hname.toIsPathName hplain]
  · rintro ⟨hjunk, hkelvin⟩
    have hknown : (junkId, "Junk") ∈ systemFolders := by decide
    have hsystem : systemFolder name = some junkId := by
      rw [systemFolder, hjunk]
      decide +kernel
    refine ⟨?_, ?_, fun child hchild => hkept.childNamed_kelvin hkelvin hchild⟩
    · intro settings requested
      rw [compile_pathQuestion, hkept.placeOfPath_system hknown hsystem]
      rfl
    · intro settings requested
      rw [compile_pathQuestion, placeOfPath_slash hkept hname.toIsPathName]
      cases mailbox.childNamed rootId name <;> rfl

/-- Any folder may be put beneath the root of a new mailbox, if its id is above those it has. -/
theorem grown_putBeneath_root (account : AccountId) {id : FolderId} (hid : contactsId < id)
    (name : String) (kind : FolderKind) : Grown (fun _ entry => contactsId < entry.id)
      ((Mailbox.new account "").putBeneath root id name kind) := by
  have hnew : Grown (fun _ entry => contactsId < entry.id) (Mailbox.new account "") := .new account ""
  have hroot : (Mailbox.new account "").folderById rootId = .ok root :=
    folderById_id hnew.systemKept.root_mem
  exact @Grown.addFolder _ _ _ ⟨id, rootId, name, kind⟩ hnew hid (addFolder_eq_ok hroot)

/-- A folder of the same name as the inbox, but for its case, and a third spelling of the name. -/
theorem compile_inbox_spelled :
    let account : AccountId := ⟨List.replicate 32 0, rfl⟩
    let mailbox := (Mailbox.new account "").putBeneath root 300 "INBOX" .regular
    let searcher : Searcher := ⟨account, .standard ⟨0, 0⟩⟩
    Grown (fun _ entry => contactsId < entry.id) mailbox ∧ IsFolderName "iNBOX" ∧
      ¬IsKelvinJunk "iNBOX" ∧ ∃ short long, searcher.node "under" "iNBOX" = some (.ok short) ∧
        searcher.node "under" "/iNBOX" = some (.ok long) ∧ ∀ settings requested,
          short.compile mailbox settings requested = long.compile mailbox settings requested := by
  intro account mailbox searcher
  have hgrown : Grown (fun _ entry => contactsId < entry.id) mailbox :=
    grown_putBeneath_root account (by decide) "INBOX" .regular
  have hname : IsFolderName "iNBOX" := by decide +kernel
  have hplain : ¬IsKelvinJunk "iNBOX" := fun h => absurd h.2 (by decide)
  obtain ⟨short, long, hshort, hlong, hsame, -⟩ := compile_folderName searcher hgrown hname true
  exact ⟨hgrown, hname, hplain, short, long, hshort, hlong, hsame hplain⟩

/-- The sign for Kelvin in the name of the junk folder: where no other folder has that name, and where one
    has. -/
theorem kelvin_junk_parted :
    let account : AccountId := ⟨List.replicate 32 0, rfl⟩
    let mailbox := Mailbox.new account ""
    let added := (Mailbox.new account "").putBeneath root 400 "Jun\u212A" .regular
    let settings : Settings := .standard ⟨0, 0⟩
    let searcher : Searcher := ⟨account, settings⟩
    Grown (fun _ entry => contactsId < entry.id) mailbox ∧
      Grown (fun _ entry => contactsId < entry.id) added ∧ IsFolderName "Jun\u212A" ∧
      ∃ short long, searcher.node "in" "Jun\u212A" = some (.ok short) ∧
        searcher.node "in" "/Jun\u212A" = some (.ok long) ∧
        short.compile mailbox settings true = .ok (.db (.inFolder junkId) true) ∧
        long.compile mailbox settings true = .error (.notFound (.folderPath "/Jun\u212A")) ∧
        short.compile added settings true = .ok (.db (.inFolder junkId) true) ∧
        long.compile added settings true = .ok (.db (.inFolder 400) true) := by
  intro account mailbox added settings searcher
  have hgrown : Grown (fun _ entry => contactsId < entry.id) added :=
    grown_putBeneath_root account (by decide) "Jun\u212A" .regular
  have hname : IsFolderName "Jun\u212A" := by decide +kernel
  refine ⟨.new account "", hgrown, hname, _, _,
    node_folderPath searcher false hname.trimmed hname.nonempty,
    node_folderPath searcher false hname.trim_slash (by decide), ?_⟩
  simp only [compile_pathQuestion]
  -- The four places that the two questions lead to in the two mailboxes.
  have hplaces :
      mailbox.placeOfPath settings.mountpointLimit "Jun\u212A" =
        .ok (.own (systemEntry (junkId, "Junk"))) ∧
      mailbox.placeOfPath settings.mountpointLimit "/Jun\u212A" =
        .error (.notFound (.folderPath "/Jun\u212A")) ∧
      added.placeOfPath settings.mountpointLimit "Jun\u212A" =
        .ok (.own (systemEntry (junkId, "Junk"))) ∧
      added.placeOfPath settings.mountpointLimit "/Jun\u212A" =
        .ok (.own ⟨400, some rootId, "Jun\u212A", "/Jun\u212A", .regular⟩) := by
    decide +kernel
  exact ⟨by rw [hplaces.1]; rfl, by rw [hplaces.2.1]; rfl, by rw [hplaces.2.2.1]; rfl,
    by rw [hplaces.2.2.2]; rfl⟩

end Mailbox

end Sift
