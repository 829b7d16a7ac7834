/-
  Sift.Proofs.Reread.Item — questions about items and folders are read again as they are written.

  - `ofItemList_text`: a list of ids, whatever account searches, if every id fits into 32 bits.
  - `reads_ofConversationText`: a virtual conversation is written as the item that it holds.
  - `reads_ofFolderId`: a path beneath a folder must not end in a blank, which would be trimmed.
-/

import Sift.Proofs.Literal.Item
import Sift.Proofs.Reread.Text

namespace Sift

namespace Predicate

/-! ## Lists of items -/

theorem mapM_read_text (own : AccountId) {ids : List ItemId} (h : ∀ id ∈ ids, id.Fits) :
    (ids.map ItemId.text).mapM (ItemId.read own) = .ok ids := by
  induction ids with
  | nil => rfl
  | cons id ids ih =>
    rw [List.map_cons, List.mapM_cons, ItemId.read_text own (h id List.mem_cons_self),
      ih fun other ho => h other (List.mem_cons_of_mem id ho)]
    rfl

theorem toList_ids (ids : List ItemId) :
    (ItemSet.ids ids).text.toList = List.intercalate [','] (ids.map fun id => id.text.toList) := by
  rw [ItemSet.text, String.toList_intercalate, List.map_map]
  rfl

theorem mem_intercalate {sep : Char} {pieces : List (List Char)} {c : Char}
    (h : c ∈ List.intercalate [sep] pieces) : c = sep ∨ ∃ piece ∈ pieces, c ∈ piece := by
  induction pieces with
  | nil => cases h
  | cons cs pieces ih =>
    cases pieces with
    | nil =>
      rw [List.intercalate_singleton] at h
      exact .inr ⟨cs, List.mem_cons_self, h⟩
    | cons ds pieces =>
      rw [List.intercalate_cons_cons, List.mem_append, List.mem_append, List.mem_singleton] at h
      rcases h with (h | h) | h
      · exact .inr ⟨cs, List.mem_cons_self, h⟩
      · exact .inl h
      · obtain hsep | ⟨piece, hp, hc⟩ := ih h
        · exact .inl hsep
        · exact .inr ⟨piece, List.mem_cons_of_mem cs hp, hc⟩

theorem mem_ids_text {ids : List ItemId} {c : Char} (h : c ∈ (ItemSet.ids ids).text.toList) :
    c = ',' ∨ c ∈ ItemId.alphabet := by
  rw [toList_ids] at h
  rcases mem_intercalate h with rfl | ⟨piece, hp, hc⟩
  · exact .inl rfl
  · obtain ⟨id, -, rfl⟩ := List.mem_map.1 hp
    exact .inr (ItemId.mem_text hc)

theorem itemTexts_ids {ids : List ItemId} (hne : ids ≠ []) :
    itemTexts (ItemSet.ids ids).text = ids.map ItemId.text := by
  have hcomma : ∀ cs ∈ ids.map fun id => id.text.toList, ',' ∉ cs := by
    intro cs hcs hc
    obtain ⟨id, -, rfl⟩ := List.mem_map.1 hcs
    obtain ⟨-, hother, -⟩ := ItemId.not_mem_alphabet ',' (ItemId.mem_text hc)
    simp at hother
  have hne' : (ids.map fun id => id.text.toList) ≠ [] := by simpa using hne
  rw [itemTexts, toList_ids, List.splitOn_intercalate ',' hcomma hne']
  rw [List.map_map]
  have hmap : ids.map ((fun cs => Text.trim (String.ofList cs)) ∘ fun id => id.text.toList) =
      ids.map ItemId.text := by
    refine List.map_congr_left fun id _ => ?_
    rw [Function.comp_apply, String.ofList_toList, ItemId.trim_text]
  rw [hmap]
  refine List.filter_eq_self.2 fun text htext => ?_
  obtain ⟨id, -, rfl⟩ := List.mem_map.1 htext
  simpa using id.text_ne_nil

/-- Neither of the words for a set of items has a colon. -/
theorem not_sameAscii_of_colon {text word : String} (htext : ':' ∈ text.toList)
    (hword : ':' ∉ word.toList.map Char.toLower) : ¬Text.sameAscii text word = true := by
  intro hsame
  rw [Text.sameAscii, beq_iff_eq] at hsame
  exact hword (hsame ▸ List.mem_map.2 ⟨':', htext, rfl⟩)

theorem colon_mem_ids_text {ids : List ItemId} (hne : ids ≠ []) :
    ':' ∈ (ItemSet.ids ids).text.toList := by
  have hid : ∀ id : ItemId, ':' ∈ id.text.toList := by
    intro id
    rw [ItemId.toList_text]
    exact List.mem_append_right _ List.mem_cons_self
  rw [toList_ids]
  cases ids with
  | nil => exact absurd rfl hne
  | cons id ids =>
    cases ids with
    | nil => simpa using hid id
    | cons other ids =>
      rw [List.map_cons, List.map_cons, List.intercalate_cons_cons]
      exact List.mem_append_left _ (List.mem_append_left _ (hid id))

theorem needsQuotes_ids_text {ids : List ItemId} {c : Char}
    (h : c ∈ (ItemSet.ids ids).text.toList) : Text.needsQuotes c = false := by
  rcases mem_ids_text h with rfl | h
  · decide
  · exact (ItemId.not_mem_alphabet c h).1

theorem ofItemList_text (own : AccountId) {ids : List ItemId} (hne : ids ≠ [])
    (h : ∀ id ∈ ids, id.Fits) : ofItemList own (ItemSet.ids ids).text = .ok (.item (.ids ids)) := by
  have htrim : Text.trim (ItemSet.ids ids).text = (ItemSet.ids ids).text :=
    Text.trim_of_trimmed (Text.trimmed_of_forall fun c hc =>
      Text.isBlank_of_needsQuotes (needsQuotes_ids_text hc))
  have hcolon := colon_mem_ids_text hne
  simp only [ofItemList, htrim]
  rw [if_neg (not_sameAscii_of_colon hcolon (by decide)),
    if_neg (not_sameAscii_of_colon hcolon (by decide)), itemTexts_ids hne, mapM_read_text own h]
  have hempty : ¬ids.isEmpty = true := by simpa using hne
  simp only [bind, Except.bind, pure, Except.pure, ofItems, if_neg hempty]

theorem valueOf_ids_text (ids : List ItemId) :
    Question.valueOf (ItemSet.ids ids).text.toList = some (ItemSet.ids ids).text := by
  refine Question.valueOf_bare fun hhead => ?_
  have hquote := needsQuotes_ids_text (List.mem_of_head? hhead)
  cases hquote

theorem ofItemList_all (own : AccountId) : ofItemList own "all" = .ok (.item .all) := by
  have htrim : Text.trim "all" = "all" := by decide
  simp only [ofItemList, htrim]
  exact if_pos (by decide)

theorem ofItemList_none (own : AccountId) : ofItemList own "none" = .ok (.item .nothing) := by
  have htrim : Text.trim "none" = "none" := by decide
  simp only [ofItemList, htrim]
  rw [if_neg (by decide), if_pos (by decide)]

theorem reads_all (searcher : Searcher) :
    searcher.Reads (Predicate.item .all).written (.ofPredicate (.item .all)) :=
  searcher.reads_predicate .items (ofItemList searcher.account)
    (SearchField.mem_named (by decide)) (fun _ => rfl) (Question.valueOf_bare (by decide))
    (ofItemList_all searcher.account)

theorem reads_nothing (searcher : Searcher) :
    searcher.Reads (Predicate.item .nothing).written (.ofPredicate (.item .nothing)) :=
  searcher.reads_predicate .items (ofItemList searcher.account)
    (SearchField.mem_named (by decide)) (fun _ => rfl) (Question.valueOf_bare (by decide))
    (ofItemList_none searcher.account)

/-- A list without ids is written as the word for no items. -/
theorem reads_ofItems (searcher : Searcher) {ids : List ItemId} (h : ∀ id ∈ ids, id.Fits) :
    searcher.Reads (ofItems ids).written (.ofPredicate (ofItems ids)) := by
  unfold ofItems
  split
  · exact reads_nothing searcher
  · next hempty =>
    have hne : ids ≠ [] := by simpa using hempty
    exact searcher.reads_predicate .items (ofItemList searcher.account)
      (SearchField.mem_named (by decide)) (fun _ => rfl) (valueOf_ids_text ids)
      (ofItemList_text searcher.account hne h)

theorem reads_ofItemList (searcher : Searcher) {value : String} {p : Predicate}
    (h : ofItemList searcher.account value = .ok p) :
    searcher.Reads p.written (.ofPredicate p) := by
  simp only [ofItemList] at h
  split at h
  · cases h
    exact reads_all searcher
  split at h
  · cases h
    exact reads_nothing searcher
  obtain ⟨ids, hids, hk⟩ := exists_of_bind h
  cases hk
  exact reads_ofItems searcher (forall_of_mapM (fun _ _ => ItemId.fits_of_read) hids)

/-! ## Conversations -/

theorem ofConversationText_text (own : AccountId) {id : ItemId} (hfits : id.Fits)
    (hreal : ¬id.id < 0) : ofConversationText own id.text = .ok (.conversation id) := by
  rw [ofConversationText, ItemId.read_text own hfits]
  simp only [bind, Except.bind]
  rw [if_neg hreal, ofConversation, if_neg hreal]

theorem valueOf_item_text (item : ItemId) : Question.valueOf item.text.toList = some item.text := by
  have hvalue := Question.valueOf_quote item.text
  rwa [ItemId.quote_text] at hvalue

/-- The item of a virtual conversation has the opposite number, which the least one lacks. -/
theorem fits_neg {id : ItemId} (hfits : id.Fits) (hleast : id.id ≠ -2147483648) :
    ItemId.Fits ⟨id.account, -id.id⟩ := by
  have hpow : Int.pow 2 (32 - 1) = 2147483648 := by decide
  simp only [ItemId.Fits, Text.fitsSigned, hpow, Bool.and_eq_true, decide_eq_true_iff] at hfits ⊢
  omega

theorem reads_ofConversationText (searcher : Searcher) {value : String} {p : Predicate}
    (hleast : ∀ id, ItemId.read searcher.account value = .ok id → id.id ≠ -2147483648)
    (h : ofConversationText searcher.account value = .ok p) :
    searcher.Reads p.written (.ofPredicate p) := by
  obtain ⟨id, hid, hk⟩ := exists_of_bind h
  have hfits := ItemId.fits_of_read hid
  by_cases hvirtual : id.id < 0
  · rw [if_pos hvirtual] at hk
    cases hk
    refine reads_ofItems searcher fun item hitem => ?_
    rw [List.mem_singleton.1 hitem]
    exact fits_neg hfits (hleast id hid)
  · rw [if_neg hvirtual, ofConversation, if_neg hvirtual] at hk
    cases hk
    exact searcher.reads_predicate .conversation (ofConversationText searcher.account)
      (SearchField.mem_named (by decide)) (fun _ => rfl) (valueOf_item_text id)
      (ofConversationText_text searcher.account hfits hvirtual)

/-! ## Folders -/

theorem folderPath_mem_named (deep : Bool) :
    ((SearchField.folderPath deep).name, .folderPath deep) ∈ SearchField.named := by
  cases deep <;> exact SearchField.mem_named (by decide)

theorem folderId_mem_named (deep : Bool) :
    ((SearchField.folderId deep).name, .folderId deep) ∈ SearchField.named := by
  cases deep <;> exact SearchField.mem_named (by decide)

theorem reads_ofFolderPath (searcher : Searcher) {deep : Bool} {value : String} {p : Predicate}
    (h : ofFolderPath deep value = .ok p) : searcher.Reads p.written (.ofPredicate p) := by
  have hagain : ofFolderPath deep (Text.trim value) = .ok p := by
    rw [← h, ofFolderPath, nonBlank_trim, ofFolderPath]
  have hp : p = .folder (.path (Text.trim value)) deep := by
    have hk := of_nonBlank h
    cases hk
    rfl
  rw [hp] at hagain ⊢
  exact searcher.reads_predicate (.folderPath deep) (ofFolderPath deep) (folderPath_mem_named deep)
    (fun _ => rfl) (Question.valueOf_quote (Text.trim value)) hagain

/-- The id and the path that are read from a trimmed value. -/
def folderIdParts (cs : List Char) : String × Option String :=
  match Text.breakAt (· == '/') cs with
  | some (id, rest) => (String.ofList id, subpathOf rest)
  | none => (String.ofList cs, none)

theorem ofFolderId_eq (own : AccountId) (deep : Bool) (value : String) :
    ofFolderId own deep value = do
      let value ← nonBlank (folderSearchName true deep) value
      let item ← ItemId.read own (folderIdParts value.toList).1
      return .folder (.id item (folderIdParts value.toList).2) deep := by
  simp only [ofFolderId, bind, Except.bind]
  cases nonBlank (folderSearchName true deep) value with
  | error fault => simp only
  | ok value =>
    simp only [folderIdParts]
    cases Text.breakAt (· == '/') value.toList with
    | none => simp only [String.ofList_toList]
    | some parts => simp only

theorem subpathOf_idem {cs : List Char} {subpath : String} (h : subpathOf cs = some subpath) :
    subpathOf subpath.toList = some subpath := by
  simp only [subpathOf] at h
  split at h
  · cases h
  · next hempty =>
    cases h
    rw [String.toList_ofList, subpathOf, Text.dropAround_of_trimmed (Text.trimmed_dropAround _ cs)]
    exact if_neg hempty

theorem ofFolderId_cases {own : AccountId} {deep : Bool} {value : String} {p : Predicate}
    (h : ofFolderId own deep value = .ok p) :
    ∃ item subpath, p = .folder (.id item subpath) deep ∧ item.Fits ∧
      ∀ path, subpath = some path → subpathOf path.toList = some path := by
  rw [ofFolderId_eq] at h
  obtain ⟨item, hitem, hk⟩ := exists_of_bind (of_nonBlank h)
  cases hk
  refine ⟨item, _, rfl, ItemId.fits_of_read hitem, fun path hpath => ?_⟩
  unfold folderIdParts at hpath
  split at hpath
  · exact subpathOf_idem hpath
  · cases hpath

theorem not_slash {item : ItemId} : ∀ c ∈ item.text.toList, (c == '/') = false := fun c hc =>
  (ItemId.not_mem_alphabet c (ItemId.mem_text hc)).2.2

/-- A text whose parts are known, once the blanks around it are gone. -/
theorem ofFolderId_of_parts (own : AccountId) (deep : Bool) {item : ItemId} (hfits : item.Fits)
    {value : String} {subpath : Option String} (hempty : (Text.trim value).toList ≠ [])
    (hparts : folderIdParts (Text.trim value).toList = (item.text, subpath)) :
    ofFolderId own deep value = .ok (.folder (.id item subpath) deep) := by
  have hvalue : nonBlank (folderSearchName true deep) value = .ok (Text.trim value) :=
    nonBlank_eq_ok_iff.2 ⟨rfl, String.isEmpty_eq_false_iff.2 fun h => hempty (h ▸ rfl)⟩
  rw [ofFolderId_eq, hvalue]
  simp only [bind, Except.bind, hparts, ItemId.read_text own hfits]
  rfl

theorem ofFolderId_id (own : AccountId) (deep : Bool) {item : ItemId} (hfits : item.Fits) :
    ofFolderId own deep item.text = .ok (.folder (.id item none) deep) := by
  refine ofFolderId_of_parts own deep hfits ?_ ?_
  · rw [item.trim_text]
    exact item.text_ne_nil
  · rw [item.trim_text, folderIdParts, Text.breakAt_of_forall not_slash]
    simp only [String.ofList_toList]

/-- Blanks at the end of the path are gone before the slashes are looked for. -/
theorem ofFolderId_path (own : AccountId) (deep : Bool) {item : ItemId} (hfits : item.Fits)
    (path : String) : ofFolderId own deep (item.text ++ "/" ++ path) =
      .ok (.folder (.id item (subpathOf (Text.trimEnd path).toList)) deep) := by
  have htrim : (Text.trim (item.text ++ "/" ++ path)).toList =
      item.text.toList ++ '/' :: (Text.trimEnd path).toList := by
    have hlist : (item.text ++ "/" ++ path).toList = item.text.toList ++ '/' :: path.toList := by
      simp
    rw [Text.toList_trim, hlist, Text.toList_trimEnd]
    exact Text.dropAround_append_cons (fun c hc => ItemId.not_blank (List.mem_of_head? hc))
      (by decide) path.toList
  refine ofFolderId_of_parts own deep hfits ?_ ?_
  · simp [htrim]
  · rw [folderIdParts, htrim, Text.breakAt_append not_slash (beq_self_eq_true '/')]
    simp only [String.ofList_toList]

/-- A path that reads as itself comes back if it does not end in a blank, and only then. -/
theorem subpathOf_trimEnd_iff {path : String} (h : subpathOf path.toList = some path) :
    subpathOf (Text.trimEnd path).toList = some path ↔
      ∀ c ∈ path.toList.getLast?, Text.isBlank c = false := by
  rw [Text.toList_trimEnd]
  constructor
  · intro hagain
    simp only [subpathOf] at hagain
    split at hagain
    · cases hagain
    -- The path is no longer than the part of it before the blanks, so it is that part.
    have hlist : Text.dropAround (· == '/') (Text.dropTrailing Text.isBlank path.toList) =
        path.toList := by
      have hstring := congrArg String.toList (Option.some.inj hagain)
      rwa [String.toList_ofList] at hstring
    have hlength := (Text.dropAround_sublist (· == '/')
      (Text.dropTrailing Text.isBlank path.toList)).length_le
    rw [hlist] at hlength
    have hprefix := List.rdropWhile_prefix Text.isBlank path.toList
    rw [← hprefix.eq_of_length_le hlength]
    exact Text.getLast?_dropTrailing Text.isBlank path.toList
  · intro hlast
    rw [Text.dropTrailing_of_getLast? hlast, h]

theorem reads_ofFolderId (searcher : Searcher) {deep : Bool} {value : String} {p : Predicate}
    (h : ofFolderId searcher.account deep value = .ok p)
    (hend : ∀ item path, p = .folder (.id item (some path)) deep →
      ∀ c ∈ path.toList.getLast?, Text.isBlank c = false) :
    searcher.Reads p.written (.ofPredicate p) := by
  obtain ⟨item, subpath, rfl, hfits, hpath⟩ := ofFolderId_cases h
  cases subpath with
  | none =>
    exact searcher.reads_predicate (.folderId deep) (ofFolderId searcher.account deep)
      (folderId_mem_named deep) (fun _ => rfl) (Question.valueOf_quote item.text)
      (ofFolderId_id searcher.account deep hfits)
  | some path =>
    have hread := ofFolderId_path searcher.account deep hfits path
    rw [(subpathOf_trimEnd_iff (hpath path rfl)).2 (hend item path rfl)] at hread
    exact searcher.reads_predicate (.folderId deep) (ofFolderId searcher.account deep)
      (folderId_mem_named deep) (fun _ => rfl) (Question.valueOf_quote (item.text ++ "/" ++ path))
      hread

end Predicate

end Sift
