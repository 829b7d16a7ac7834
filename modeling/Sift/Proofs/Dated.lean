/-
  Sift.Proofs.Dated — mail before a date, on it and after it.

  The fields `before`, `date` and `after` read one text as one window of time, and so does `date` when a
  comparator stands before the text.

  - `DateLiteral.readWindow_ordered`: no window ends before it begins, which is all that the parts of
    the time line before it, in it and after it need to be apart.
  - `DateLiteral.read_sign`: a comparator before a date is taken off again, as no date begins with the
    `=` that could make a longer comparator of it.
  - `Searcher.parts_dated`: each dated item is before, on or after, and never two of these.
-/

import Sift.Operation.Facts
import Sift.Proofs.Compiled
import Sift.Proofs.Literal.Tiling
import Sift.Proofs.Reread.Word
import Sift.Proofs.Text.Decimal
import Sift.Proofs.Text.Lower

namespace Sift

/-! ## Windows and the time around them -/

/-- The moments that stand in the relation to the window. -/
def DateWindow.rangeOf (window : DateWindow) (comparator : Comparator) : Range Int :=
  DateLiteral.range ⟨none, window⟩ comparator

/-- Every moment is before the window, in it or after it. -/
theorem DateWindow.countP_contains {window : DateWindow} (h : window.start ≤ window.stop)
    (moment : Int) :
    [Comparator.lt, .eq, .gt].countP (fun c => (window.rangeOf c).contains moment) = 1 := by
  simp only [rangeOf, DateLiteral.range, Option.getD_none, Range.contains, Bound.admitsFrom,
    Bound.admitsUpTo, List.countP_cons, List.countP_nil]
  by_cases hstart : moment < window.start
  · have hstop : moment < window.stop := Int.lt_of_lt_of_le hstart h
    simp [hstart, hstop]
  · by_cases hstop : moment < window.stop <;> simp [hstart, hstop]

theorem DateWindow.contains_le {window : DateWindow} (h : window.start ≤ window.stop)
    (moment : Int) : (window.rangeOf .le).contains moment =
      ((window.rangeOf .lt).contains moment || (window.rangeOf .eq).contains moment) := by
  simp only [rangeOf, DateLiteral.range, Option.getD_none, Range.contains, Bound.admitsFrom,
    Bound.admitsUpTo, Bool.true_and]
  by_cases hstart : moment < window.start
  · have hstop : moment < window.stop := Int.lt_of_lt_of_le hstart h
    simp [hstart, hstop]
  · simp [hstart]

theorem DateWindow.contains_ge {window : DateWindow} (h : window.start ≤ window.stop)
    (moment : Int) : (window.rangeOf .ge).contains moment =
      ((window.rangeOf .eq).contains moment || (window.rangeOf .gt).contains moment) := by
  simp only [rangeOf, DateLiteral.range, Option.getD_none, Range.contains, Bound.admitsFrom,
    Bound.admitsUpTo, Bool.and_true]
  by_cases hstart : moment < window.start
  · have hstop : moment < window.stop := Int.lt_of_lt_of_le hstart h
    simp [hstart, hstop]
  · by_cases hstop : moment < window.stop <;> simp [hstart, hstop]

namespace DateLiteral

variable {settings : Settings} {unit : DateUnit} {window : DateWindow}

/-! ## Windows -/

theorem pieceWindow_eq_piece {index : Int} (h : pieceWindow settings unit index = .ok window) :
    window = piece settings unit index := by
  simp only [pieceWindow] at h
  split at h <;> cases h
  rfl

theorem readWindow_ordered {cs : List Char} (h : readWindow settings unit cs = .ok window) :
    window.start ≤ window.stop := by
  have hpiece : ∀ {unit : DateUnit} {index : Int}, pieceWindow settings unit index = .ok window →
      window.start ≤ window.stop := by
    intro unit index h
    rw [pieceWindow_eq_piece h]
    exact Int.le_of_lt (piece_start_lt_stop settings unit index)
  unfold readWindow at h
  split at h
  · split at h
    · next moment hmoment =>
      cases h
      -- The window is cut off at the last moment, and no timestamp is read that lies beyond it.
      obtain ⟨-, hlast⟩ := Text.fitsSigned_64_iff.1 (Text.fitsSigned_of_readSigned hmoment)
      show moment ≤ min (moment + 1000) Text.maxInt64
      omega
    · cases h
  split at h
  · exact hpiece h
  · obtain ⟨day, -, h⟩ := exists_of_bind h
    exact hpiece h

theorem start_le_stop_of_read {text : String} {comparator : Option Comparator}
    (h : read settings unit text = .ok ⟨comparator, window⟩) : window.start ≤ window.stop := by
  obtain ⟨found, hfound, hliteral⟩ := read_eq_ok_iff.1 h
  have hwindow : window = found := congrArg DateLiteral.window hliteral
  rw [hwindow]
  exact readWindow_ordered hfound

/-! ## Dates with a comparator -/

variable {text : String} {literal : DateLiteral}

theorem valueOf_of_plain (htrim : Text.trim text = text) (hplain : (Comparator.take text).1 = none) :
    valueOf text = (expandWord (Text.lower text)).toList := by
  rw [valueOf, htrim, Comparator.take_none hplain]

theorem lowered_equals : Text.Lowered '=' := ⟨by decide, by decide +kernel⟩

theorem head?_ne_of_read (htrim : Text.trim text = text) (hplain : (Comparator.take text).1 = none)
    (h : read settings unit text = .ok literal) : text.toList.head? ≠ some '=' := by
  intro hhead
  obtain ⟨window, hwindow, -⟩ := read_eq_ok_iff.1 h
  obtain ⟨c, hc, hbegins⟩ := beginsDate_of_readWindow hwindow
  obtain ⟨rest, hrest⟩ := List.head?_eq_some_iff.1 hhead
  have hlower : (Text.lower text).toList = '=' :: Text.lowerAfter ['='] rest := by
    rw [Text.toList_lower, hrest, Text.lowerAfter_cons, Text.lowerAt_of_lowered lowered_equals]
    rfl
  -- Nothing on the way to the date changes its first character.
  have hexpand : expandWord (Text.lower text) = Text.lower text := by
    unfold expandWord
    split
    · next hword => simp [hword] at hlower
    · split
      · next hword => simp [hword] at hlower
      · rfl
  rw [valueOf_of_plain htrim hplain, hexpand, hlower] at hc
  cases hc
  simp at hbegins

/-- A comparator before a date is all that it adds. -/
theorem read_sign {comparator : Comparator} (hsign : comparator ≠ .eq)
    (htrim : Text.trim text = text) (hplain : (Comparator.take text).1 = none) (hne : text ≠ "")
    (h : read settings unit text = .ok literal) :
    read settings unit (comparator.sign ++ text) = .ok ⟨some comparator, literal.window⟩ := by
  have hhead := head?_ne_of_read htrim hplain h
  obtain ⟨window, hwindow, rfl⟩ := read_eq_ok_iff.1 h
  have htrim' := comparator.trim_sign_append htrim hne
  have htake := Comparator.take_sign hsign hhead
  refine read_eq_ok_iff.2 ⟨window, ?_, ?_⟩
  · rw [valueOf, htrim', htake, ← valueOf_of_plain htrim hplain]
    exact hwindow
  · rw [htrim', htake]

end DateLiteral

/-! ## Questions about dates -/

theorem SearchField.ofName_date (field : DateField) :
    ofName field.searchName = some (.date field) := by
  cases field <;> decide +kernel

theorem Searcher.compiles_date (searcher : Searcher) (field : DateField) {text : String}
    {literal : DateLiteral} (htrim : Text.trim text = text) (hne : text ≠ "")
    (hread : DateLiteral.read searcher.settings field.unit text = .ok literal)
    (hallowed : literal.comparator = none ∨ field.takesComparator = true) :
    searcher.Compiles field.searchName text
      (.db (.date field.column (literal.range field.implied))) := by
  have hcheck : (literal.comparator.isSome && !field.takesComparator) = false := by
    rcases hallowed with h | h <;> simp [h]
  have hof : Predicate.ofDate searcher.settings field text = .ok (.date field text literal) := by
    have hnonBlank : Predicate.nonBlank field.searchName text = .ok text :=
      Predicate.nonBlank_eq_ok_iff.2 ⟨htrim.symm, by simpa [htrim] using hne⟩
    simp only [Predicate.ofDate, hnonBlank, hread, hcheck, bind, Except.bind, pure, Except.pure]
    rfl
  refine Searcher.compiles_of_read (p := .date field text literal) (SearchField.ofName_date field) ?_
    fun _ _ _ => rfl
  rw [SearchField.read, hof]
  rfl

theorem Searcher.read_of_node_date {searcher : Searcher} {text : String} {node : Node}
    (htrim : Text.trim text = text) (hplain : (Comparator.take text).1 = none)
    (h : searcher.node "date" text = some (.ok node)) :
    text ≠ "" ∧ ∃ window, DateLiteral.read searcher.settings .day text = .ok ⟨none, window⟩ := by
  have hname : SearchField.ofName "date" = some (.date .date) := SearchField.ofName_date .date
  rw [Searcher.node, hname, Option.map_some, Option.some.injEq] at h
  obtain ⟨p, hp, -⟩ := exists_of_map h
  obtain ⟨trimmed, hnonBlank, hk⟩ := exists_of_bind hp
  obtain ⟨rfl, hne⟩ := Predicate.nonBlank_eq_ok_iff.1 hnonBlank
  obtain ⟨literal, hread, -⟩ := exists_of_bind hk
  rw [htrim] at hne hread
  refine ⟨by simpa using hne, ?_⟩
  obtain ⟨window, -, rfl⟩ := DateLiteral.read_eq_ok_iff.1 hread
  rw [htrim, hplain] at hread
  exact ⟨window, hread⟩

/-- The operation for the items whose date stands in the relation to the window. -/
def DateWindow.operation (window : DateWindow) (comparator : Comparator) : Bool → Operation :=
  .db (.date .date (window.rangeOf comparator))

theorem DateWindow.selects_operation (window : DateWindow) (comparator : Comparator)
    (item : ItemFacts) : (window.operation comparator true).selects item =
      (item.dates.lookup .date).any (window.rangeOf comparator).contains := by
  simp [operation, Operation.selects, ItemFacts.meets, ItemFacts.within]

/-- The questions about one date, and which items they select. -/
structure Searcher.PartsDated (searcher : Searcher) (text : String)
    (before on after upTo since : Bool → Operation) : Prop where
  compiles_before : searcher.Compiles "before" text before
  compiles_on : searcher.Compiles "date" text on
  compiles_after : searcher.Compiles "after" text after
  compared_lt : searcher.Compiles "date" ("<" ++ text) before
  compared_gt : searcher.Compiles "date" (">" ++ text) after
  compared_le : searcher.Compiles "date" ("<=" ++ text) upTo
  compared_ge : searcher.Compiles "date" (">=" ++ text) since
  dated : ∀ item : ItemFacts, (item.dates.lookup .date).isSome = true →
    [before true, on true, after true].countP (·.selects item) = 1
  undated : ∀ item : ItemFacts, item.dates.lookup .date = none →
    [before true, on true, after true].countP (·.selects item) = 0
  selects_upTo : ∀ item, (upTo true).selects item =
    ((before true).selects item || (on true).selects item)
  selects_since : ∀ item, (since true).selects item =
    ((on true).selects item || (after true).selects item)

/-- For every text that `date` accepts, be it a timestamp, a relative date or a day. -/
theorem Searcher.parts_dated (searcher : Searcher) {text : String} {node : Node}
    (htrim : Text.trim text = text) (hplain : (Comparator.take text).1 = none)
    (h : searcher.node "date" text = some (.ok node)) :
    ∃ before on after upTo since, searcher.PartsDated text before on after upTo since := by
  obtain ⟨hne, window, hread⟩ := searcher.read_of_node_date htrim hplain h
  have hordered := DateLiteral.start_le_stop_of_read hread
  have hplainly : ∀ field : DateField, field.unit = .day → field.column = .date →
      searcher.Compiles field.searchName text (window.operation field.implied) := by
    intro field hunit hcolumn
    rw [DateWindow.operation, ← hcolumn]
    rw [← hunit] at hread
    exact searcher.compiles_date field htrim hne hread (.inl rfl)
  have hcompared : ∀ comparator : Comparator, comparator ≠ .eq →
      searcher.Compiles "date" (comparator.sign ++ text) (window.operation comparator) := by
    intro comparator hsign
    have hread' := DateLiteral.read_sign hsign htrim hplain hne hread
    have hne' : comparator.sign ++ text ≠ "" := by simp [hne]
    exact searcher.compiles_date .date (comparator.trim_sign_append htrim hne) hne' hread' (.inr rfl)
  refine ⟨window.operation .lt, window.operation .eq, window.operation .gt, window.operation .le,
    window.operation .ge, hplainly .before rfl rfl, hplainly .date rfl rfl, hplainly .after rfl rfl,
    hcompared .lt (by decide), hcompared .gt (by decide), hcompared .le (by decide),
    hcompared .ge (by decide), fun item hdate => ?_, fun item hdate => ?_, fun item => ?_,
    fun item => ?_⟩
  · obtain ⟨moment, hmoment⟩ := Option.isSome_iff_exists.1 hdate
    have hcount := DateWindow.countP_contains hordered moment
    simpa [DateWindow.selects_operation, hmoment, List.countP_cons] using hcount
  · simp [DateWindow.selects_operation, hdate]
  · simp only [DateWindow.selects_operation]
    cases item.dates.lookup .date with
    | none => rfl
    | some moment => exact DateWindow.contains_le hordered moment
  · simp only [DateWindow.selects_operation]
    cases item.dates.lookup .date with
    | none => rfl
    | some moment => exact DateWindow.contains_ge hordered moment

/-- The last moment of all, of which the window has nothing: it is after itself. -/
theorem last_moment_parted :
    let searcher : Searcher := ⟨⟨List.replicate 32 0, rfl⟩, Settings.standard ⟨1710498600, 0⟩⟩
    let text := "9223372036854775807"
    let node : Node := .ofPredicate (.date .date text ⟨none, ⟨Text.maxInt64, Text.maxInt64⟩⟩)
    Text.trim text = text ∧ (Comparator.take text).1 = none ∧
      searcher.node "date" text = some (.ok node) ∧
      ∃ before on after upTo since, searcher.PartsDated text before on after upTo since := by
  intro searcher text node
  have htrim : Text.trim text = text := by decide +kernel
  have hplain : (Comparator.take text).1 = none := by decide +kernel
  have hnode : searcher.node "date" text = some (.ok node) := by decide +kernel
  exact ⟨htrim, hplain, hnode, searcher.parts_dated htrim hplain hnode⟩

end Sift
