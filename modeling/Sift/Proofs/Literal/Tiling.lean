/-
  Sift.Proofs.Literal.Tiling — the date windows of one unit tile the time line.

  A literal that is no timestamp asks for so many units from now, or for a day (`exists_asks_of_read`),
  and its window is a piece of the unit's grid in local time, or out of range (`read_of_asks`). The
  rest follows from the grid, whose pieces stand in order (`start_le`) and leave no moment out
  (`indexOf_spec`): `windows_tile`.
-/

import Sift.Proofs.Literal.Date

namespace Sift.DateLiteral

open Calendar

/-! ## What a literal asks for -/

inductive Target where
  | fromNow (amount : Int)
  | onDay (day : Int)

/-- The text asks for a window of this unit: so many units from now, with the unit's word or by
    default, or a day for which the default unit is this one. -/
inductive Asks (settings : Settings) (unit : DateUnit) : DateUnit → String → Target → Prop
  | fromNow {default : DateUnit} {text : String} {amount : Int} :
      IsRelative unit default (valueOf text) amount →
      Asks settings unit default text (.fromNow amount)
  | onDay {text : String} {day : Int} : readDay settings (unsigned (valueOf text)) = .ok day →
      Asks settings unit unit text (.onDay day)

theorem exists_asks_of_read {settings : Settings} {default : DateUnit} {text : String}
    {literal : DateLiteral} (h : read settings default text = .ok literal) :
    (valueOf text).all Char.isDigit = true ∨
      ∃ unit target, Asks settings unit default text target := by
  by_cases hdigits : (valueOf text).all Char.isDigit = true
  · exact .inl hdigits
  right
  obtain ⟨window, hwindow, -⟩ := read_eq_ok_iff.1 h
  rw [readWindow, if_neg hdigits] at hwindow
  cases hrelative : readRelative (valueOf text) with
  | some relative => exact ⟨_, _, .fromNow (isRelative_of_readRelative default hrelative)⟩
  | none =>
    rw [hrelative] at hwindow
    obtain ⟨day, hday, -⟩ := exists_of_bind hwindow
    exact ⟨default, .onDay day, .onDay hday⟩

/-- Some text asks for the window and gets it. -/
def Yields (settings : Settings) (unit : DateUnit) (target : Target) (window : DateWindow) : Prop :=
  ∃ default text literal, Asks settings unit default text target ∧
    read settings default text = .ok literal ∧ literal.window = window

namespace Target

variable (settings : Settings) (unit : DateUnit)

/-- The number of the piece that holds what is asked for. -/
def index : Target → Int
  | fromNow amount => unit.indexOf settings.localNow + amount
  | onDay day => unit.indexOf (secondsPerDay * day)

/-- Where the window begins in local time: what is beyond the unit is cut off first, and the units
    are counted from there. -/
def start : Target → Int
  | fromNow amount => unit.later amount (unit.truncate settings.localNow)
  | onDay day => unit.truncate (secondsPerDay * day)

theorem start_eq (target : Target) :
    target.start settings unit = unit.start (target.index settings unit) := by
  cases target with
  | fromNow amount => rw [start, index, DateUnit.truncate_eq_start, DateUnit.later_start]
  | onDay day => rw [start, index, DateUnit.truncate_eq_start]

/-- Whether the window begins and ends in the years that are kept, in local time and at the
    meridian. -/
def IsKept (target : Target) : Prop :=
  ∀ second ∈ [target.start settings unit, unit.later 1 (target.start settings unit)],
    keeps second = true ∧ keeps (second - settings.offset) = true

end Target

variable {settings : Settings} {unit default : DateUnit} {text : String} {target : Target}

/-! ## Its window -/

/-- A piece of the unit's grid, in milliseconds since the start of 1970. -/
def piece (settings : Settings) (unit : DateUnit) (index : Int) : DateWindow :=
  ⟨1000 * (unit.start index - settings.offset), 1000 * (unit.start (index + 1) - settings.offset)⟩

theorem pieceWindow_of_isKept (h : target.IsKept settings unit) :
    pieceWindow settings unit (target.index settings unit) =
      .ok (piece settings unit (target.index settings unit)) := by
  rw [Target.IsKept, Target.start_eq, DateUnit.later_start] at h
  obtain ⟨hstart, hstop⟩ := List.forall_mem_cons.1 h
  have hstop' := List.forall_mem_singleton.1 hstop
  simp only [pieceWindow, hstart, hstop', Bool.and_self, reduceIte]
  rfl

theorem pieceWindow_of_not_isKept (h : ¬target.IsKept settings unit) :
    pieceWindow settings unit (target.index settings unit) = .error .dateOutOfRange := by
  rw [Target.IsKept, Target.start_eq, DateUnit.later_start, List.forall_mem_cons,
    List.forall_mem_singleton] at h
  rw [pieceWindow, if_neg]
  simpa [Bool.and_eq_true, and_assoc, and_left_comm] using h

theorem readWindow_of_asks (h : Asks settings unit default text target) :
    readWindow settings default (valueOf text) =
      pieceWindow settings unit (target.index settings unit) := by
  cases h with
  | fromNow hrelative => exact readWindow_of_isRelative hrelative
  | onDay hday => exact readWindow_of_readDay hday

theorem read_of_asks (h : Asks settings unit default text target) :
    read settings default text =
      literalOf text (pieceWindow settings unit (target.index settings unit)) := by
  have hne : valueOf text ≠ [] := by
    cases h with
    | fromNow hrelative => exact hrelative.ne_nil
    | onDay hday =>
      obtain ⟨c, hhead, -⟩ := beginsDate_of_readDay hday
      exact List.ne_nil_of_mem (List.mem_of_head? hhead)
  rw [read_of_valueOf_ne hne, readWindow_of_asks h]

theorem Yields.eq_piece {window : DateWindow} (h : Yields settings unit target window) :
    window = piece settings unit (target.index settings unit) := by
  obtain ⟨default, text, literal, hasks, hread, rfl⟩ := h
  rw [read_of_asks hasks] at hread
  by_cases hkept : target.IsKept settings unit
  · rw [pieceWindow_of_isKept hkept, literalOf, Except.ok.injEq] at hread
    rw [← hread]
  · rw [pieceWindow_of_not_isKept hkept] at hread
    cases hread

/-! ## Tiling -/

theorem piece_start_lt_stop (settings : Settings) (unit : DateUnit) (index : Int) :
    (piece settings unit index).start < (piece settings unit index).stop := by
  have hlt := unit.start_lt_succ index
  simp only [piece]
  omega

theorem piece_stop_le {i j : Int} (h : i < j) :
    (piece settings unit i).stop ≤ (piece settings unit j).start := by
  have hle : unit.start (i + 1) ≤ unit.start j := unit.start_le (Int.add_one_le_of_lt h)
  simp only [piece]
  omega

/-- The windows of a unit cover the time line without gaps or overlaps. -/
structure Tiles (settings : Settings) (unit : DateUnit) : Prop where
  answered : ∀ {default : DateUnit} {text : String} {target : Target},
    Asks settings unit default text target → target.IsKept settings unit →
    ∃ literal, read settings default text = .ok literal
  refused : ∀ {default : DateUnit} {text : String} {target : Target},
    Asks settings unit default text target → ¬target.IsKept settings unit →
    read settings default text = .error (.invalidLiteral .date text .dateOutOfRange)
  /-- One unit long on the calendar. -/
  unitLong : ∀ {target : Target} {window : DateWindow}, Yields settings unit target window →
    window.start = 1000 * (target.start settings unit - settings.offset) ∧
      window.stop = 1000 * (unit.later 1 (target.start settings unit) - settings.offset)
  nonempty : ∀ {target : Target} {window : DateWindow}, Yields settings unit target window →
    window.start < window.stop
  successive : ∀ {amount : Int} {window next : DateWindow},
    Yields settings unit (.fromNow amount) window →
    Yields settings unit (.fromNow (amount + 1)) next → window.stop = next.start
  present : ∀ {window : DateWindow}, Yields settings unit (.fromNow 0) window →
    window.start ≤ settings.now.epochMillis ∧ settings.now.epochMillis < window.stop
  midnight : ∀ {day : Int} {window : DateWindow}, Yields settings unit (.onDay day) window →
    window.start ≤ 1000 * (secondsPerDay * day - settings.offset) ∧
      1000 * (secondsPerDay * day - settings.offset) < window.stop
  apart : ∀ {target other : Target} {window window' : DateWindow},
    Yields settings unit target window → Yields settings unit other window' →
    window = window' ∨ window.stop ≤ window'.start ∨ window'.stop ≤ window.start

theorem windows_tile (settings : Settings) (unit : DateUnit) (h : settings.now.milli < 1000) :
    Tiles settings unit where
  answered := by
    intro default text target hasks hkept
    rw [read_of_asks hasks, pieceWindow_of_isKept hkept]
    exact ⟨_, rfl⟩
  refused := by
    intro default text target hasks hkept
    rw [read_of_asks hasks, pieceWindow_of_not_isKept hkept]
    rfl
  unitLong := by
    intro target window hyields
    rw [hyields.eq_piece, Target.start_eq, DateUnit.later_start]
    exact ⟨rfl, rfl⟩
  nonempty := by
    intro target window hyields
    rw [hyields.eq_piece]
    exact piece_start_lt_stop settings unit (target.index settings unit)
  successive := by
    intro amount window next hwindow hnext
    rw [hwindow.eq_piece, hnext.eq_piece, Target.index, Target.index, ← Int.add_assoc]
    rfl
  present := by
    intro window hyields
    obtain ⟨hstart, hstop⟩ := unit.indexOf_spec settings.localNow
    rw [Settings.localNow] at hstart hstop
    rw [hyields.eq_piece, Target.index, Int.add_zero]
    simp only [piece, Instant.epochMillis, Settings.localNow]
    omega
  midnight := by
    intro day window hyields
    obtain ⟨hstart, hstop⟩ := unit.indexOf_spec (secondsPerDay * day)
    rw [hyields.eq_piece]
    simp only [piece, Target.index]
    omega
  apart := by
    intro target other window window' hwindow hother
    rw [hwindow.eq_piece, hother.eq_piece]
    rcases Int.lt_trichotomy (target.index settings unit) (other.index settings unit) with hlt | heq | hlt
    · exact .inr (.inl (piece_stop_le hlt))
    · rw [heq]
      exact .inl rfl
    · exact .inr (.inr (piece_stop_le hlt))

/-- In mid-March, five hours west: last month, the leap day and this month. -/
theorem leap_february_tiles :
    let settings : Settings := { Settings.standard ⟨1710498600, 0⟩ with offsetMinutes := -300 }
    let february : DateWindow := ⟨1706763600000, 1709269200000⟩
    let march : DateWindow := ⟨1709269200000, 1711947600000⟩
    settings.now.milli < 1000 ∧ Yields settings .month (.fromNow (-1)) february ∧
      Yields settings .month (.onDay 19782) february ∧
      Yields settings .month (.fromNow 0) march ∧ Tiles settings .month := by
  intro settings february march
  have hlast : readRelative (valueOf "-1") = some (-1, none) := by decide +kernel
  have hthis : readRelative (valueOf "+0Months") = some (0, some .month) := by decide +kernel
  have hday : readDay settings (unsigned (valueOf ">2/29/24")) = .ok 19782 := by decide +kernel
  have hasks : Asks settings .month .month "-1" (.fromNow (-1)) :=
    .fromNow (isRelative_of_readRelative .month hlast)
  have hasks' : Asks settings .month .week "+0Months" (.fromNow 0) :=
    .fromNow (isRelative_of_readRelative .week hthis)
  have hread : read settings .month "-1" = .ok ⟨none, february⟩ := by decide +kernel
  have hread' : read settings .week "+0Months" = .ok ⟨none, march⟩ := by decide +kernel
  have hdayRead : read settings .month ">2/29/24" = .ok ⟨some .gt, february⟩ := by decide +kernel
  have hnow : settings.now.milli < 1000 := by decide
  exact ⟨hnow, ⟨_, _, _, hasks, hread, rfl⟩, ⟨_, _, _, .onDay hday, hdayRead, rfl⟩,
    ⟨_, _, _, hasks', hread', rfl⟩, windows_tile settings .month hnow⟩

end Sift.DateLiteral
