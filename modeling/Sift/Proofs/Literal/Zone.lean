/-
  Sift.Proofs.Literal.Zone — a date read in a time zone, and at the meridian.

  The offset is used three times on the way to a window: for the present piece of a unit's grid, for the
  present year, which completes the two digits of a short date, and for turning the ends of the window
  into moments. The first two see it through the local time only, so a search at the meridian whose
  clock shows the same time (`Settings.atMeridian`) goes the same way up to the third.

  - `readDay_atMeridian` / `readWindow_shifted`: the day is the same, and the window of a date that is no
    timestamp is the meridian's, as much earlier as local time is ahead (`Shifted`).
  - `read_as_at_meridian`: so is every literal. The years that are kept end at the meridian and in local
    time alike, and a window may leave them in the one and not in the other; that is the only way in
    which one of the two is refused alone.
-/

import Sift.Proofs.Literal.Tiling

namespace Sift

open Calendar

/-! ## The same clock at the meridian -/

/-- A second of the clock that is a leap second stays one, as it does in all time zones. -/
def Instant.later (t : Instant) (seconds : Int) : Instant := { t with second := t.second + seconds }

/-- The search as it would be made at the meridian when the clock there shows the local time. -/
def Settings.atMeridian (settings : Settings) : Settings :=
  { settings with
    offsetMinutes := 0
    now := settings.now.later (60 * settings.offsetMinutes) }

/-- Less than a whole day ahead or behind. -/
def Settings.InZone (settings : Settings) : Prop :=
  -1440 < settings.offsetMinutes ∧ settings.offsetMinutes < 1440

instance (settings : Settings) : Decidable settings.InZone :=
  inferInstanceAs (Decidable (_ ∧ _))

namespace Settings

variable {settings : Settings}

theorem offset_of_inZone (h : settings.InZone) : settings.offset = 60 * settings.offsetMinutes := by
  obtain ⟨hbehind, hahead⟩ := h
  have hday : -secondsPerDay < 60 * settings.offsetMinutes ∧
      60 * settings.offsetMinutes < secondsPerDay := by
    simp only [secondsPerDay]
    omega
  simp only [offset, if_pos hday]

@[simp] theorem offset_atMeridian (settings : Settings) : settings.atMeridian.offset = 0 := rfl

theorem localNow_atMeridian (h : settings.InZone) :
    settings.atMeridian.localNow = settings.localNow := by
  show settings.now.second + 60 * settings.offsetMinutes + 0 = settings.now.second + settings.offset
  rw [offset_of_inZone h]
  omega

end Settings

/-- The window that begins and ends so many seconds earlier. -/
def DateWindow.earlier (window : DateWindow) (seconds : Int) : DateWindow :=
  ⟨window.start - 1000 * seconds, window.stop - 1000 * seconds⟩

namespace DateLiteral

variable {settings : Settings} {unit : DateUnit} {cs : List Char} {text : String}

/-! ## Windows -/

/-- What comes of a date here, beside what comes of it at the meridian: the window so many seconds
    earlier, no window because it is out of range here, or the same flaw. -/
inductive Shifted (seconds : Int) : Except Flaw DateWindow → Except Flaw DateWindow → Prop
  | window (window : DateWindow) : Shifted seconds (.ok (window.earlier seconds)) (.ok window)
  | outOfRange (window : DateWindow) : Shifted seconds (.error .dateOutOfRange) (.ok window)
  | flawed (flaw : Flaw) : Shifted seconds (.error flaw) (.error flaw)

theorem pieceWindow_eq (settings : Settings) (unit : DateUnit) (index : Int) :
    pieceWindow settings unit index =
      if keeps (unit.start index) = true ∧ keeps (unit.start (index + 1)) = true ∧
          keeps (unit.start index - settings.offset) = true ∧
          keeps (unit.start (index + 1) - settings.offset) = true then
        .ok (piece settings unit index)
      else .error .dateOutOfRange := by
  simp only [pieceWindow, piece, Bool.and_eq_true, and_assoc]

theorem piece_eq_earlier (settings : Settings) (unit : DateUnit) (index : Int) :
    piece settings unit index = (piece settings.atMeridian unit index).earlier settings.offset := by
  simp only [piece, DateWindow.earlier, Settings.offset_atMeridian, DateWindow.mk.injEq]
  omega

/-- A window that is kept here is kept at the meridian, where less is asked. -/
theorem pieceWindow_shifted (settings : Settings) (unit : DateUnit) (index : Int) :
    Shifted settings.offset (pieceWindow settings unit index)
      (pieceWindow settings.atMeridian unit index) := by
  rw [pieceWindow_eq settings, pieceWindow_eq settings.atMeridian, Settings.offset_atMeridian,
    Int.sub_zero, Int.sub_zero, piece_eq_earlier]
  by_cases hlocal : keeps (unit.start index) = true ∧ keeps (unit.start (index + 1)) = true
  · have hthere : keeps (unit.start index) = true ∧ keeps (unit.start (index + 1)) = true ∧
        keeps (unit.start index) = true ∧ keeps (unit.start (index + 1)) = true :=
      ⟨hlocal.1, hlocal.2, hlocal⟩
    rw [if_pos hthere]
    split
    · exact .window _
    · exact .outOfRange _
  · rw [if_neg (fun h => hlocal ⟨h.1, h.2.1⟩), if_neg (fun h => hlocal ⟨h.1, h.2.1⟩)]
    exact .flawed _

/-- The present year is that of the local time. -/
theorem readDay_atMeridian (h : settings.InZone) (cs : List Char) :
    readDay settings.atMeridian cs = readDay settings cs := by
  unfold readDay
  rw [Settings.localNow_atMeridian h]
  rfl

theorem readWindow_shifted (h : settings.InZone) (unit : DateUnit)
    (hdate : cs.all Char.isDigit = false) :
    Shifted settings.offset (readWindow settings unit cs) (readWindow settings.atMeridian unit cs) := by
  simp only [readWindow, hdate, Bool.false_eq_true, if_false]
  cases readRelative cs with
  | some relative =>
    show Shifted _ (relativeWindow settings _ _) (relativeWindow settings.atMeridian _ _)
    rw [relativeWindow, relativeWindow, Settings.localNow_atMeridian h]
    exact pieceWindow_shifted settings _ _
  | none =>
    simp only [readDay_atMeridian h]
    cases readDay settings (cs.dropWhile fun c => c == '+' || c == '-') with
    | error flaw => exact .flawed flaw
    | ok day => exact pieceWindow_shifted settings unit _

/-! ## Literals -/

/-- A timestamp is a moment, whatever the clock shows. -/
theorem read_of_moment (settings other : Settings) (unit : DateUnit)
    (h : (valueOf text).all Char.isDigit = true) : read settings unit text = read other unit text := by
  have hwindow : readWindow settings unit (valueOf text) = readWindow other unit (valueOf text) := by
    simp only [readWindow, h, if_true]
  simp only [read]
  rw [← valueOf, hwindow]

theorem read_of_date (settings : Settings) (unit : DateUnit)
    (h : (valueOf text).all Char.isDigit = false) :
    read settings unit text = literalOf text (readWindow settings unit (valueOf text)) := by
  apply read_of_valueOf_ne
  intro hnil
  rw [hnil] at h
  cases h

/-- What a literal is here beside what it is at the meridian. -/
structure ReadsAsAtMeridian (settings : Settings) (unit : DateUnit) (text : String) : Prop where
  moment : (valueOf text).all Char.isDigit = true →
    read settings unit text = read settings.atMeridian unit text
  date : (valueOf text).all Char.isDigit = false → ∀ here there,
    read settings unit text = .ok here → read settings.atMeridian unit text = .ok there →
      here.comparator = there.comparator ∧
        here.window = there.window.earlier (60 * settings.offsetMinutes)
  refused_there : ∀ fault, read settings.atMeridian unit text = .error fault →
    read settings unit text = .error fault
  /-- Only a window out of range is refused here alone. -/
  refused_here : ∀ fault, read settings unit text = .error fault →
    read settings.atMeridian unit text = .error fault ∨
      fault = .invalidLiteral .date text .dateOutOfRange

/-- For every date, and whatever is no date. -/
theorem read_as_at_meridian (settings : Settings) (h : settings.InZone) (unit : DateUnit)
    (text : String) : ReadsAsAtMeridian settings unit text := by
  by_cases hmoment : (valueOf text).all Char.isDigit = true
  · have hsame := read_of_moment settings settings.atMeridian unit hmoment
    constructor
    case moment => exact fun _ => hsame
    case date =>
      intro hdate
      rw [hmoment] at hdate
      cases hdate
    case refused_there =>
      intro fault hfault
      rw [hsame, hfault]
    case refused_here =>
      intro fault hfault
      rw [hsame] at hfault
      exact .inl hfault
  · have hdate : (valueOf text).all Char.isDigit = false := by simpa using hmoment
    have hshifted := readWindow_shifted h unit hdate
    rw [Settings.offset_of_inZone h] at hshifted
    have hhere := read_of_date settings unit hdate
    have hthere := read_of_date settings.atMeridian unit hdate
    generalize readWindow settings unit (valueOf text) = result at hshifted hhere
    generalize readWindow settings.atMeridian unit (valueOf text) = other at hshifted hthere
    constructor
    case moment => exact fun hdigits => absurd hdigits hmoment
    case date =>
      intro _ here there hreadHere hreadThere
      rw [hhere] at hreadHere
      rw [hthere] at hreadThere
      cases hshifted with
      | window window =>
        rw [← Except.ok.inj hreadHere, ← Except.ok.inj hreadThere]
        exact ⟨rfl, rfl⟩
      | outOfRange => cases hreadHere
      | flawed => cases hreadHere
    case refused_there =>
      intro fault hfault
      rw [hthere] at hfault
      rw [hhere]
      cases hshifted with
      | window => cases hfault
      | outOfRange => cases hfault
      | flawed => exact hfault
    case refused_here =>
      intro fault hfault
      rw [hhere] at hfault
      rw [hthere]
      cases hshifted with
      | window => cases hfault
      | outOfRange =>
        cases hfault
        exact .inr rfl
      | flawed => exact .inl hfault

/-- Half an hour before midnight at the meridian, on the last day of 2023: an hour ahead it is 2024, and
    the digits 44 are just near enough to be of this century. -/
theorem new_year_shifted :
    let settings : Settings := { Settings.standard ⟨1704065400, 0⟩ with offsetMinutes := 60 }
    let here : DateLiteral := ⟨some .gt, ⟨2335215600000, 2335302000000⟩⟩
    let there : DateLiteral := ⟨some .gt, ⟨2335219200000, 2335305600000⟩⟩
    settings.InZone ∧ read settings .day ">1/1/44" = .ok here ∧
      read settings.atMeridian .day ">1/1/44" = .ok there ∧
      here.window = there.window.earlier 3600 ∧ ReadsAsAtMeridian settings .day ">1/1/44" ∧
      read { settings with offsetMinutes := 0 } .day ">1/1/44" =
        .ok ⟨some .gt, ⟨-820540800000, -820454400000⟩⟩ := by
  intro settings here there
  have hzone : settings.InZone := by decide
  have hreads := read_as_at_meridian settings hzone .day ">1/1/44"
  have hhere : read settings .day ">1/1/44" = .ok here := by decide +kernel
  have hthere : read settings.atMeridian .day ">1/1/44" = .ok there := by decide +kernel
  have hdate : (valueOf ">1/1/44").all Char.isDigit = false := by decide +kernel
  have hearlier := (hreads.date hdate here there hhere hthere).2
  exact ⟨hzone, hhere, hthere, hearlier, hreads, by decide +kernel⟩

end DateLiteral

end Sift
