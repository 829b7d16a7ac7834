/-
  Sift.Proofs.Literal.Date — which texts are read as relative dates and which as days.

  - `IsRelative.readRelative` / `isRelative_of_readRelative`: a relative date is a sign, a number of 32
    bits and a word for a unit, and is read as just that.
  - `IsShortDate.readDateParts` / `isShortDate_of_readDateParts`: a day is three numbers with
    separators, and is read as just those.
  - `readWindow_of_isRelative` / `readWindow_of_readDay`: the window of a relative date is so many units
    from now; a day is never taken for one, and its window is the unit that holds it.
  - `beginsDate_of_readWindow`: whatever names a window begins with a digit or a sign.
  - `read_of_valueOf_ne` / `read_eq_ok_iff`: the window, or what is wrong with it, is all that the
    literal adds to its comparator.
-/

import Sift.Literal.Date
import Sift.Proofs.Outcome
import Sift.Proofs.Text.Decimal
import Sift.Proofs.Text.Trim
import Sift.Proofs.Time.DateUnit

namespace Sift.DateLiteral

/-! ## Relative dates -/

/-- A number of 32 bits without a sign. -/
structure IsAmount (digits : List Char) : Prop where
  nonempty : digits ≠ []
  isDigit : ∀ c ∈ digits, c.isDigit = true
  fits : Text.digitsValue digits < 2147483648

/-- The word after the number: nothing, for the default unit, or any word that means the unit. -/
inductive IsUnitWord (unit default : DateUnit) : List Char → Prop
  | unnamed : default = unit → IsUnitWord unit default []
  | named {word : List Char} : (∀ c ∈ word, c.isLower = true) → DateUnit.ofWord word = some unit →
      IsUnitWord unit default word

/-- A sign, a number and a unit: so many units ahead of now, or ago. -/
inductive IsRelative (unit default : DateUnit) : List Char → Int → Prop
  | intro (ago : Bool) {digits word : List Char} :
      IsAmount digits → IsUnitWord unit default word →
      IsRelative unit default ((if ago then '-' else '+') :: (digits ++ word))
        (if ago then -Text.digitsValue digits else Text.digitsValue digits)

variable {unit default : DateUnit} {cs digits word : List Char} {amount : Int}

/-! ### The unit -/

/-- The unit that the word after a number names, if it names one. -/
def unitOf (word : List Char) : Option (Option DateUnit) :=
  if word.isEmpty then some none
  else if word.all Char.isLower then (DateUnit.ofWord word).map some
  else none

theorem IsUnitWord.isLower (h : IsUnitWord unit default word) : ∀ c ∈ word, c.isLower = true := by
  cases h with
  | unnamed => simp
  | named hlower => exact hlower

theorem IsUnitWord.unitOf (h : IsUnitWord unit default word) :
    ∃ named, unitOf word = some named ∧ named.getD default = unit := by
  cases h with
  | unnamed hdefault => exact ⟨none, rfl, hdefault⟩
  | named hlower hword =>
    cases word with
    | nil => cases hword
    | cons c cs =>
      refine ⟨some unit, ?_, rfl⟩
      rw [DateLiteral.unitOf, List.isEmpty_cons, if_neg Bool.false_ne_true,
        if_pos (List.all_eq_true.2 hlower), hword, Option.map_some]

theorem isUnitWord_of_unitOf (default : DateUnit) {named : Option DateUnit}
    (h : unitOf word = some named) :
    IsUnitWord (named.getD default) default word := by
  unfold unitOf at h
  split at h
  · next hempty =>
    rw [List.isEmpty_iff.1 hempty]
    cases h
    exact .unnamed rfl
  · split at h
    · next hlower =>
      obtain ⟨unit, hunit, rfl⟩ := Option.map_eq_some_iff.1 h
      exact .named (List.all_eq_true.1 hlower) hunit
    · cases h

/-! ### The number -/

/-- The small letters come after the digits. -/
theorem not_isDigit_of_isLower {c : Char} (h : c.isLower = true) : c.isDigit = false := by
  have hlow : 'a'.val ≤ c.val := of_decide_eq_true (Bool.and_eq_true_iff.1 h).1
  rw [Char.isDigit, Bool.and_eq_false_iff]
  refine .inr (decide_eq_false fun hhigh => ?_)
  have hle : 'a'.val ≤ '9'.val := UInt32.le_trans hlow hhigh
  exact absurd hle (by decide)

theorem IsAmount.split (h : IsAmount digits) (hword : ∀ c ∈ word, c.isLower = true) :
    (digits ++ word).takeWhile Char.isDigit = digits ∧
      (digits ++ word).dropWhile Char.isDigit = word :=
  Text.takeWhile_append_of_head? h.isDigit fun c hc =>
    not_isDigit_of_isLower (hword c (List.mem_of_head? hc))

theorem fitsSigned_ofNat_iff (n : Nat) :
    Text.fitsSigned 32 (Int.ofNat n) = true ↔ n < 2147483648 := by
  have hpow : Int.pow 2 (32 - 1) = 2147483648 := by decide
  simp only [Text.fitsSigned, hpow, Bool.and_eq_true, decide_eq_true_iff, Int.ofNat_eq_natCast]
  omega

theorem IsAmount.readNat (h : IsAmount digits) :
    Text.readNat digits = some (Text.digitsValue digits) :=
  Text.readNat_eq_some_iff.2 ⟨h.nonempty, h.isDigit, rfl⟩

theorem isAmount_of_readNat {n : Nat} (h : Text.readNat digits = some n)
    (hfits : Text.fitsSigned 32 (Int.ofNat n) = true) :
    IsAmount digits ∧ n = Text.digitsValue digits := by
  obtain ⟨hne, hdigits, rfl⟩ := Text.readNat_eq_some_iff.1 h
  exact ⟨⟨hne, hdigits, (fitsSigned_ofNat_iff _).1 hfits⟩, rfl⟩

/-! ### All of it -/

/-- Whether a sign counts back. -/
def signOf (sign : Char) : Option Bool :=
  if sign = '-' then some true else if sign = '+' then some false else none

theorem IsRelative.ne_nil (h : IsRelative unit default cs amount) : cs ≠ [] := by
  obtain ⟨ago, -, -⟩ := h
  exact List.cons_ne_nil _ _

theorem signOf_eq_some_iff {sign : Char} {ago : Bool} :
    signOf sign = some ago ↔ sign = if ago then '-' else '+' := by
  cases ago <;> grind [signOf]

theorem readRelative_cons (sign : Char) (cs : List Char) :
    readRelative (sign :: cs) = (signOf sign).bind fun ago =>
      (unitOf (cs.dropWhile Char.isDigit)).bind fun named =>
        ((Text.readNat (cs.takeWhile Char.isDigit)).map Int.ofNat).bind fun amount =>
          if Text.fitsSigned 32 amount then some (if ago then -amount else amount, named)
          else none := by
  unfold readRelative signOf unitOf
  split_ifs <;>
    simp only [*, Option.bind_eq_bind, reduceIte, Bool.false_eq_true, Char.reduceEq]

theorem IsRelative.readRelative (h : IsRelative unit default cs amount) :
    ∃ named, readRelative cs = some (amount, named) ∧ named.getD default = unit := by
  obtain ⟨ago, hdigits, hword⟩ := h
  obtain ⟨htake, hdrop⟩ := hdigits.split hword.isLower
  obtain ⟨named, hnamed, hunit⟩ := hword.unitOf
  have hfits := (fitsSigned_ofNat_iff _).2 hdigits.fits
  have hsign := signOf_eq_some_iff.2 (rfl : (if ago then '-' else '+') = _)
  refine ⟨named, ?_, hunit⟩
  rw [readRelative_cons, hsign, htake, hdrop, hnamed, hdigits.readNat, Option.bind_some,
    Option.bind_some, Option.map_some, Option.bind_some, if_pos hfits]
  rfl

theorem isRelative_of_readRelative (default : DateUnit) {named : Option DateUnit}
    (h : readRelative cs = some (amount, named)) :
    IsRelative (named.getD default) default cs amount := by
  cases cs with
  | nil => cases h
  | cons sign cs =>
    rw [readRelative_cons] at h
    obtain ⟨ago, hsign, h⟩ := Option.bind_eq_some_iff.1 h
    obtain ⟨unit, hunit, h⟩ := Option.bind_eq_some_iff.1 h
    obtain ⟨n, hn, h⟩ := Option.bind_eq_some_iff.1 h
    obtain ⟨m, hm, rfl⟩ := Option.map_eq_some_iff.1 hn
    by_cases hfits : Text.fitsSigned 32 (Int.ofNat m) = true
    · rw [if_pos hfits, Option.some.injEq, Prod.mk.injEq] at h
      obtain ⟨rfl, rfl⟩ := h
      obtain ⟨hdigits, rfl⟩ := isAmount_of_readNat hm hfits
      have hintro := IsRelative.intro ago hdigits (isUnitWord_of_unitOf default hunit)
      rw [List.takeWhile_append_dropWhile] at hintro
      rw [signOf_eq_some_iff.1 hsign]
      exact hintro
    · rw [if_neg hfits] at h
      cases h

/-! ## Days -/

/-- A number of one to four digits. -/
structure IsDatePart (digits : List Char) (n : Int) : Prop where
  nonempty : digits ≠ []
  isDigit : ∀ c ∈ digits, c.isDigit = true
  short : digits.length ≤ 4
  value : n = Text.digitsValue digits

/-- Three numbers with a separator between each two of them, the same both times. -/
inductive IsShortDate : List Char → Int × Int × Int → Prop
  | intro {separator : Char} {first second third : List Char} {a b c : Int} :
      isSeparator separator = true →
      IsDatePart first a → IsDatePart second b → IsDatePart third c →
      IsShortDate (first ++ separator :: (second ++ separator :: third)) (a, b, c)

variable {n : Int} {parts : Int × Int × Int}

theorem isSeparator_cases {c : Char} (h : isSeparator c = true) : c = '/' ∨ c = '.' ∨ c = '-' := by
  simpa [isSeparator, or_assoc] using h

theorem not_isSeparator_of_isDigit {c : Char} (h : c.isDigit = true) : isSeparator c = false := by
  by_contra hseparator
  rcases isSeparator_cases (Bool.not_eq_false _ ▸ hseparator) with rfl | rfl | rfl <;> cases h

theorem readDatePart_eq_some_iff : readDatePart digits = some n ↔ IsDatePart digits n := by
  rw [readDatePart, Option.ite_none_right_eq_some, Option.map_eq_some_iff]
  constructor
  · rintro ⟨hshort, value, hvalue, rfl⟩
    obtain ⟨hne, hdigits, rfl⟩ := Text.readNat_eq_some_iff.1 hvalue
    exact ⟨hne, hdigits, hshort, rfl⟩
  · intro h
    exact ⟨h.short, _, Text.readNat_eq_some_iff.2 ⟨h.nonempty, h.isDigit, rfl⟩, h.value.symm⟩

/-- The first separator is found, and what stands between it and its like is no longer than it was. -/
theorem IsShortDate.readDateParts (h : IsShortDate cs parts) : readDateParts cs = some parts := by
  obtain ⟨hseparator, hfirst, hsecond, hthird⟩ := h
  rename_i separator first second third a b c
  have hplain : ∀ {digits n}, IsDatePart digits n → ∀ c ∈ digits, isSeparator c = false :=
    fun h c hc => not_isSeparator_of_isDigit (h.isDigit c hc)
  have hother : ∀ {digits n}, IsDatePart digits n → separator ∉ digits := by
    intro digits n hpart hmem
    rw [hplain hpart separator hmem] at hseparator
    cases hseparator
  have hfind : (first ++ separator :: (second ++ separator :: third)).find? isSeparator =
      some separator := by
    have hnone : first.find? isSeparator = none :=
      List.find?_eq_none.2 fun c hc => by simp [hplain hfirst c hc]
    rw [List.find?_append, hnone, Option.none_or, List.find?_cons_of_pos hseparator]
  have hsplit : (first ++ separator :: (second ++ separator :: third)).splitOn separator =
      [first, second, third] := by
    rw [List.splitOn_append_cons_self_of_not_mem (hother hfirst),
      List.splitOn_append_cons_self_of_not_mem (hother hsecond),
      List.splitOn_eq_singleton (hother hthird)]
  simp only [DateLiteral.readDateParts, hfind, hsplit, Option.bind_eq_bind, Option.bind_some,
    readDatePart_eq_some_iff.2 hfirst, readDatePart_eq_some_iff.2 hsecond,
    readDatePart_eq_some_iff.2 hthird]
  rfl

theorem isShortDate_of_readDateParts (h : readDateParts cs = some parts) : IsShortDate cs parts := by
  obtain ⟨separator, hfind, hparts⟩ := Option.bind_eq_some_iff.1 h
  have hjoin : List.intercalate [separator] (cs.splitOn separator) = cs :=
    List.intercalate_splitOn separator
  split at hparts
  · next first second third hsplit =>
    obtain ⟨a, ha, hparts⟩ := Option.bind_eq_some_iff.1 hparts
    obtain ⟨b, hb, hparts⟩ := Option.bind_eq_some_iff.1 hparts
    obtain ⟨c, hc, hparts⟩ := Option.bind_eq_some_iff.1 hparts
    cases hparts
    rw [hsplit, List.intercalate_cons_cons, List.intercalate_cons_cons, List.intercalate_singleton]
      at hjoin
    have hdate := IsShortDate.intro (List.find?_some hfind) (readDatePart_eq_some_iff.1 ha)
      (readDatePart_eq_some_iff.1 hb) (readDatePart_eq_some_iff.1 hc)
    simpa only [← hjoin, List.append_assoc, List.singleton_append] using hdate
  · cases hparts

theorem IsShortDate.exists_separator (h : IsShortDate cs parts) :
    ∃ c ∈ cs, isSeparator c = true := by
  obtain ⟨hseparator, -, -, -⟩ := h
  exact ⟨_, List.mem_append_right _ List.mem_cons_self, hseparator⟩

/-- A day is a short date, and the date is on the calendar once its year has been filled in. -/
theorem exists_date_of_readDay {settings : Settings} {day : Int} (h : readDay settings cs = .ok day) :
    ∃ parts, IsShortDate cs parts ∧
      let (year, month, dayOfMonth) := arrange settings.dateOrder parts
      let current := Calendar.yearOf (settings.localNow / Calendar.secondsPerDay)
      Calendar.dayOf (fullYear current year) month dayOfMonth = some day := by
  unfold readDay at h
  split at h
  · cases h
  next parts hparts =>
  refine ⟨parts, isShortDate_of_readDateParts hparts, ?_⟩
  dsimp only at h ⊢
  split at h
  · cases h
  next found hfound =>
  split at h
  · cases h
    exact hfound
  · cases h

/-- The digits of a day, without the signs that may stand before it. -/
def unsigned (cs : List Char) : List Char := cs.dropWhile fun c => c == '+' || c == '-'

theorem IsRelative.unsigned (h : IsRelative unit default cs amount) :
    ∃ digits word, unsigned cs = digits ++ word ∧ IsAmount digits ∧
      ∀ c ∈ word, c.isLower = true := by
  obtain ⟨ago, hdigits, hword⟩ := h
  rename_i digits word
  refine ⟨digits, word, ?_, hdigits, hword.isLower⟩
  obtain ⟨d, ds, rfl⟩ := List.exists_cons_of_ne_nil hdigits.nonempty
  have hd := hdigits.isDigit d List.mem_cons_self
  have hsign : (d == '+' || d == '-') = false := by
    rw [Bool.or_eq_false_iff, beq_eq_false_iff_ne, beq_eq_false_iff_ne]
    constructor <;> rintro rfl <;> cases hd
  cases ago <;> simp [DateLiteral.unsigned, hsign]

/-- Neither a digit nor a letter is a separator, so a short date is no relative one. -/
theorem IsShortDate.readRelative (h : IsShortDate (DateLiteral.unsigned cs) parts) :
    readRelative cs = none := by
  obtain ⟨separator, hmem, hseparator⟩ := h.exists_separator
  cases hread : DateLiteral.readRelative cs with
  | none => rfl
  | some relative =>
    obtain ⟨digits, word, hsplit, hdigits, hword⟩ :=
      (isRelative_of_readRelative .day hread).unsigned
    rw [hsplit] at hmem
    rcases List.mem_append.1 hmem with hmem | hmem
    · have hplain := not_isSeparator_of_isDigit (hdigits.isDigit separator hmem)
      rw [hseparator] at hplain
      cases hplain
    · have hlower := hword separator hmem
      rcases isSeparator_cases hseparator with rfl | rfl | rfl <;> cases hlower

/-! ## All of a literal -/

/-- The date in a literal: what stands after the comparator in lower case, with the words for days
    written out. -/
def valueOf (text : String) : List Char :=
  (expandWord (Text.lower (Comparator.take (Text.trim text)).2)).toList

/-- What the text is read as when the date in it names this window. -/
def literalOf (text : String) : Except Flaw DateWindow → Except Fault DateLiteral
  | .ok window => .ok ⟨(Comparator.take (Text.trim text)).1, window⟩
  | .error flaw => .error (.invalidLiteral .date text flaw)

theorem read_of_valueOf_ne {settings : Settings} {text : String} (h : valueOf text ≠ []) :
    read settings default text =
      literalOf text (readWindow settings default (valueOf text)) := by
  have hvalue : (Comparator.take (Text.trim text)).2.isEmpty = false := by
    rw [String.isEmpty_eq_false_iff]
    intro hempty
    refine h ?_
    rw [valueOf, hempty]
    decide
  simp only [read, hvalue, Bool.false_eq_true, reduceIte]
  rw [← valueOf]
  cases readWindow settings default (valueOf text) with
  | ok window => rfl
  | error flaw => rfl

theorem readWindow_of_isRelative {settings : Settings}
    (h : IsRelative unit default cs amount) :
    readWindow settings default cs = relativeWindow settings amount unit := by
  obtain ⟨named, hread, hunit⟩ := h.readRelative
  have hdigits : cs.all Char.isDigit = false := by
    obtain ⟨ago, -, -⟩ := h
    cases ago <;> rfl
  rw [readWindow, hdigits, if_neg Bool.false_ne_true, hread]
  simp only [hunit]

/-- A value with separators is neither a moment nor a relative date. -/
theorem readWindow_of_isShortDate {settings : Settings} (h : IsShortDate (unsigned cs) parts) :
    readWindow settings default cs = readDay settings (unsigned cs) >>= fun day =>
      pieceWindow settings default (default.indexOf (Calendar.secondsPerDay * day)) := by
  obtain ⟨separator, hmem, hseparator⟩ := h.exists_separator
  have hdigits : cs.all Char.isDigit = false := by
    refine List.all_eq_false.2 ⟨separator, (List.dropWhile_sublist _).subset hmem, ?_⟩
    rcases isSeparator_cases hseparator with rfl | rfl | rfl <;> decide
  rw [readWindow, hdigits, if_neg Bool.false_ne_true, h.readRelative]
  rfl

theorem readWindow_of_readDay {settings : Settings} {day : Int}
    (h : readDay settings (unsigned cs) = .ok day) :
    readWindow settings default cs =
      pieceWindow settings default (default.indexOf (Calendar.secondsPerDay * day)) := by
  obtain ⟨parts, hdate, -⟩ := exists_date_of_readDay h
  rw [readWindow_of_isShortDate hdate, h]
  rfl

/-! ## Where a date begins -/

/-- A digit or a sign. -/
def BeginsDate (cs : List Char) : Prop := ∃ c ∈ cs.head?, c.isDigit = true ∨ c = '+' ∨ c = '-'

theorem IsShortDate.exists_head (h : IsShortDate cs parts) : ∃ c ∈ cs.head?, c.isDigit = true := by
  obtain ⟨-, hfirst, -, -⟩ := h
  obtain ⟨c, digits, rfl⟩ := List.exists_cons_of_ne_nil hfirst.nonempty
  exact ⟨c, rfl, hfirst.isDigit c List.mem_cons_self⟩

theorem beginsDate_of_readDay {settings : Settings} {day : Int}
    (h : readDay settings (unsigned cs) = .ok day) : BeginsDate cs := by
  obtain ⟨parts, hdate, -⟩ := exists_date_of_readDay h
  obtain ⟨d, hd, hdigit⟩ := hdate.exists_head
  cases cs with
  | nil => cases hd
  | cons c cs =>
    refine ⟨c, rfl, ?_⟩
    by_cases hsign : c = '+' ∨ c = '-'
    · exact .inr hsign
    · rw [unsigned, List.dropWhile_cons_of_neg (by simpa using hsign)] at hd
      cases hd
      exact .inl hdigit

theorem beginsDate_of_readWindow {settings : Settings} {window : DateWindow}
    (h : readWindow settings unit cs = .ok window) : BeginsDate cs := by
  unfold readWindow at h
  split at h
  · next hdigits =>
    cases cs with
    | nil => cases h
    | cons c cs => exact ⟨c, rfl, .inl (List.all_eq_true.1 hdigits c List.mem_cons_self)⟩
  split at h
  · next amount named hrelative =>
    obtain ⟨ago, -, -⟩ := isRelative_of_readRelative unit hrelative
    refine ⟨_, rfl, .inr ?_⟩
    cases ago
    · exact .inl rfl
    · exact .inr rfl
  · obtain ⟨day, hday, -⟩ := exists_of_bind h
    exact beginsDate_of_readDay hday

/-! ## Texts that are read -/

theorem readWindow_nil (settings : Settings) :
    readWindow settings unit [] = .error .timestampTooLarge := rfl

theorem valueOf_ne_of_read {settings : Settings} {text : String} {literal : DateLiteral}
    (h : read settings unit text = .ok literal) : valueOf text ≠ [] := by
  intro hnil
  simp only [read] at h
  rw [← valueOf, hnil, readWindow_nil] at h
  cases hempty : (Comparator.take (Text.trim text)).2.isEmpty <;> simp [hempty] at h

/-- What is read is the comparator, and the window of the date after it. -/
theorem read_eq_ok_iff {settings : Settings} {text : String} {literal : DateLiteral} :
    read settings unit text = .ok literal ↔
      ∃ window, readWindow settings unit (valueOf text) = .ok window ∧
        literal = ⟨(Comparator.take (Text.trim text)).1, window⟩ := by
  constructor
  · intro h
    rw [read_of_valueOf_ne (valueOf_ne_of_read h)] at h
    cases hwindow : readWindow settings unit (valueOf text) with
    | ok window =>
      rw [hwindow, literalOf, Except.ok.injEq] at h
      exact ⟨window, rfl, h.symm⟩
    | error flaw =>
      rw [hwindow] at h
      cases h
  · rintro ⟨window, hwindow, rfl⟩
    have hne : valueOf text ≠ [] := by
      intro hnil
      rw [hnil, readWindow_nil] at hwindow
      cases hwindow
    rw [read_of_valueOf_ne hne, hwindow]
    rfl

end Sift.DateLiteral
