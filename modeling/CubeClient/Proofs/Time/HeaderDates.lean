import CubeClient.Proofs.Text.Trimming
import CubeClient.Proofs.Time.Calendar
import CubeClient.Time.Reading
import Mathlib.Algebra.Group.Nat.Defs

/-!
# Dates in headers, written and read

An instant is written in either format of header dates, in the mail format also with the clocks of
any zone, and the same instant is read again. The formats are told apart by what stands behind the
day: no reader takes a date of the other format, with whatever behind it. A day of the week that is
not that of the date is refused.
-/

namespace CubeClient.HeaderDate

open CubeClient.Text

/-! ## Numbers -/

/-- The last digits of a number, as many as asked for. -/
def padded : Nat → Nat → List Char
  | 0, _ => []
  | width + 1, n => padded width (n / 10) ++ [Nat.digitChar (n % 10)]

theorem digitChar_spec : ∀ n < 10, isDigit n.digitChar = true ∧ n.digitChar.toNat - 48 = n := by
  decide

theorem length_padded (width n : Nat) : (padded width n).length = width := by
  induction width generalizing n with
  | zero => rfl
  | succ width ih => rw [padded, List.length_append, ih, List.length_singleton]

theorem isDigit_of_mem_padded {width n : Nat} : ∀ c ∈ padded width n, isDigit c = true := by
  induction width generalizing n with
  | zero => exact List.forall_mem_nil _
  | succ width ih =>
    refine List.forall_mem_append.mpr ⟨ih, List.forall_mem_singleton.mpr ?_⟩
    exact (digitChar_spec (n % 10) (Nat.mod_lt n (by decide))).1

/-- A padded number that fits its width is read back. -/
theorem valueOf_padded {width n : Nat} (h : n < 10 ^ width) : valueOf (padded width n) = n := by
  induction width generalizing n with
  | zero =>
    obtain rfl : n = 0 := Nat.lt_one_iff.mp h
    rfl
  | succ width ih =>
    have hrest := ih (n := n / 10) (by omega)
    have hlast := (digitChar_spec (n % 10) (Nat.mod_lt n (by decide))).2
    rw [valueOf] at hrest
    rw [valueOf, padded, List.foldl_append, hrest, List.foldl_cons, hlast, List.foldl_nil]
    omega

/-- Digits are at the front. -/
theorem padded_eq_cons (width n : Nat) :
    ∃ c cs, padded (width + 1) n = c :: cs ∧ isDigit c = true := by
  cases h : padded (width + 1) n with
  | nil =>
    have hlength := length_padded (width + 1) n
    rw [h] at hlength
    cases hlength
  | cons c cs => exact ⟨c, cs, rfl, isDigit_of_mem_padded c (h ▸ List.mem_cons_self)⟩

theorem padded_ne_nil (width n : Nat) : padded (width + 1) n ≠ [] := by
  obtain ⟨c, cs, hcs, -⟩ := padded_eq_cons width n
  exact hcs ▸ List.cons_ne_nil c cs

theorem code_of_isDigit {c : Char} (h : isDigit c = true) : 48 ≤ c.toNat ∧ c.toNat ≤ 57 := by
  rw [isDigit, Bool.and_eq_true, decide_eq_true_eq, decide_eq_true_eq] at h
  exact h

theorem isSpace_eq_false_of_isDigit {c : Char} (h : isDigit c = true) : isSpace c = false := by
  have := code_of_isDigit h
  simp only [isSpace, Bool.or_eq_false_iff, Bool.and_eq_false_iff, decide_eq_false_iff_not,
    beq_eq_false_iff_ne]
  omega

/-- Numbers are read from the digits at the front, up to the most there may be. -/
theorem readNumber_eq (least : Nat) (most : Option Nat) (cs : List Char) :
    readNumber least most cs =
      let digits := (most.elim cs cs.take).takeWhile isDigit
      if digits.length < least || largest < valueOf digits then none
      else some (valueOf digits, cs.drop digits.length) := by
  cases most <;> rfl

section Numbers

variable {least width n : Nat} (hleast : least ≤ width) (hn : n < 10 ^ width) (hlarge : n ≤ largest)

include hleast hn hlarge

/-- A number is read up to where its digits end. -/
theorem readNumber_of_digits {most : Option Nat} {rest : List Char}
    (hdigits : (most.elim (padded width n ++ rest) (padded width n ++ rest).take).takeWhile
      isDigit = padded width n) :
    readNumber least most (padded width n ++ rest) = some (n, rest) := by
  have hgood : ¬ (decide ((padded width n).length < least) ||
      decide (largest < valueOf (padded width n))) = true := by
    rw [length_padded, valueOf_padded hn, Bool.or_eq_true, decide_eq_true_eq, decide_eq_true_eq]
    omega
  simp only [readNumber_eq, hdigits]
  rw [if_neg hgood, valueOf_padded hn, List.drop_left]

/-- As many digits as can be are read, whatever is behind them. -/
theorem readNumber_padded (rest : List Char) :
    readNumber least (some width) (padded width n ++ rest) = some (n, rest) := by
  refine readNumber_of_digits hleast hn hlarge ?_
  rw [Option.elim_some, List.take_left' (length_padded width n)]
  exact List.takeWhile_eq_self_iff.mpr isDigit_of_mem_padded

/-- All digits are read. -/
theorem readNumber_none_padded {rest : List Char} (hrest : ∀ c ∈ rest.head?, isDigit c = false) :
    readNumber least none (padded width n ++ rest) = some (n, rest) :=
  readNumber_of_digits hleast hn hlarge (takeWhile_run isDigit_of_mem_padded hrest)

end Numbers

/-- Numbers of up to five digits are no larger than they may be. -/
theorem le_largest {n : Nat} (h : n < 100000) : n ≤ largest :=
  Nat.le_trans (Nat.le_of_lt h) (by decide)

/-! ## Blanks -/

theorem skipBlanks_append {front : List Char} (hne : front ≠ [])
    (h : ∀ c ∈ front, isSpace c = false) (rest : List Char) :
    skipBlanks (front ++ rest) = front ++ rest := by
  have hhead : ∀ c ∈ (front ++ rest).head?, isSpace c = false := by
    intro c hc
    rw [List.head?_append_of_ne_nil _ hne] at hc
    exact h c (List.mem_of_mem_head? hc)
  exact dropWhile_run (List.forall_mem_nil _) hhead

theorem skipBlanks_blank (rest : List Char) : skipBlanks (' ' :: rest) = skipBlanks rest := rfl

theorem skipBlanks_colon (rest : List Char) : skipBlanks (':' :: rest) = ':' :: rest := rfl

theorem skipSomeBlanks_blank (rest : List Char) :
    skipSomeBlanks (' ' :: rest) = some (skipBlanks rest) := rfl

theorem skipBlanks_padded (width n : Nat) (rest : List Char) :
    skipBlanks (padded (width + 1) n ++ rest) = padded (width + 1) n ++ rest := by
  refine skipBlanks_append (padded_ne_nil width n) (fun c hc => ?_) rest
  exact isSpace_eq_false_of_isDigit (isDigit_of_mem_padded c hc)

/-! ## Names -/

/-- The name at a position. -/
def nameOf (names : List String) (i : Nat) : List Char :=
  (names.getD i "").toList

def weekdayNames : List String := ["Mon", "Tue", "Wed", "Thu", "Fri", "Sat", "Sun"]

def monthNames : List String :=
  ["Jan", "Feb", "Mar", "Apr", "May", "Jun", "Jul", "Aug", "Sep", "Oct", "Nov", "Dec"]

/-- A name of three letters is read whatever follows it. -/
theorem readName_append {names : List String} {word : List Char} {i : Nat}
    (hlength : word.length = 3) (h : readName names word = some (i, [])) (rest : List Char) :
    readName names (word ++ rest) = some (i, rest) := by
  rw [readName, List.take_of_length_le hlength.le, Option.map_eq_some_iff] at h
  obtain ⟨j, hfind, hj⟩ := h
  obtain ⟨rfl, -⟩ := Prod.mk.inj hj
  rw [readName, List.take_left' hlength, List.drop_left' hlength, hfind, Option.map_some]

/-- Weekdays are read back from their names. -/
theorem readWeekday_nameOf {weekday : Nat} (h : weekday < 7) (rest : List Char) :
    readWeekday (nameOf weekdayNames weekday ++ rest) = some (weekday, rest) := by
  have hname : ∀ i < 7, (nameOf weekdayNames i).length = 3 ∧
      readWeekday (nameOf weekdayNames i) = some (i, []) := by
    decide
  exact readName_append (hname weekday h).1 (hname weekday h).2 rest

theorem readMonth_nameOf {month : Nat} (h : 1 ≤ month ∧ month ≤ 12) (rest : List Char) :
    readMonth (nameOf monthNames (month - 1) ++ rest) = some (month, rest) := by
  have hname : ∀ i < 12, (nameOf monthNames i).length = 3 ∧
      readName ["jan", "feb", "mar", "apr", "may", "jun", "jul", "aug", "sep", "oct", "nov", "dec"]
        (nameOf monthNames i) = some (i, []) := by
    decide
  obtain ⟨hlength, hread⟩ := hname (month - 1) (by omega)
  rw [readMonth, readName_append hlength hread, Option.map_some]
  exact congrArg (fun m => some (m, rest)) (Nat.sub_add_cancel h.1)

theorem weekdayName_solid {weekday : Nat} (h : weekday < 7) : nameOf weekdayNames weekday ≠ [] ∧
    ∀ c ∈ nameOf weekdayNames weekday, isSpace c = false := by
  have hname : ∀ i < 7, nameOf weekdayNames i ≠ [] ∧
      (nameOf weekdayNames i).all (!isSpace ·) = true := by
    decide
  simpa using hname weekday h

theorem monthName_solid {i : Nat} (h : i < 12) : nameOf monthNames i ≠ [] ∧
    ∀ c ∈ nameOf monthNames i, isSpace c = false := by
  have hname : ∀ i < 12, nameOf monthNames i ≠ [] ∧
      (nameOf monthNames i).all (!isSpace ·) = true := by
    decide
  simpa using hname i h

theorem skipBlanks_weekday {weekday : Nat} (h : weekday < 7) (rest : List Char) :
    skipBlanks (nameOf weekdayNames weekday ++ rest) = nameOf weekdayNames weekday ++ rest :=
  skipBlanks_append (weekdayName_solid h).1 (weekdayName_solid h).2 rest

theorem skipBlanks_month {month : Nat} (h : 1 ≤ month ∧ month ≤ 12) (rest : List Char) :
    skipBlanks (nameOf monthNames (month - 1) ++ rest) = nameOf monthNames (month - 1) ++ rest := by
  obtain ⟨hne, hsolid⟩ := monthName_solid (show month - 1 < 12 by omega)
  exact skipBlanks_append hne hsolid rest

/-! ## Parts of a date -/

theorem readChar_cons (c : Char) (rest : List Char) : readChar c (c :: rest) = some rest := by
  rw [readChar, if_pos rfl]

theorem readNumber_two {least n : Nat} (hleast : least ≤ 2) (h : n < 100) (rest : List Char) :
    readNumber least (some 2) (padded 2 n ++ rest) = some (n, rest) :=
  readNumber_padded hleast h (le_largest (by omega)) rest

theorem readPart_padded {n : Nat} (h : n < 100) (rest : List Char) :
    readPart (padded 2 n ++ rest) = some (n, rest) := by
  rw [readPart, skipBlanks_padded, readNumber_two (by decide) h]

theorem readYear_padded {n : Nat} (h : n < 10000) (rest : List Char) :
    readYear (padded 4 n ++ rest) = some ((n : Int), rest) := by
  have hread : readNumber 1 (some 4) (padded 4 n ++ rest) = some (n, rest) :=
    readNumber_padded (by decide) h (le_largest (by omega)) rest
  obtain ⟨c, cs, hcs, hc⟩ := padded_eq_cons 3 n
  rw [readYear, skipBlanks_padded]
  rw [hcs, List.cons_append] at hread ⊢
  split
  · rename_i heq
    obtain ⟨rfl, -⟩ := List.cons_eq_cons.mp heq
    cases hc
  · rename_i heq
    obtain ⟨rfl, -⟩ := List.cons_eq_cons.mp heq
    cases hc
  · rw [hread, Option.map_some]

/-- The digits of a year, at least four. -/
def yearDigits (year : Nat) : List Char :=
  padded (if year < 10000 then 4 else 5) year

theorem skipBlanks_yearDigits (n : Nat) (rest : List Char) :
    skipBlanks (yearDigits n ++ rest) = yearDigits n ++ rest := by
  rw [yearDigits]
  split <;> exact skipBlanks_padded _ n rest

/-- A year of four digits or more is taken as it is. -/
theorem readMailYear_padded {width n : Nat} (hwidth : 4 ≤ width) (hn : n < 10 ^ width)
    (hlarge : n ≤ largest) (rest : List Char) :
    readMailYear (padded width n ++ ' ' :: rest) = some ((n : Int), ' ' :: rest) := by
  have hrest : ∀ c ∈ (' ' :: rest).head?, isDigit c = false := by
    rintro c ⟨⟩
    rfl
  rw [readMailYear, readNumber_none_padded (by omega) hn hlarge hrest]
  simp only [List.length_append, length_padded, Nat.add_sub_cancel, Option.map_some]
  split
  · omega
  · omega
  · rfl

/-- A year of a mail date may have five. -/
theorem readMailYear_yearDigits {n : Nat} (h : n < 100000) (rest : List Char) :
    readMailYear (yearDigits n ++ ' ' :: rest) = some ((n : Int), ' ' :: rest) := by
  rw [yearDigits]
  split
  · exact readMailYear_padded (Nat.le_refl 4) ‹_› (le_largest h) rest
  · exact readMailYear_padded (by decide) h (le_largest h) rest

theorem readSeconds_padded {n : Nat} (h : n < 100) (rest : List Char) :
    readSeconds (':' :: (padded 2 n ++ rest)) = some (n, rest) :=
  readNumber_two (Nat.le_refl 2) h rest

theorem skipComments_nil : skipComments [] = [] := by
  rw [skipComments]
  rfl

/-! ## Zones -/

/-- How far the clocks of a zone are from those of Greenwich. -/
structure Offset where
  west : Bool
  hours : Nat
  minutes : Nat
  hours_lt : hours < 24
  minutes_lt : minutes < 60

namespace Offset

/-- How many seconds the clocks are ahead. -/
def seconds (offset : Offset) : Int :=
  let seconds : Int := offset.hours * 3600 + offset.minutes * 60
  if offset.west then -seconds else seconds

/-- The offset as it is written. -/
def chars (offset : Offset) : List Char :=
  (if offset.west then '-' else '+') :: (padded 2 offset.hours ++ padded 2 offset.minutes)

theorem natAbs_seconds_lt (offset : Offset) : offset.seconds.natAbs < 86400 := by
  have := offset.hours_lt
  have := offset.minutes_lt
  simp only [seconds]
  split <;> omega

/-- An offset is read back from its hours and minutes. -/
theorem readOffset_padded (offset : Offset) :
    readOffset (padded 2 offset.hours ++ padded 2 offset.minutes) =
      some ((offset.hours * 3600 + offset.minutes * 60 : Int), []) := by
  have hhours : offset.hours < 100 := Nat.lt_trans offset.hours_lt (by decide)
  have hminutes : offset.minutes < 100 := Nat.lt_trans offset.minutes_lt (by decide)
  have hread := readNumber_two (Nat.le_refl 2) hminutes []
  rw [List.append_nil] at hread
  simp only [readOffset, readNumber_two (Nat.le_refl 2) hhours, Option.bind_eq_bind,
    Option.bind_some, hread, if_pos offset.minutes_lt]
  rfl

theorem readZone_chars (offset : Offset) : readZone offset.chars = some (offset.seconds, []) := by
  simp only [chars, seconds]
  cases offset.west with
  | false => exact offset.readOffset_padded
  | true => simp only [if_true, readZone, readOffset_padded, Option.map_some]

/-- An offset ends in a digit. -/
theorem isDigit_of_mem_getLast? (offset : Offset) (cs : List Char) :
    ∀ c ∈ (cs ++ offset.chars).getLast?, isDigit c = true := by
  intro c hc
  rw [chars, List.append_cons, ← List.append_assoc,
    List.getLast?_append_of_ne_nil _ (padded_ne_nil 1 _)] at hc
  exact isDigit_of_mem_padded c (List.mem_of_mem_getLast? hc)

end Offset

/-- A zone in the mail format. -/
inductive Zone where
  | greenwich
  | clocks (offset : Offset)

namespace Zone

/-- How many seconds the clocks are ahead. -/
def seconds : Zone → Int
  | greenwich => 0
  | clocks offset => offset.seconds

/-- The zone as it is written. -/
def chars : Zone → List Char
  | greenwich => ['G', 'M', 'T']
  | clocks offset => offset.chars

theorem natAbs_seconds_lt (zone : Zone) : zone.seconds.natAbs < 86400 := by
  cases zone with
  | greenwich => decide
  | clocks offset => exact offset.natAbs_seconds_lt

theorem readZone_chars (zone : Zone) : readZone zone.chars = some (zone.seconds, []) := by
  cases zone with
  | greenwich => decide
  | clocks offset => exact offset.readZone_chars

theorem skipBlanks_chars (zone : Zone) : skipBlanks zone.chars = zone.chars := by
  cases zone with
  | greenwich => rfl
  | clocks offset =>
    rw [chars, Offset.chars]
    cases offset.west <;> rfl

theorem isSpace_of_mem_getLast? (zone : Zone) (cs : List Char) :
    ∀ c ∈ (cs ++ zone.chars).getLast?, isSpace c = false := by
  intro c hc
  cases zone with
  | greenwich =>
    rw [chars, List.getLast?_append_of_ne_nil _ (by decide)] at hc
    cases hc
    rfl
  | clocks offset => exact isSpace_eq_false_of_isDigit (offset.isDigit_of_mem_getLast? cs c hc)

end Zone

/-! ## The front of a date -/

/-- The parts of a date as either format has them, but for the zone. -/
def front (separator : Char) (weekday : Nat) (date : CivilDate) (time : ClockTime) : List Char :=
  nameOf weekdayNames weekday ++ [',', ' '] ++
    padded 2 date.day ++ [separator] ++ nameOf monthNames (date.month - 1) ++ [separator] ++
    yearDigits date.year.toNat ++ [' '] ++
    padded 2 time.hour ++ [':'] ++ padded 2 time.minute ++ [':'] ++ padded 2 time.second

/-- Parts that have their places in a written date. -/
structure Fits (weekday : Nat) (date : CivilDate) (time : ClockTime) : Prop where
  weekday : weekday < 7
  month : 1 ≤ date.month ∧ date.month ≤ 12
  day : date.day < 100
  year : 0 ≤ date.year ∧ date.year < 100000
  hour : time.hour < 100
  minute : time.minute < 100
  second : time.second < 100

section Front

variable {weekday : Nat} {date : CivilDate} {time : ClockTime} (h : Fits weekday date time)

include h

theorem Fits.date_eq : (⟨(date.year.toNat : Nat), date.month, date.day⟩ : CivilDate) = date := by
  rw [Int.toNat_of_nonneg h.year.1]

/-- A date with hyphens is read as its parts, at Greenwich. -/
theorem readHyphenated_front (hyear : date.year < 10000) :
    readHyphenated (front '-' weekday date time) = assemble (some weekday) date time 0 := by
  have hdigits : yearDigits date.year.toNat = padded 4 date.year.toNat := by
    rw [yearDigits, if_pos (by omega)]
  have hlast := readPart_padded h.second []
  rw [List.append_nil] at hlast
  simp only [front, hdigits, List.append_assoc, List.cons_append, List.nil_append,
    readHyphenated, Option.bind_eq_bind, Option.bind_some, readWeekday_nameOf h.weekday,
    readChar_cons, skipBlanks_blank, skipBlanks_padded, readPart_padded h.day,
    readMonth_nameOf h.month, readYear_padded (show date.year.toNat < 10000 by omega),
    readPart_padded h.hour, readPart_padded h.minute, hlast, h.date_eq]
  rfl

/-- The first format wants a hyphen behind the day. -/
theorem readHyphenated_blank (rest : List Char) :
    readHyphenated (front ' ' weekday date time ++ rest) = none := by
  simp only [front, List.append_assoc, List.cons_append, List.nil_append,
    readHyphenated, Option.bind_eq_bind, Option.bind_some, readWeekday_nameOf h.weekday,
    readChar_cons, skipBlanks_blank, skipBlanks_padded, readPart_padded h.day]
  rfl

/-- The other format wants a blank there. -/
theorem readMail_hyphen (rest : List Char) :
    readMail (front '-' weekday date time ++ rest) = none := by
  simp only [front, List.append_assoc, List.cons_append, List.nil_append, readMail,
    Option.bind_eq_bind, Option.bind_some, skipBlanks_weekday h.weekday, readOptionalWeekday,
    readWeekday_nameOf h.weekday, Option.map_some, readChar_cons, skipBlanks_blank,
    skipBlanks_padded, readNumber_two (by decide : 1 ≤ 2) h.day]
  rfl

/-- A mail date is read as its parts, as far ahead as its zone is. -/
theorem readMail_front {zone : List Char} {ahead : Int} (hblank : skipBlanks zone = zone)
    (hzone : readZone zone = some (ahead, [])) :
    readMail (front ' ' weekday date time ++ ' ' :: zone) =
      assemble (some weekday) date time ahead := by
  have hyear : date.year.toNat < 100000 := by
    have := h.year
    omega
  simp only [front, List.append_assoc, List.cons_append, List.nil_append, readMail,
    Option.bind_eq_bind, Option.bind_some, skipBlanks_weekday h.weekday, readOptionalWeekday,
    readWeekday_nameOf h.weekday, Option.map_some, readChar_cons, skipBlanks_blank,
    skipBlanks_padded, readNumber_two (by decide : 1 ≤ 2) h.day, skipSomeBlanks_blank,
    skipBlanks_month h.month, readMonth_nameOf h.month, skipBlanks_yearDigits,
    readMailYear_yearDigits hyear, readNumber_two (Nat.le_refl 2) h.hour, skipBlanks_colon,
    readNumber_two (Nat.le_refl 2) h.minute, readSeconds_padded h.second, hblank, hzone,
    skipComments_nil, h.date_eq]
  rfl

end Front

/-! ## Instants and the clocks of a place -/

/-- The day of the week that clocks show some seconds after the beginning of 1970. -/
def weekdayAt (seconds : Int) : Nat :=
  (CivilDate.ofSeconds seconds).weekday

theorem weekdayAt_lt (seconds : Int) : weekdayAt seconds < 7 := by
  simp only [weekdayAt, CivilDate.weekday]
  omega

/-- Clocks may show a year more or less than those of Greenwich. -/
theorem withinYears_shifted {seconds ahead : Int} (h : WithinYears 1900 9999 seconds)
    (hahead : ahead.natAbs < 86400) : WithinYears 1899 10000 (seconds + ahead) := by
  obtain ⟨hfirst, hlast⟩ := h
  have h1899 : CivilDate.dayNumber ⟨1899, 1, 1⟩ = CivilDate.dayNumber ⟨1900, 1, 1⟩ - 365 := by
    decide
  have h10000 : CivilDate.dayNumber ⟨10000 + 1, 1, 1⟩ =
      CivilDate.dayNumber ⟨9999 + 1, 1, 1⟩ + 366 := by
    decide
  rw [WithinYears, h1899, h10000]
  omega

theorem withinYears_widened {seconds : Int} (h : WithinYears 1900 9999 seconds) :
    WithinYears 1899 10000 seconds := by
  have hshown := withinYears_shifted h (show (0 : Int).natAbs < 86400 by decide)
  rwa [Int.add_zero] at hshown

/-- A time within the years can be written. -/
theorem fits_ofSeconds {weekday : Nat} {seconds : Int} (hweekday : weekday < 7)
    (h : WithinYears 1899 10000 seconds) :
    Fits weekday (.ofSeconds seconds) (.ofSeconds seconds) := by
  have hyear := h.year_ofSeconds
  have htime := ClockTime.ofSeconds_lt seconds
  have hday := CivilDate.isDay_ofSeconds seconds
  have hlast := Nat.le_trans hday.day.2 (CivilDate.daysInMonth_bounds _ _).2
  refine ⟨hweekday, hday.month, ?_, ?_, ?_, ?_, ?_⟩ <;> omega

/-- The parts that clocks show go together, if the day of the week is theirs. -/
theorem assemble_ofSeconds (weekday : Nat) {seconds ahead : Int}
    (h : WithinYears 1899 10000 seconds) (hahead : ahead.natAbs < 86400) :
    assemble (some weekday) (.ofSeconds seconds) (.ofSeconds seconds) ahead =
      if weekday = weekdayAt seconds then some ⟨seconds - ahead, 0⟩ else none := by
  have hdate : (CivilDate.ofSeconds seconds).isValid = true := by
    refine CivilDate.isValid_iff.mpr ⟨CivilDate.isDay_ofSeconds seconds, ?_⟩
    have hyear := h.year_ofSeconds
    simp only [CivilDate.yearLimits]
    omega
  have htime : (ClockTime.ofSeconds seconds).isValid = true := by
    have := ClockTime.ofSeconds_lt seconds
    simp only [ClockTime.isValid, Bool.and_eq_true, decide_eq_true_eq]
    omega
  have hinstant : Instant.isRepresentable ⟨seconds - ahead, 0⟩ = true := by
    have hfirst : CivilDate.dayNumber ⟨CivilDate.yearLimits.1, 1, 1⟩ <
        CivilDate.dayNumber ⟨1899, 1, 1⟩ - 1 := by decide
    have hlast : CivilDate.dayNumber ⟨10000 + 1, 1, 1⟩ + 1 <
        CivilDate.dayNumber ⟨CivilDate.yearLimits.2, 12, 31⟩ := by decide
    obtain ⟨hbegin, hend⟩ := h
    simp only [Instant.isRepresentable, Bool.and_eq_true, decide_eq_true_eq]
    omega
  simp only [assemble, Instant.ofCivil_ofSeconds, hdate, htime, hinstant, hahead, Bool.true_and,
    Bool.and_true, decide_true, Option.all_some, beq_iff_eq]
  rfl

/-! ## The ends of a text -/

/-- What the first format is read from. -/
def unzoned (cs : List Char) : List Char :=
  trimList (dropZoneName cs.reverse).reverse

theorem read_ofList {cs : List Char} (h : Trimmed cs) :
    read (String.ofList cs) = (readHyphenated (unzoned cs)).or (readMail cs) := by
  rw [read, String.toList_ofList, h.trimList_eq, unzoned]
  cases readHyphenated (trimList (dropZoneName cs.reverse).reverse) <;> rfl

/-- The zone at Greenwich is taken off. -/
theorem unzoned_greenwich {cs : List Char} (h : Trimmed cs) :
    unzoned (cs ++ ' ' :: Zone.greenwich.chars) = cs := by
  have hdrop : dropZoneName (cs ++ ' ' :: Zone.greenwich.chars).reverse = ' ' :: cs.reverse := by
    rw [List.reverse_append]
    rfl
  rw [unzoned, hdrop, List.reverse_cons, List.reverse_reverse]
  exact trimList_padded (List.forall_mem_nil _) h.first h.last (List.forall_mem_singleton.mpr rfl)

/-- Nothing is taken off a date that does not end like it. -/
theorem unzoned_eq_self {cs : List Char} (h : Trimmed cs) (hlast : ∀ c ∈ cs.getLast?, c ≠ 'T') :
    unzoned cs = cs := by
  have hdrop : dropZoneName cs.reverse = cs.reverse := by
    rw [← List.head?_reverse] at hlast
    unfold dropZoneName
    split
    · rename_i heq
      rw [heq] at hlast
      exact absurd rfl (hlast 'T' rfl)
    · rfl
  rw [unzoned, hdrop, List.reverse_reverse, h.trimList_eq]

theorem trimmed_front {weekday : Nat} (h : weekday < 7) (separator : Char) (date : CivilDate)
    (time : ClockTime) : Trimmed (front separator weekday date time) := by
  obtain ⟨hne, hsolid⟩ := weekdayName_solid h
  constructor
  · intro c hc
    simp only [front, List.append_assoc] at hc
    rw [List.head?_append_of_ne_nil _ hne] at hc
    exact hsolid c (List.mem_of_mem_head? hc)
  · intro c hc
    rw [front, List.getLast?_append_of_ne_nil _ (padded_ne_nil 1 _)] at hc
    exact isSpace_eq_false_of_isDigit (isDigit_of_mem_padded c (List.mem_of_mem_getLast? hc))

theorem trimmed_append_zone {cs : List Char} (h : Trimmed cs) (hne : cs ≠ []) (zone : Zone) :
    Trimmed (cs ++ ' ' :: zone.chars) := by
  constructor
  · intro c hc
    rw [List.head?_append_of_ne_nil _ hne] at hc
    exact h.first c hc
  · rw [List.append_cons]
    exact zone.isSpace_of_mem_getLast? _

/-- Behind the front of a date, no zone but Greenwich is taken away. -/
theorem exists_unzoned {cs : List Char} (h : Trimmed cs) (hne : cs ≠ []) (zone : Zone) :
    ∃ rest, unzoned (cs ++ ' ' :: zone.chars) = cs ++ rest := by
  cases zone with
  | greenwich => exact ⟨[], by rw [unzoned_greenwich h, List.append_nil]⟩
  | clocks offset =>
    refine ⟨_, unzoned_eq_self (trimmed_append_zone h hne (.clocks offset)) fun c hc => ?_⟩
    rw [List.append_cons] at hc
    rintro rfl
    cases offset.isDigit_of_mem_getLast? _ _ hc

/-! ## Written dates -/

/-- What clocks show some seconds after the beginning of 1970, with some day of the week. -/
def written (separator : Char) (weekday : Nat) (seconds : Int) : List Char :=
  front separator weekday (.ofSeconds seconds) (.ofSeconds seconds)

/-- An instant in the first format. -/
def hyphenatedText (weekday : Nat) (seconds : Int) : String :=
  String.ofList (written '-' weekday seconds ++ ' ' :: Zone.greenwich.chars)

/-- An instant in the mail format, by the clocks of a zone. -/
def mailText (zone : Zone) (seconds : Int) : String :=
  let shown := seconds + zone.seconds
  String.ofList (written ' ' (weekdayAt shown) shown ++ ' ' :: zone.chars)

example : hyphenatedText (weekdayAt 1893553445) 1893553445 = "Wed, 02-Jan-2030 03:04:05 GMT" ∧
    mailText (.clocks ⟨true, 3, 30, by decide, by decide⟩) 1893553445 =
      "Tue, 01 Jan 2030 23:34:05 -0330" := by
  decide +kernel

theorem written_ne_nil (separator : Char) (weekday : Nat) (seconds : Int) :
    written separator weekday seconds ≠ [] :=
  List.append_ne_nil_of_right_ne_nil _ (padded_ne_nil 1 _)

theorem trimmed_written {weekday : Nat} (h : weekday < 7) (separator : Char) (seconds : Int) :
    Trimmed (written separator weekday seconds) :=
  trimmed_front h _ _ _

/-- The first format is read if the day of the week is right. -/
theorem read_hyphenatedText {weekday : Nat} {seconds : Int} (hweekday : weekday < 7)
    (h : WithinYears 1900 9999 seconds) :
    read (hyphenatedText weekday seconds) =
      if weekday = weekdayAt seconds then some ⟨seconds, 0⟩ else none := by
  have hshown := withinYears_widened h
  have hfits := fits_ofSeconds hweekday hshown
  have hyear : (CivilDate.ofSeconds seconds).year < 10000 := Int.lt_add_one_of_le h.year_ofSeconds.2
  have htrimmed := trimmed_written hweekday '-' seconds
  rw [hyphenatedText, read_ofList (trimmed_append_zone htrimmed (written_ne_nil _ _ _) _),
    unzoned_greenwich htrimmed]
  rw [written, readMail_hyphen hfits, Option.or_none, readHyphenated_front hfits hyear,
    assemble_ofSeconds weekday hshown (by decide), Int.sub_zero]

/-- The mail format is read by the clocks of any zone. -/
theorem read_mailText {seconds : Int} (zone : Zone) (h : WithinYears 1900 9999 seconds) :
    read (mailText zone seconds) = some ⟨seconds, 0⟩ := by
  have hshown := withinYears_shifted h zone.natAbs_seconds_lt
  have hweekday := weekdayAt_lt (seconds + zone.seconds)
  have hfits := fits_ofSeconds hweekday hshown
  have htrimmed := trimmed_written hweekday ' ' (seconds + zone.seconds)
  have hne := written_ne_nil ' ' (weekdayAt (seconds + zone.seconds)) (seconds + zone.seconds)
  obtain ⟨rest, hrest⟩ := exists_unzoned htrimmed hne zone
  rw [mailText, read_ofList (trimmed_append_zone htrimmed hne zone), hrest, written,
    readHyphenated_blank hfits, Option.none_or,
    readMail_front hfits zone.skipBlanks_chars zone.readZone_chars,
    assemble_ofSeconds _ hshown zone.natAbs_seconds_lt, if_pos rfl, Int.add_sub_cancel]

/-- How an instant is written and read. -/
structure KeepsInstant (seconds : Int) : Prop where
  /-- The dates that are written are the days of the calendar, counted from 1970. -/
  dates : CivilDate.Counted CivilDate.ofDayNumber
  hyphenated : read (hyphenatedText (weekdayAt seconds) seconds) = some ⟨seconds, 0⟩
  mail : ∀ zone, read (mailText zone seconds) = some ⟨seconds, 0⟩
  wrongWeekday : ∀ weekday < 7, weekday ≠ weekdayAt seconds →
    read (hyphenatedText weekday seconds) = none
  /-- The reader of the mail format takes no date with hyphens. -/
  notMail : ∀ weekday < 7, ∀ rest, readMail (written '-' weekday seconds ++ rest) = none
  /-- The reader of the first format takes no date without hyphens. -/
  notHyphenated : ∀ weekday < 7, ∀ zone : Zone, ∀ rest,
    readHyphenated (written ' ' weekday (seconds + zone.seconds) ++ rest) = none

/-- In four-digit years from 1900, an instant is read as it was written. -/
theorem keeps_instant {seconds : Int} (h : WithinYears 1900 9999 seconds) :
    KeepsInstant seconds where
  dates := CivilDate.counted_ofDayNumber
  hyphenated := by rw [read_hyphenatedText (weekdayAt_lt seconds) h, if_pos rfl]
  mail zone := read_mailText zone h
  wrongWeekday weekday hweekday hne := by rw [read_hyphenatedText hweekday h, if_neg hne]
  notMail weekday hweekday :=
    readMail_hyphen (fits_ofSeconds hweekday (withinYears_widened h))
  notHyphenated weekday hweekday zone :=
    readHyphenated_blank (fits_ofSeconds hweekday (withinYears_shifted h zone.natAbs_seconds_lt))

/-- In the last second of 9999 clocks in the east show the year after. -/
theorem keeps_instant_last_second :
    WithinYears 1900 9999 253402300799 ∧ KeepsInstant 253402300799 :=
  ⟨by decide, keeps_instant (by decide)⟩

end CubeClient.HeaderDate
