import CubeClient.Time.Calendar
import Mathlib.Data.Int.Init
import Mathlib.Data.Nat.Find
import Mathlib.Order.Lattice
import Mathlib.Order.Monotone.Basic

/-!
# The days of the calendar, counted

Every number is that of exactly one day, also of those before 1970. The days follow each other as
the lengths of the months and years say, from the first of January 1970, a Thursday.
-/

namespace CubeClient

namespace CivilDate

/-! ## Months and years -/

/-- How many days a year has. -/
def daysInYear (year : Int) : Nat :=
  if isLeapYear year then 366 else 365

theorem isLeapYear_iff {year : Int} :
    isLeapYear year = true ↔ year % 4 = 0 ∧ (year % 100 ≠ 0 ∨ year % 400 = 0) := by
  simp [isLeapYear]

theorem daysBeforeYear_succ (year : Int) :
    daysBeforeYear (year + 1) = daysBeforeYear year + daysInYear year := by
  simp only [daysInYear, daysBeforeYear]
  split
  · rename_i hleap
    rw [isLeapYear_iff] at hleap
    omega
  · rename_i hcommon
    rw [isLeapYear_iff] at hcommon
    omega

theorem daysBeforeYear_mono {year later : Int} (h : year ≤ later) :
    daysBeforeYear year ≤ daysBeforeYear later := by
  simp only [daysBeforeYear]
  omega

theorem daysBeforeMonth_succ (year : Int) {month : Nat} (h : 1 ≤ month) :
    daysBeforeMonth year (month + 1) = daysBeforeMonth year month + daysInMonth year month := by
  obtain ⟨month, rfl⟩ := Nat.exists_eq_add_of_le' h
  rw [daysBeforeMonth, Nat.add_sub_cancel, List.range_succ, List.foldl_append]
  rfl

theorem daysBeforeMonth_mono (year : Int) : Monotone (daysBeforeMonth year) := by
  refine monotone_nat_of_le_succ fun month => ?_
  cases month with
  | zero => exact Nat.le_refl _
  | succ month =>
    rw [daysBeforeMonth_succ year (Nat.le_add_left 1 month)]
    exact Nat.le_add_right _ _

/-- The twelve months make up the year. -/
theorem daysBeforeMonth_thirteen (year : Int) : daysBeforeMonth year 13 = daysInYear year := by
  unfold daysInYear
  cases h : isLeapYear year <;>
    simp [daysBeforeMonth, daysInMonth, List.range_succ, h]

/-! ## Days and their numbers -/

/-- A day that its month has. -/
structure IsDay (date : CivilDate) : Prop where
  month : 1 ≤ date.month ∧ date.month ≤ 12
  day : 1 ≤ date.day ∧ date.day ≤ daysInMonth date.year date.month

/-- Dates are valid if the day is one of the calendar and the year within the limits. -/
theorem isValid_iff {date : CivilDate} :
    date.isValid = true ↔
      date.IsDay ∧ yearLimits.1 ≤ date.year ∧ date.year ≤ yearLimits.2 := by
  simp only [isValid, Bool.and_eq_true, decide_eq_true_eq]
  constructor
  · rintro ⟨⟨⟨⟨⟨hfirst, hlast⟩, hjanuary⟩, hdecember⟩, hbegin⟩, hend⟩
    exact ⟨⟨⟨hjanuary, hdecember⟩, hbegin, hend⟩, hfirst, hlast⟩
  · rintro ⟨⟨⟨hjanuary, hdecember⟩, hbegin, hend⟩, hfirst, hlast⟩
    exact ⟨⟨⟨⟨⟨hfirst, hlast⟩, hjanuary⟩, hdecember⟩, hbegin⟩, hend⟩

/-- A day of a month is before the next month begins. -/
theorem IsDay.le_daysBeforeMonth {date : CivilDate} (h : date.IsDay) {month : Nat}
    (hmonth : date.month < month) :
    daysBeforeMonth date.year date.month + date.day ≤ daysBeforeMonth date.year month := by
  have hnext := daysBeforeMonth_mono date.year hmonth
  rw [Nat.succ_eq_add_one, daysBeforeMonth_succ _ h.month.1] at hnext
  have := h.day.2
  omega

/-- A day is within its year. -/
theorem IsDay.dayNumber_mem_year {date : CivilDate} (h : date.IsDay) :
    daysBeforeYear date.year ≤ date.dayNumber + 719162 ∧
      date.dayNumber + 719162 < daysBeforeYear (date.year + 1) := by
  have hend := h.le_daysBeforeMonth (Nat.lt_succ_of_le h.month.2)
  rw [daysBeforeMonth_thirteen] at hend
  have hbegin := h.day.1
  rw [daysBeforeYear_succ, dayNumber]
  omega

/-- A day is in one year only. -/
theorem eq_of_daysBeforeYear {year other days : Int}
    (h : daysBeforeYear year ≤ days ∧ days < daysBeforeYear (year + 1))
    (h' : daysBeforeYear other ≤ days ∧ days < daysBeforeYear (other + 1)) : year = other := by
  have hle : ¬ year + 1 ≤ other := by
    intro hlater
    have := daysBeforeYear_mono hlater
    omega
  have hge : ¬ other + 1 ≤ year := by
    intro hlater
    have := daysBeforeYear_mono hlater
    omega
  omega

/-- No two days have the same number. -/
theorem IsDay.eq_of_dayNumber_eq {date other : CivilDate} (h : date.IsDay) (h' : other.IsDay)
    (heq : date.dayNumber = other.dayNumber) : date = other := by
  have hyear : date.year = other.year :=
    eq_of_daysBeforeYear h.dayNumber_mem_year (heq ▸ h'.dayNumber_mem_year)
  obtain ⟨year, month, day⟩ := date
  obtain ⟨otherYear, otherMonth, otherDay⟩ := other
  obtain rfl : year = otherYear := hyear
  have hbegin := h.day.1
  have hbegin' := h'.day.1
  simp only [dayNumber] at heq hbegin hbegin'
  have hmonth : month = otherMonth := by
    rcases Nat.lt_trichotomy month otherMonth with hlt | hmonth | hgt
    · have := h.le_daysBeforeMonth hlt
      simp only at this
      omega
    · exact hmonth
    · have := h'.le_daysBeforeMonth hgt
      simp only at this
      omega
  subst hmonth
  congr 1
  omega

/-! ## The day of a number -/

/-- The year of a day that some days are before, counted from the first day of the year 1. A guess
by the mean length of a year is at most two years early. -/
def yearOfDays (days : Int) : Int :=
  let guess := days * 400 / 146097
  guess + Nat.findGreatest (fun (later : Nat) => daysBeforeYear (guess + later) ≤ days) 2

/-- The day of a number, counted from the beginning of 1970. -/
def ofDayNumber (n : Int) : CivilDate :=
  let year := yearOfDays (n + 719162)
  let past := (n + 719162 - daysBeforeYear year).toNat
  let month := Nat.findGreatest (fun month => daysBeforeMonth year month ≤ past) 12
  { year, month, day := past - daysBeforeMonth year month + 1 }

/-- The last of some beginnings that is not too late is the one before the first that is. -/
theorem findGreatest_between {α : Type} [LinearOrder α] {f : Nat → α} {x : α} {bound : Nat}
    (hfirst : f 0 ≤ x) (hlast : x < f (bound + 1)) :
    f (Nat.findGreatest (fun i => f i ≤ x) bound) ≤ x ∧
      x < f (Nat.findGreatest (fun i => f i ≤ x) bound + 1) := by
  constructor
  · exact Nat.findGreatest_spec (P := fun i => f i ≤ x) (Nat.zero_le bound) hfirst
  · rcases Nat.lt_or_eq_of_le (Nat.findGreatest_le (P := fun i => f i ≤ x) bound) with hlt | heq
    · exact lt_of_not_ge (Nat.findGreatest_is_greatest (Nat.lt_succ_self _) hlt)
    · rwa [heq]

/-- The year of a day is the one that has begun and not ended. -/
theorem yearOfDays_spec (days : Int) :
    daysBeforeYear (yearOfDays days) ≤ days ∧ days < daysBeforeYear (yearOfDays days + 1) := by
  simp only [yearOfDays]
  generalize hguess : days * 400 / 146097 = guess
  have hearly : daysBeforeYear (guess + (0 : Nat)) ≤ days := by
    simp only [daysBeforeYear]
    omega
  have hlate : days < daysBeforeYear (guess + (2 + 1 : Nat)) := by
    simp only [daysBeforeYear]
    omega
  rw [Int.add_assoc, ← Int.natCast_succ]
  exact findGreatest_between (f := fun later => daysBeforeYear (guess + later)) hearly hlate

theorem findGreatest_month {year : Int} {past month : Nat} (h : past < daysInYear year)
    (hmonth : Nat.findGreatest (fun month => daysBeforeMonth year month ≤ past) 12 = month) :
    (1 ≤ month ∧ month ≤ 12) ∧ daysBeforeMonth year month ≤ past ∧
      past < daysBeforeMonth year month + daysInMonth year month := by
  rw [← daysBeforeMonth_thirteen] at h
  obtain ⟨hbegin, hend⟩ := findGreatest_between (f := daysBeforeMonth year) (Nat.zero_le past) h
  rw [hmonth] at hbegin hend
  have hpos : 1 ≤ month := by
    by_contra hzero
    obtain rfl : month = 0 := by omega
    exact Nat.not_lt_zero past hend
  rw [daysBeforeMonth_succ year hpos] at hend
  exact ⟨⟨hpos, hmonth ▸ Nat.findGreatest_le 12⟩, hbegin, hend⟩

/-- A day number is that of its date, which is one of the calendar. -/
theorem ofDayNumber_spec (n : Int) : (ofDayNumber n).IsDay ∧ (ofDayNumber n).dayNumber = n := by
  obtain ⟨hbegin, hend⟩ := yearOfDays_spec (n + 719162)
  simp only [ofDayNumber]
  generalize yearOfDays (n + 719162) = year at hbegin hend
  generalize hpast : (n + 719162 - daysBeforeYear year).toNat = past
  rw [daysBeforeYear_succ] at hend
  generalize hmonth :
    Nat.findGreatest (fun month => daysBeforeMonth year month ≤ past) 12 = month
  obtain ⟨hrange, hfirst, hlast⟩ := findGreatest_month (by omega) hmonth
  refine ⟨⟨hrange, ?_⟩, ?_⟩
  · simp only
    omega
  · simp only [dayNumber]
    omega

theorem isDay_ofDayNumber (n : Int) : (ofDayNumber n).IsDay :=
  (ofDayNumber_spec n).1

theorem dayNumber_ofDayNumber (n : Int) : (ofDayNumber n).dayNumber = n :=
  (ofDayNumber_spec n).2

/-- The day of the number of a day is that day. -/
theorem IsDay.ofDayNumber_dayNumber {date : CivilDate} (h : date.IsDay) :
    ofDayNumber date.dayNumber = date :=
  (isDay_ofDayNumber _).eq_of_dayNumber_eq h (dayNumber_ofDayNumber _)

/-! ## One day after the other -/

/-- The day after a day. -/
def next (date : CivilDate) : CivilDate :=
  if date.day < daysInMonth date.year date.month then { date with day := date.day + 1 }
  else if date.month < 12 then { date with month := date.month + 1, day := 1 }
  else { year := date.year + 1, month := 1, day := 1 }

theorem daysInMonth_bounds (year : Int) (month : Nat) :
    1 ≤ daysInMonth year month ∧ daysInMonth year month ≤ 31 := by
  unfold daysInMonth
  cases isLeapYear year <;> split <;> decide

theorem IsDay.next {date : CivilDate} (h : date.IsDay) : date.next.IsDay := by
  unfold CivilDate.next
  split
  · exact ⟨h.month, Nat.le_add_left 1 _, ‹_›⟩
  · split
    · exact ⟨⟨Nat.le_add_left 1 _, ‹_›⟩, Nat.le_refl 1, (daysInMonth_bounds _ _).1⟩
    · exact ⟨⟨Nat.le_refl 1, Nat.le_add_left 1 11⟩, Nat.le_refl 1, (daysInMonth_bounds _ _).1⟩

/-- The next day has the next number. -/
theorem IsDay.dayNumber_next {date : CivilDate} (h : date.IsDay) :
    date.next.dayNumber = date.dayNumber + 1 := by
  have hlast := h.day.2
  unfold CivilDate.next
  split
  · simp only [dayNumber]
    omega
  · split
    · simp only [dayNumber, daysBeforeMonth_succ _ h.month.1]
      omega
    · have hmonth : date.month = 12 := Nat.le_antisymm h.month.2 (Nat.le_of_not_lt ‹_›)
      have hyear := daysBeforeMonth_thirteen date.year
      rw [daysBeforeMonth_succ _ (by decide), ← hmonth] at hyear
      have hjanuary : daysBeforeMonth (date.year + 1) 1 = 0 := rfl
      simp only [dayNumber, daysBeforeYear_succ, hjanuary]
      omega

/-- How the days of the calendar are counted. -/
structure Counted (dateOf : Int → CivilDate) : Prop where
  first : dateOf 0 = ⟨1970, 1, 1⟩
  next : ∀ n, dateOf (n + 1) = (dateOf n).next
  isDay : ∀ n, (dateOf n).IsDay
  /-- The days of the week come in turn, from a Thursday. -/
  weekdays : (dateOf 0).weekday = 3 ∧ ∀ n, (dateOf (n + 1)).weekday = ((dateOf n).weekday + 1) % 7

theorem counted_ofDayNumber : Counted ofDayNumber where
  first := by decide +kernel
  next n := by
    refine (isDay_ofDayNumber _).eq_of_dayNumber_eq (isDay_ofDayNumber n).next ?_
    rw [(isDay_ofDayNumber n).dayNumber_next, dayNumber_ofDayNumber, dayNumber_ofDayNumber]
  isDay := isDay_ofDayNumber
  weekdays := by
    simp only [weekday, dayNumber_ofDayNumber]
    refine ⟨rfl, fun n => ?_⟩
    omega

namespace Counted

variable {dateOf : Int → CivilDate}

theorem dayNumber (h : Counted dateOf) (n : Int) : (dateOf n).dayNumber = n := by
  have hstep : ∀ n, (dateOf (n + 1)).dayNumber = (dateOf n).dayNumber + 1 := by
    intro n
    rw [h.next, (h.isDay n).dayNumber_next]
  induction n using Int.induction_on with
  | zero =>
    rw [h.first]
    rfl
  | succ n ih => rw [hstep, ih]
  | pred n ih =>
    have hback := hstep (-n - 1)
    rw [Int.sub_add_cancel, ih] at hback
    omega

/-- There is only one way to count the days. -/
theorem eq_ofDayNumber (h : Counted dateOf) : dateOf = ofDayNumber := by
  funext n
  rw [← (h.isDay n).ofDayNumber_dayNumber, h.dayNumber]

end Counted

end CivilDate

/-! ## Times of day -/

/-- The date that clocks show some seconds after the beginning of 1970. -/
def CivilDate.ofSeconds (seconds : Int) : CivilDate :=
  ofDayNumber (seconds / 86400)

theorem CivilDate.isDay_ofSeconds (seconds : Int) : (ofSeconds seconds).IsDay :=
  isDay_ofDayNumber _

/-- The time that clocks show some seconds after the beginning of 1970. -/
def ClockTime.ofSeconds (seconds : Int) : ClockTime :=
  let past := (seconds % 86400).toNat
  { hour := past / 3600, minute := past / 60 % 60, second := past % 60 }

theorem ClockTime.ofSeconds_lt (seconds : Int) :
    (ofSeconds seconds).hour < 24 ∧ (ofSeconds seconds).minute < 60 ∧
      (ofSeconds seconds).second < 60 := by
  simp only [ofSeconds]
  omega

theorem Instant.ofCivil_ofSeconds (seconds ahead : Int) :
    ofCivil (.ofSeconds seconds) (.ofSeconds seconds) ahead = ⟨seconds - ahead, 0⟩ := by
  have hsecond := (ClockTime.ofSeconds_lt seconds).2.2
  rw [ofCivil, if_neg hsecond.ne, CivilDate.ofSeconds, CivilDate.dayNumber_ofDayNumber]
  congr 1
  simp only [ClockTime.ofSeconds]
  omega

/-! ## Ranges of years -/

/-- Seconds from the beginning of a first year to the end of a last one. -/
def WithinYears (first last seconds : Int) : Prop :=
  CivilDate.dayNumber ⟨first, 1, 1⟩ * 86400 ≤ seconds ∧
    seconds < CivilDate.dayNumber ⟨last + 1, 1, 1⟩ * 86400

instance (first last seconds : Int) : Decidable (WithinYears first last seconds) :=
  inferInstanceAs (Decidable (_ ∧ _))

/-- Days are counted from the first of January of the year 1970. -/
theorem CivilDate.dayNumber_newYear (year : Int) :
    dayNumber ⟨year, 1, 1⟩ = daysBeforeYear year - 719162 := by
  have hjanuary : daysBeforeMonth year 1 = 0 := rfl
  simp only [dayNumber, hjanuary]
  omega

theorem WithinYears.year_ofSeconds {first last seconds : Int} (h : WithinYears first last seconds) :
    first ≤ (CivilDate.ofSeconds seconds).year ∧ (CivilDate.ofSeconds seconds).year ≤ last := by
  have hyear := (CivilDate.isDay_ofDayNumber (seconds / 86400)).dayNumber_mem_year
  rw [CivilDate.dayNumber_ofDayNumber] at hyear
  rw [WithinYears, CivilDate.dayNumber_newYear, CivilDate.dayNumber_newYear] at h
  rw [CivilDate.ofSeconds]
  generalize (CivilDate.ofDayNumber (seconds / 86400)).year = year at hyear
  constructor
  · by_contra hlt
    have := CivilDate.daysBeforeYear_mono (show year + 1 ≤ first by omega)
    omega
  · by_contra hgt
    have := CivilDate.daysBeforeYear_mono (show last + 1 ≤ year by omega)
    omega

end CubeClient
