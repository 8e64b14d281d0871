/-
  TableSync/Proofs/Time/Calendar.lean
  ===================================
  **The calendar and the clock** — dates in order, and every moment at its date.

  A date is a number of days in two ways: as the days before it, and as its
  year, month and day written one after another.  Both put dates in the same
  order, for the days of a month end before the next month begins, and those of
  a year before the next year (`number_lt_iff`).  So two dates of one moment
  are the same, and a date is read back from its moment
  (`Proper.calendar_toTimestamp`).
-/
import Mathlib.Data.Nat.Init
import Mathlib.Tactic.Ring
import Mathlib.Tactic.SplitIfs
import TableSync.Timestamp

namespace TableSync

namespace Calendar

/-! ## 1. Years -/

/-- The days of a year. -/
def yearLength (year : Nat) : Nat := if isLeap year then 366 else 365

theorem isLeap_iff {year : Nat} : isLeap year = true ↔ year % 4 = 0 ∧ (year % 100 ≠ 0 ∨ year % 400 = 0) := by
  simp [isLeap]

theorem div_eq_of_pos {year : Nat} (h : 1 ≤ year) (k : Nat) :
    year / k = (year - 1) / k + if year % k = 0 then 1 else 0 := by
  obtain ⟨past, rfl⟩ := Nat.exists_eq_add_of_le' h
  rw [Nat.add_sub_cancel, Nat.succ_div]
  simp only [Nat.dvd_iff_mod_eq_zero]

theorem yearLength_add (year : Nat) : yearLength year + (if year % 100 = 0 then 1 else 0) =
    365 + (if year % 4 = 0 then 1 else 0) + if year % 400 = 0 then 1 else 0 := by
  unfold yearLength
  simp only [isLeap_iff]
  split_ifs <;> omega

theorem daysBeforeYear_succ {year : Nat} (h : 1 ≤ year) :
    daysBeforeYear (year + 1) = daysBeforeYear year + yearLength year := by
  have hlength := yearLength_add year
  have hfour := div_eq_of_pos h 4
  have hhundred := div_eq_of_pos h 100
  have hfourHundred := div_eq_of_pos h 400
  have hpast : (year - 1) / 100 ≤ (year - 1) / 4 := by omega
  have hpresent : year / 100 ≤ year / 4 := by omega
  unfold daysBeforeYear
  rw [Nat.add_sub_cancel]
  dsimp only
  omega

/-- A year ends before any later one begins. -/
theorem daysBeforeYear_add_le {year later : Nat} (h : 1 ≤ year) (hlater : year < later) :
    daysBeforeYear year + yearLength year ≤ daysBeforeYear later := by
  induction later, hlater using Nat.le_induction with
  | base => exact (daysBeforeYear_succ h).ge
  | succ next hnext ih =>
    rw [daysBeforeYear_succ (by omega)]
    omega

/-- Years by cycles of 400, 100, 4 and 1. -/
theorem daysBeforeYear_cycles {a b c d : Nat} (hb : b ≤ 3) (hc : c ≤ 24) (hd : d ≤ 3) :
    daysBeforeYear (400 * a + 100 * b + 4 * c + d + 1) = 146097 * a + 36524 * b + 1461 * c + 365 * d := by
  have hfour : (400 * a + 100 * b + 4 * c + d) / 4 = 100 * a + 25 * b + c := by omega
  have hhundred : (400 * a + 100 * b + 4 * c + d) / 100 = 4 * a + b := by omega
  have hfourHundred : (400 * a + 100 * b + 4 * c + d) / 400 = a := by omega
  unfold daysBeforeYear
  rw [Nat.add_sub_cancel]
  dsimp only
  omega

/-- The last year of four has a leap day, unless these are the last of a hundred that are not the last of four
hundred. -/
theorem isLeap_cycles {a b c d : Nat} (hc : c ≤ 24) (hd : d = 3) (h : c < 24 ∨ b = 3) :
    isLeap (400 * a + 100 * b + 4 * c + d + 1) = true := by
  refine isLeap_iff.2 ⟨by omega, ?_⟩
  rcases h with h | h
  · exact .inl (by omega)
  · by_cases hlast : c = 24
    · exact .inr (by omega)
    · exact .inl (by omega)

/-- Every day is in a year, after the days before the year. -/
theorem yearOfDay_eq (n : Nat) : ∃ year day, yearOfDay n = (year, day) ∧ 1 ≤ year ∧
    daysBeforeYear year + day = n ∧ day < yearLength year := by
  obtain ⟨a, ha⟩ : ∃ a, a = n / 146097 := ⟨_, rfl⟩
  obtain ⟨b, hb⟩ : ∃ b, b = min (n % 146097 / 36524) 3 := ⟨_, rfl⟩
  obtain ⟨c, hc⟩ : ∃ c, c = (n % 146097 - b * 36524) / 1461 := ⟨_, rfl⟩
  obtain ⟨d, hd⟩ : ∃ d, d = min ((n % 146097 - b * 36524) % 1461 / 365) 3 := ⟨_, rfl⟩
  have hyear : yearOfDay n =
      (400 * a + 100 * b + 4 * c + d + 1, (n % 146097 - b * 36524) % 1461 - d * 365) := by
    subst ha hb hc hd
    rfl
  have hb3 : b ≤ 3 := by omega
  have hd3 : d ≤ 3 := by omega
  have hc24 : c ≤ 24 := by omega
  refine ⟨_, _, hyear, by omega, ?_, ?_⟩
  · rw [daysBeforeYear_cycles hb3 hc24 hd3]
    omega
  · unfold yearLength
    by_cases hleap : d = 3 ∧ (c < 24 ∨ b = 3)
    · rw [if_pos (isLeap_cycles hc24 hleap.1 hleap.2)]
      omega
    · have hday : (n % 146097 - b * 36524) % 1461 - d * 365 < 365 := by omega
      split
      · omega
      · exact hday

/-! ## 2. Months -/

theorem yearLength_eq (year : Nat) : yearLength year = (monthLengths (isLeap year)).sum := by
  unfold yearLength
  cases isLeap year <;> rfl

theorem monthLengths_le {leap : Bool} {i length : Nat} (h : (monthLengths leap)[i]? = some length) : length ≤ 31 := by
  have hall : ∀ length ∈ monthLengths leap, length ≤ 31 := by cases leap <;> decide
  exact hall length (List.mem_of_getElem? h)

/-- A month ends before any later one begins. -/
theorem sum_take_add_le {lengths : List Nat} {i later length : Nat} (hlength : lengths[i]? = some length)
    (h : i < later) : (lengths.take i).sum + length ≤ (lengths.take later).sum := by
  induction lengths generalizing i later with
  | nil => simp at hlength
  | cons first rest ih =>
    obtain ⟨later, rfl⟩ := Nat.exists_eq_add_of_lt h
    cases i with
    | zero =>
      obtain rfl : first = length := by simpa using hlength
      simp
    | succ i =>
      have hrest := @ih i (i + later + 1) (by simpa using hlength) (by omega)
      rw [show i + 1 + later + 1 = i + later + 1 + 1 by omega, List.take_succ_cons, List.take_succ_cons, List.sum_cons,
        List.sum_cons]
      omega

/-- Every day of a year is in a month, after the days before the month. -/
theorem monthOfDay_eq {lengths : List Nat} (month : Nat) {day : Nat} (h : day < lengths.sum) :
    ∃ i length rest, lengths[i]? = some length ∧ rest < length ∧ (lengths.take i).sum + rest = day ∧
      monthOfDay lengths month day = (month + i, rest + 1) := by
  induction lengths generalizing month day with
  | nil => simp at h
  | cons first others ih =>
    rw [monthOfDay]
    by_cases hfirst : day < first
    · exact ⟨0, first, day, rfl, hfirst, by simp, if_pos hfirst⟩
    · have hothers : day - first < others.sum := by
        rw [List.sum_cons] at h
        omega
      rw [if_neg hfirst]
      obtain ⟨i, length, rest, hlength, hrest, hday, hmonth⟩ := ih (month + 1) hothers
      refine ⟨i + 1, length, rest, hlength, hrest, ?_, ?_⟩
      · rw [List.take_succ_cons, List.sum_cons]
        omega
      · rw [hmonth, Nat.add_right_comm, Nat.add_assoc]

/-! ## 3. Dates -/

/-- A year, a month and a day that are in the calendar. -/
structure IsDate (year month day : Nat) : Prop where
  year_pos : 1 ≤ year
  month_pos : 1 ≤ month
  day_pos : 1 ≤ day
  within : ∃ length, (monthLengths (isLeap year))[month - 1]? = some length ∧ day ≤ length

section Dates

variable {year month day year' month' day' : Nat}

theorem IsDate.month_le (h : IsDate year month day) : month ≤ 12 := by
  obtain ⟨length, hlength, -⟩ := h.within
  have hlt := (List.getElem?_eq_some_iff.1 hlength).1
  have htwelve : (monthLengths (isLeap year)).length = 12 := by cases isLeap year <;> rfl
  omega

theorem IsDate.day_le (h : IsDate year month day) : day ≤ 31 := by
  obtain ⟨length, hlength, hday⟩ := h.within
  exact hday.trans (monthLengths_le hlength)

theorem dayNumber_eq (year month day : Nat) : dayNumber year month day =
    daysBeforeYear year + ((monthLengths (isLeap year)).take (month - 1)).sum + (day - 1) := rfl

/-- A date comes before the end of its month. -/
theorem IsDate.dayNumber_lt (h : IsDate year month day) {later : Nat} (hlater : month ≤ later) :
    dayNumber year month day < daysBeforeYear year + ((monthLengths (isLeap year)).take later).sum := by
  obtain ⟨length, hlength, hday⟩ := h.within
  have hmonth := sum_take_add_le hlength (show month - 1 < later by have := h.month_pos; omega)
  have hpos := h.day_pos
  rw [dayNumber_eq]
  omega

/-- And so before the end of its year. -/
theorem IsDate.dayNumber_lt_year (h : IsDate year month day) :
    dayNumber year month day < daysBeforeYear year + yearLength year := by
  have hend := h.dayNumber_lt h.month_le
  have hall : (monthLengths (isLeap year)).take 12 = monthLengths (isLeap year) := by cases isLeap year <;> rfl
  rwa [hall, ← yearLength_eq] at hend

theorem daysBeforeYear_le_dayNumber : daysBeforeYear year ≤ dayNumber year month day := by
  rw [dayNumber_eq]
  omega

/-- A date written as one number. -/
def dateNumber (year month day : Nat) : Nat := (year * 100 + month) * 100 + day

theorem IsDate.eq_of_dateNumber (h : IsDate year month day) (h' : IsDate year' month' day')
    (heq : dateNumber year month day = dateNumber year' month' day') : year = year' ∧ month = month' ∧ day = day' := by
  have hmonth := h.month_le
  have hday := h.day_le
  have hmonth' := h'.month_le
  have hday' := h'.day_le
  unfold dateNumber at heq
  omega

theorem IsDate.dayNumber_lt_of_dateNumber (h : IsDate year month day) (h' : IsDate year' month' day')
    (hlt : dateNumber year month day < dateNumber year' month' day') :
    dayNumber year month day < dayNumber year' month' day' := by
  unfold dateNumber at hlt
  have hmonth := h.month_le
  have hday := h.day_le
  have hmonth' := h'.month_le
  have hday' := h'.day_le
  have horder : year < year' ∨ year = year' ∧ (month < month' ∨ month = month' ∧ day < day') := by omega
  rcases horder with hyear | ⟨rfl, hmonths | ⟨rfl, hdays⟩⟩
  · calc dayNumber year month day < daysBeforeYear year + yearLength year := h.dayNumber_lt_year
      _ ≤ daysBeforeYear year' := daysBeforeYear_add_le h.year_pos hyear
      _ ≤ dayNumber year' month' day' := daysBeforeYear_le_dayNumber
  · have hend := h.dayNumber_lt (show month ≤ month' - 1 by omega)
    rw [dayNumber_eq year month']
    omega
  · have hpos := h.day_pos
    rw [dayNumber_eq, dayNumber_eq]
    omega

end Dates

/-! ## 4. Moments -/

/-- The fields of a moment: a date and a time of day. -/
structure Proper (c : Calendar) : Prop where
  date : IsDate c.year c.month c.day
  hour_lt : c.hour < 24
  minute_lt : c.minute < 60
  second_lt : c.second < 60
  micro_lt : c.micro < 1000000

/-- A time of day written as one number. -/
def clockNumber (c : Calendar) : Nat := ((c.hour * 100 + c.minute) * 100 + c.second) * 1000000 + c.micro

/-- All fields written one after another, as one number. -/
def number (c : Calendar) : Nat := dateNumber c.year c.month c.day * 1000000000000 + c.clockNumber

variable {a b c : Calendar}

theorem Proper.of_isValid (h : c.isValid = true) : c.Proper := by
  simp only [isValid, Bool.and_eq_true, decide_eq_true_eq] at h
  obtain ⟨⟨⟨⟨⟨⟨⟨⟨⟨hyear, -⟩, hmonth⟩, -⟩, hday⟩, hlength⟩, hhour⟩, hminute⟩, hsecond⟩, hmicro⟩ := h
  refine ⟨⟨hyear, hmonth, hday, ?_⟩, hhour, hminute, hsecond, hmicro⟩
  cases hfound : (monthLengths (isLeap c.year))[c.month - 1]? with
  | none =>
    rw [hfound, Option.getD_none] at hlength
    omega
  | some length =>
    rw [hfound, Option.getD_some] at hlength
    exact ⟨length, rfl, hlength⟩

theorem Proper.clockNumber_lt (h : c.Proper) : c.clockNumber < 1000000000000 := by
  have hhour := h.hour_lt
  have hminute := h.minute_lt
  have hsecond := h.second_lt
  have hmicro := h.micro_lt
  unfold clockNumber
  omega

/-- The microseconds of a day before a time of day. -/
def microsOfDay (c : Calendar) : Nat := ((c.hour * 60 + c.minute) * 60 + c.second) * 1000000 + c.micro

theorem toTimestamp_micros :
    c.toTimestamp.micros = ((dayNumber c.year c.month c.day * 86400000000 + c.microsOfDay : Nat) : Int) := by
  unfold toTimestamp microsOfDay
  push_cast
  ring

theorem Proper.microsOfDay_lt (h : c.Proper) : c.microsOfDay < 86400000000 := by
  have hhour := h.hour_lt
  have hminute := h.minute_lt
  have hsecond := h.second_lt
  have hmicro := h.micro_lt
  unfold microsOfDay
  omega

theorem Proper.microsOfDay_lt_of_clockNumber (ha : a.Proper) (hb : b.Proper) (h : a.clockNumber < b.clockNumber) :
    a.microsOfDay < b.microsOfDay := by
  have hminute := ha.minute_lt
  have hsecond := ha.second_lt
  have hmicro := ha.micro_lt
  have hminute' := hb.minute_lt
  have hsecond' := hb.second_lt
  have hmicro' := hb.micro_lt
  have horder : a.hour < b.hour ∨ a.hour = b.hour ∧ (a.minute < b.minute ∨ a.minute = b.minute ∧
      (a.second < b.second ∨ a.second = b.second ∧ a.micro < b.micro)) := by
    unfold clockNumber at h
    omega
  unfold microsOfDay
  rcases horder with hhour | ⟨hhour, hminutes | ⟨hminutes, hseconds | ⟨hseconds, hmicros⟩⟩⟩
  · omega
  · omega
  · omega
  · rw [hhour, hminutes, hseconds]
    omega

theorem Proper.eq_of_number (ha : a.Proper) (hb : b.Proper) (h : a.number = b.number) : a = b := by
  have hclock := ha.clockNumber_lt
  have hclock' := hb.clockNumber_lt
  obtain ⟨hdate, hsame⟩ : dateNumber a.year a.month a.day = dateNumber b.year b.month b.day ∧
      a.clockNumber = b.clockNumber := by
    unfold number at h
    omega
  obtain ⟨hyear, hmonth, hday⟩ := ha.date.eq_of_dateNumber hb.date hdate
  have hminute := ha.minute_lt
  have hsecond := ha.second_lt
  have hmicro := ha.micro_lt
  have hminute' := hb.minute_lt
  have hsecond' := hb.second_lt
  have hmicro' := hb.micro_lt
  obtain ⟨hhours, hminutes, hseconds, hmicros⟩ : a.hour = b.hour ∧ a.minute = b.minute ∧ a.second = b.second ∧
      a.micro = b.micro := by
    unfold clockNumber at hsame
    omega
  cases a
  cases b
  exact Calendar.mk.injEq .. ▸ ⟨hyear, hmonth, hday, hhours, hminutes, hseconds, hmicros⟩

/-- Moments are in the order of their numbers. -/
theorem Proper.micros_lt_of_number (ha : a.Proper) (hb : b.Proper) (h : a.number < b.number) :
    a.toTimestamp.micros < b.toTimestamp.micros := by
  have hclock := ha.clockNumber_lt
  have hclock' := hb.clockNumber_lt
  have hmicros := ha.microsOfDay_lt
  have horder : dateNumber a.year a.month a.day < dateNumber b.year b.month b.day ∨
      dateNumber a.year a.month a.day = dateNumber b.year b.month b.day ∧ a.clockNumber < b.clockNumber := by
    unfold number at h
    omega
  rw [toTimestamp_micros, toTimestamp_micros, Int.ofNat_lt]
  rcases horder with hdate | ⟨hdate, htime⟩
  · have hdays := ha.date.dayNumber_lt_of_dateNumber hb.date hdate
    omega
  · obtain ⟨hyear, hmonth, hday⟩ := ha.date.eq_of_dateNumber hb.date hdate
    rw [hyear, hmonth, hday]
    have htimes := ha.microsOfDay_lt_of_clockNumber hb htime
    omega

theorem Proper.number_lt_iff (ha : a.Proper) (hb : b.Proper) :
    a.number < b.number ↔ a.toTimestamp.micros < b.toTimestamp.micros := by
  refine ⟨ha.micros_lt_of_number hb, fun h => ?_⟩
  rcases Nat.lt_trichotomy a.number b.number with hlt | heq | hgt
  · exact hlt
  · rw [ha.eq_of_number hb heq] at h
    exact absurd h (lt_irrefl _)
  · exact absurd h (lt_asymm (hb.micros_lt_of_number ha hgt))

theorem Proper.eq_of_toTimestamp (ha : a.Proper) (hb : b.Proper) (h : a.toTimestamp = b.toTimestamp) : a = b := by
  have hmicros : a.toTimestamp.micros = b.toTimestamp.micros := congrArg _ h
  refine ha.eq_of_number hb (Nat.le_antisymm (Nat.le_of_not_lt fun hlt => ?_) (Nat.le_of_not_lt fun hlt => ?_))
  · exact absurd hmicros ((hb.number_lt_iff ha).1 hlt).ne'
  · exact absurd hmicros ((ha.number_lt_iff hb).1 hlt).ne

end Calendar

/-! ## 5. The calendar of the clock -/

namespace Timestamp

variable {t : Timestamp}

theorem calendar_eq (t : Timestamp) : ∃ year month day, t.calendar =
      ⟨year, month, day, t.micros.toNat / 1000000 / 3600 % 24, t.micros.toNat / 1000000 / 60 % 60,
        t.micros.toNat / 1000000 % 60, t.micros.toNat % 1000000⟩ ∧ Calendar.IsDate year month day ∧
      Calendar.dayNumber year month day = t.micros.toNat / 1000000 / 86400 := by
  obtain ⟨year, day, hyear, hpos, hdays, hday⟩ := Calendar.yearOfDay_eq (t.micros.toNat / 1000000 / 86400)
  rw [Calendar.yearLength_eq] at hday
  obtain ⟨i, length, rest, hlength, hrest, hmonth, hfound⟩ := Calendar.monthOfDay_eq 1 hday
  refine ⟨year, 1 + i, rest + 1, ?_, ⟨hpos, by omega, by omega, length, ?_, hrest⟩, ?_⟩
  · simp only [calendar, hyear, hfound]
  · rwa [Nat.add_sub_cancel_left]
  · rw [Calendar.dayNumber_eq, Nat.add_sub_cancel_left, Nat.add_sub_cancel]
    omega

theorem calendar_proper (t : Timestamp) : t.calendar.Proper := by
  obtain ⟨year, month, day, hcalendar, hdate, -⟩ := calendar_eq t
  rw [hcalendar]
  exact ⟨hdate, Nat.mod_lt _ (by decide), Nat.mod_lt _ (by decide), Nat.mod_lt _ (by decide), Nat.mod_lt _ (by decide)⟩

/-- No moment is lost in the calendar. -/
theorem toTimestamp_calendar (h : 0 ≤ t.micros) : t.calendar.toTimestamp = t := by
  obtain ⟨year, month, day, hcalendar, -, hdays⟩ := calendar_eq t
  have hmicros : t.calendar.toTimestamp.micros = t.micros := by
    rw [Calendar.toTimestamp_micros, hcalendar, Calendar.microsOfDay]
    dsimp only
    omega
  cases t
  exact congrArg Timestamp.mk hmicros

end Timestamp

/-- A date and a time of day are read back from their moment. -/
theorem Calendar.Proper.calendar_toTimestamp {c : Calendar} (h : c.Proper) : c.toTimestamp.calendar = c := by
  have hpos : 0 ≤ c.toTimestamp.micros := by
    rw [Calendar.toTimestamp_micros]
    exact Int.natCast_nonneg _
  exact (Timestamp.calendar_proper _).eq_of_toTimestamp h (Timestamp.toTimestamp_calendar hpos)

end TableSync
