import TradeReconcile.BeijingTime

/-!
# The civil calendar day by day

Day numbers and calendar dates determine each other. An era has 146097 days and
400 years; a year begins in March, so that a leap day is its last day. The year
of a day is read off with three corrections to a division by 365, and the month
with a linear interpolation; both are shown exact, century by century and month
by month. Day numbers start at 1970-01-01 and advance by one from each date to
the next.
-/

namespace TradeReconcile.BeijingTime

/-- Days of an era before one of its years. -/
def daysBeforeYear (yearOfEra : Nat) : Nat := 365 * yearOfEra + yearOfEra / 4 - yearOfEra / 100

/-- Days from 0000-03-01 to the start of a year in March. -/
def daysBeforeMarch (year : Int) : Int := year / 400 * 146097 + daysBeforeYear (year % 400).toNat

/-- A year has at least 365 days. -/
theorem daysBeforeMarch_next (year : Int) : daysBeforeMarch year + 365 ≤ daysBeforeMarch (year + 1) := by
  unfold daysBeforeMarch daysBeforeYear
  omega

/-- Later years start later. -/
theorem daysBeforeMarch_mono {one two : Int} (before : one ≤ two) :
    daysBeforeMarch one ≤ daysBeforeMarch two :=
  monotone_int_of_le_succ (fun year => by have := daysBeforeMarch_next year; omega) before

/-- A day of a year that began in March; the last day of February is the leap day. Years are
counted within an era of 400, so the rules for centuries are the ones of the calendar. -/
structure DayOfYear (yearOfEra dayOfYear : Nat) : Prop where
  era : yearOfEra ≤ 399
  short : dayOfYear ≤ 365
  leap : dayOfYear = 365 →
    (yearOfEra + 1) % 4 = 0 ∧ ((yearOfEra + 1) % 100 ≠ 0 ∨ (yearOfEra + 1) % 400 = 0)

/-- The year of an era that a day of the era belongs to. -/
def yearOfDay (dayOfEra : Nat) : Nat :=
  (dayOfEra - dayOfEra / 1460 + dayOfEra / 36524 - dayOfEra / 146096) / 365

/-- Within a century the correction for its leap days suffices. Each century
starts with 24 days more to be corrected than the one before. -/
theorem year_within_century {century day yearOfCentury : Nat} (four : century < 4) (below : day < 36524)
    (made : (day - (24 * century + day) / 1460) / 365 = yearOfCentury) :
    yearOfCentury ≤ 99 ∧ 365 * yearOfCentury + yearOfCentury / 4 ≤ day ∧
      day ≤ 365 * yearOfCentury + yearOfCentury / 4 + 365 ∧
      (day = 365 * yearOfCentury + yearOfCentury / 4 + 365 →
        yearOfCentury % 4 = 3 ∧ yearOfCentury < 99) := by
  interval_cases century
  · omega
  · omega
  · omega
  · omega

/-- Within a century the division by 365 finds the year, once the leap days before it are
taken off. The last day of a leap year is the case that has to be watched: it is in a year
that is divisible by four, and not in the century's last one. -/
theorem year_within_century_eq {century yearOfCentury dayOfYear : Nat} (four : century < 4)
    (below : yearOfCentury < 100) (short : dayOfYear ≤ 365)
    (leap : dayOfYear = 365 → yearOfCentury % 4 = 3 ∧ yearOfCentury < 99) :
    (365 * yearOfCentury + yearOfCentury / 4 + dayOfYear -
      (24 * century + (365 * yearOfCentury + yearOfCentury / 4 + dayOfYear)) / 1460) / 365 =
        yearOfCentury := by
  have atMost : (24 * century + (365 * yearOfCentury + yearOfCentury / 4 + dayOfYear)) / 1460 <
      yearOfCentury / 4 + dayOfYear + 1 := by
    rw [Nat.div_lt_iff_lt_mul (by decide)]
    omega
  have atLeast : yearOfCentury / 4 + dayOfYear - 364 ≤
      (24 * century + (365 * yearOfCentury + yearOfCentury / 4 + dayOfYear)) / 1460 := by
    rw [Nat.le_div_iff_mul_le (by decide)]
    omega
  omega

/-- A century before the last one of an era has 24 leap days. -/
theorem daysBeforeYear_century {century yearOfCentury : Nat} (below : yearOfCentury < 100) :
    daysBeforeYear (100 * century + yearOfCentury) =
      36524 * century + (365 * yearOfCentury + yearOfCentury / 4) := by
  have leaps : (100 * century + yearOfCentury) / 4 = 25 * century + yearOfCentury / 4 := by omega
  have centuries : (100 * century + yearOfCentury) / 100 = century := by omega
  rw [daysBeforeYear, leaps, centuries]
  omega

/-- The three corrections, for a day of one of the four centuries. -/
theorem yearOfDay_century {century day : Nat} (four : century < 4) (below : day < 36524) :
    yearOfDay (36524 * century + day) = 100 * century + (day - (24 * century + day) / 1460) / 365 := by
  have leaps : (36524 * century + day) / 1460 = 25 * century + (24 * century + day) / 1460 := by
    omega
  have centuries : (36524 * century + day) / 36524 = century := by omega
  have eras : (36524 * century + day) / 146096 = 0 := by omega
  have few : (24 * century + day) / 1460 ≤ 24 * century + day := Nat.div_le_self _ _
  rw [yearOfDay, leaps, centuries, eras]
  omega

/-- Every day of an era lies in the year that the division finds. The last day of the era is
looked at on its own: it is the leap day of the year 400. -/
theorem yearOfDay_spec {dayOfEra : Nat} (below : dayOfEra < 146097) :
    ∃ dayOfYear, DayOfYear (yearOfDay dayOfEra) dayOfYear ∧
      dayOfEra = daysBeforeYear (yearOfDay dayOfEra) + dayOfYear := by
  by_cases last : dayOfEra = 146096
  · subst last
    exact ⟨365, ⟨by decide, by decide, by decide⟩, by decide⟩
  · obtain ⟨century, day, rfl, inside⟩ : ∃ century day, dayOfEra = 36524 * century + day ∧ day < 36524 :=
      ⟨dayOfEra / 36524, dayOfEra % 36524, by omega, by omega⟩
    have four : century < 4 := by omega
    rw [yearOfDay_century four inside]
    generalize made : (day - (24 * century + day) / 1460) / 365 = yearOfCentury
    obtain ⟨short, first, length, leap⟩ := year_within_century four inside made
    refine ⟨day - (365 * yearOfCentury + yearOfCentury / 4), ⟨by omega, by omega, ?_⟩, ?_⟩
    · intro full
      have := leap (by omega)
      omega
    · rw [daysBeforeYear_century (by omega)]
      omega

/-- The division finds the year that a day was given by. The corrections for leap years and
centuries make the quotient exact on each day of the 400 years, first and last days
included. -/
theorem yearOfDay_eq {yearOfEra dayOfYear : Nat} (within : DayOfYear yearOfEra dayOfYear) :
    yearOfDay (daysBeforeYear yearOfEra + dayOfYear) = yearOfEra ∧
      daysBeforeYear yearOfEra + dayOfYear < 146097 := by
  obtain ⟨era, short, leap⟩ := within
  by_cases last : yearOfEra = 399 ∧ dayOfYear = 365
  · obtain ⟨rfl, rfl⟩ := last
    decide
  · obtain ⟨century, yearOfCentury, rfl, inside⟩ :
        ∃ century yearOfCentury, yearOfEra = 100 * century + yearOfCentury ∧ yearOfCentury < 100 :=
      ⟨yearOfEra / 100, yearOfEra % 100, by omega, by omega⟩
    have four : century < 4 := by omega
    have leap' : dayOfYear = 365 → yearOfCentury % 4 = 3 ∧ yearOfCentury < 99 := by
      intro full
      have := leap full
      omega
    have split : daysBeforeYear (100 * century + yearOfCentury) + dayOfYear =
        36524 * century + (365 * yearOfCentury + yearOfCentury / 4 + dayOfYear) := by
      rw [daysBeforeYear_century inside, Nat.add_assoc]
    have below : 365 * yearOfCentury + yearOfCentury / 4 + dayOfYear < 36524 := by
      by_cases full : dayOfYear = 365
      · have := leap' full
        omega
      · omega
    constructor
    · rw [split, yearOfDay_century four below, year_within_century_eq four inside short leap']
    · omega

/-- Days of a year that began in March before one of its months. -/
def daysBeforeMonth (monthIndex : Nat) : Nat := (153 * monthIndex + 2) / 5

/-- March is the first month of such a year. -/
def monthIndexOf (month : Nat) : Nat := if month > 2 then month - 3 else month + 9

/-- A date of the calendar. -/
structure CivilDate where
  year : Nat
  month : Nat
  day : Nat
  months : 1 ≤ month ∧ month ≤ 12
  days : 1 ≤ day ∧ day ≤ daysInMonth year month

namespace CivilDate

/-- Days from 1970-01-01 to a date. -/
def dayNumber (date : CivilDate) : Int := daysFromCivil date.year date.month date.day

/-- January and February belong to the year that began in the March before. -/
def marchYear (date : CivilDate) : Int := if date.month ≤ 2 then date.year - 1 else date.year

/-- The number of the day in its year, from the first of March. -/
def dayOfYear (date : CivilDate) : Nat :=
  daysBeforeMonth (monthIndexOf date.month) + date.day - 1

/-- Two dates with equal fields are equal. -/
theorem ext_fields {one two : CivilDate} (year : one.year = two.year) (month : one.month = two.month)
    (day : one.day = two.day) : one = two := by
  cases one
  cases two
  subst year month day
  rfl

/-- No month has more than 31 days. -/
theorem day_short (date : CivilDate) : date.day ≤ 31 := by
  have last := date.days.2
  have longest : daysInMonth date.year date.month ≤ 31 := by
    unfold daysInMonth
    split
    · split <;> omega
    · split <;> omega
  omega

/-- The month of a day is found by interpolation. -/
theorem dayOfYear_month (date : CivilDate) :
    (5 * date.dayOfYear + 2) / 153 = monthIndexOf date.month ∧
      date.dayOfYear - daysBeforeMonth (monthIndexOf date.month) + 1 = date.day := by
  obtain ⟨year, month, day, ⟨first, last⟩, days⟩ := date
  simp only [dayOfYear, daysBeforeMonth, monthIndexOf]
  interval_cases month <;> simp [daysInMonth] at days ⊢ <;> try omega
  split at days <;> omega

/-- The day of a date is one of its year's. -/
theorem dayOfYear_within (date : CivilDate) :
    DayOfYear (date.marchYear % 400).toNat date.dayOfYear := by
  obtain ⟨year, month, day, ⟨first, last⟩, days⟩ := date
  constructor
  · omega
  · simp only [dayOfYear, daysBeforeMonth, monthIndexOf]
    interval_cases month <;> simp [daysInMonth] at days ⊢ <;> try omega
    split at days <;> omega
  · simp only [dayOfYear, daysBeforeMonth, monthIndexOf, marchYear]
    interval_cases month <;> simp [daysInMonth] at days ⊢ <;> try omega
    split at days <;> omega

/-- The number of a date's day, by the start of its year. -/
theorem dayNumber_eq (date : CivilDate) :
    date.dayNumber = daysBeforeMarch date.marchYear + date.dayOfYear - 719468 := by
  have first := date.days.1
  have before : ((date.marchYear % 400).toNat * 365 + (date.marchYear % 400).toNat / 4 -
      (date.marchYear % 400).toNat / 100) = daysBeforeYear (date.marchYear % 400).toNat := by
    rw [daysBeforeYear, Nat.mul_comm]
  have number : date.dayNumber = date.marchYear / 400 * 146097 +
      (((date.marchYear % 400).toNat * 365 + (date.marchYear % 400).toNat / 4 -
        (date.marchYear % 400).toNat / 100 + date.dayOfYear : Nat) : Int) - 719468 := rfl
  rw [number, before, daysBeforeMarch]
  omega

/-- The conversion to dates inverts the conversion to day numbers. Years begin in March on
both sides, so the leap day is the last one and no month in between changes length. -/
theorem civilFromDays_dayNumber (date : CivilDate) :
    civilFromDays date.dayNumber = ((date.year : Int), date.month, date.day) := by
  have within := date.dayOfYear_within
  obtain ⟨year, inside⟩ := yearOfDay_eq within
  obtain ⟨month, day⟩ := date.dayOfYear_month
  have number := date.dayNumber_eq
  unfold daysBeforeMarch at number
  generalize days : daysBeforeYear (date.marchYear % 400).toNat + date.dayOfYear = dayOfEra at *
  have era : (date.dayNumber + 719468) / 146097 = date.marchYear / 400 := by omega
  have rest : ((date.dayNumber + 719468) % 146097).toNat = dayOfEra := by omega
  have ofYear : dayOfEra - daysBeforeYear (date.marchYear % 400).toNat = date.dayOfYear := by omega
  unfold yearOfDay at year
  unfold daysBeforeYear at ofYear
  unfold daysBeforeMonth at day
  simp only [civilFromDays, era, rest, year, ofYear, month, day]
  obtain ⟨year, month, day, ⟨first, last⟩, -⟩ := date
  have back : (if monthIndexOf month < 10 then monthIndexOf month + 3 else monthIndexOf month - 9) =
      month := by
    unfold monthIndexOf
    split <;> split <;> omega
  simp only [back, marchYear]
  split <;> simp <;> omega

/-- Different dates have different day numbers. -/
theorem dayNumber_injective {one two : CivilDate} (same : one.dayNumber = two.dayNumber) : one = two := by
  have dates : ((one.year : Int), one.month, one.day) = ((two.year : Int), two.month, two.day) := by
    rw [← civilFromDays_dayNumber, ← civilFromDays_dayNumber, same]
  obtain ⟨year, rest⟩ := Prod.mk.inj dates
  obtain ⟨month, day⟩ := Prod.mk.inj rest
  exact ext_fields (by exact_mod_cast year) month day

end CivilDate

/-- The day and month that belong to a day of a year that began in March. -/
theorem exists_month {yearOfEra dayOfYear : Nat} (within : DayOfYear yearOfEra dayOfYear) {era : Nat} :
    ∃ date : CivilDate, date.dayOfYear = dayOfYear ∧ date.marchYear = yearOfEra + 400 * era := by
  obtain ⟨-, short, leap⟩ := within
  have index : (5 * dayOfYear + 2) / 153 ≤ 11 := by omega
  generalize month : (5 * dayOfYear + 2) / 153 = monthIndex at index
  by_cases early : monthIndex < 10
  · refine ⟨⟨yearOfEra + 400 * era, monthIndex + 3, dayOfYear - daysBeforeMonth monthIndex + 1,
      by omega, ?_⟩, ?_, ?_⟩
    · unfold daysBeforeMonth
      interval_cases monthIndex <;> simp [daysInMonth] <;> omega
    · unfold CivilDate.dayOfYear daysBeforeMonth monthIndexOf
      interval_cases monthIndex <;> simp <;> omega
    · simp [CivilDate.marchYear]
  · refine ⟨⟨yearOfEra + 400 * era + 1, monthIndex - 9, dayOfYear - daysBeforeMonth monthIndex + 1,
      by omega, ?_⟩, ?_, ?_⟩
    · unfold daysBeforeMonth
      interval_cases monthIndex <;> simp [daysInMonth] <;> try omega
      split <;> omega
    · unfold CivilDate.dayOfYear daysBeforeMonth monthIndexOf
      interval_cases monthIndex <;> simp <;> omega
    · simp [CivilDate.marchYear]
      omega

/-- Every day since 0000-03-01 has a date. -/
theorem exists_date {days : Int} (first : -719468 ≤ days) : ∃ date : CivilDate, date.dayNumber = days := by
  have below : ((days + 719468) % 146097).toNat < 146097 := by omega
  obtain ⟨dayOfYear, within, split⟩ := yearOfDay_spec below
  obtain ⟨date, day, year⟩ := @exists_month _ _ within ((days + 719468) / 146097).toNat
  refine ⟨date, ?_⟩
  have number := date.dayNumber_eq
  have short := within.era
  have era : date.marchYear / 400 = (days + 719468) / 146097 := by omega
  have rest : (date.marchYear % 400).toNat = yearOfDay ((days + 719468) % 146097).toNat := by omega
  rw [daysBeforeMarch, era, rest, day] at number
  omega

/-! Day numbers count the days of the calendar, starting with the epoch. -/

namespace CivilDate

/-- The date after a date. -/
def next (date : CivilDate) : CivilDate :=
  if within : date.day < daysInMonth date.year date.month then
    ⟨date.year, date.month, date.day + 1, date.months, by omega⟩
  else if more : date.month < 12 then
    ⟨date.year, date.month + 1, 1, by omega, by
      unfold daysInMonth
      split
      · split <;> omega
      · split <;> omega⟩
  else ⟨date.year + 1, 1, 1, by omega, by simp [daysInMonth]⟩

/-- The epoch is day 0. -/
theorem dayNumber_epoch : (⟨1970, 1, 1, by decide, by decide⟩ : CivilDate).dayNumber = 0 := by
  decide

/-- The next date is the date of the next day. The cases are the ends of months and years;
February ends the year, so leap days only decide where the year ends. -/
theorem dayNumber_next (date : CivilDate) : date.next.dayNumber = date.dayNumber + 1 := by
  suffices counted : daysBeforeMarch date.next.marchYear + date.next.dayOfYear =
      daysBeforeMarch date.marchYear + date.dayOfYear + 1 by
    rw [dayNumber_eq, dayNumber_eq]
    omega
  obtain ⟨year, month, day, ⟨first, last⟩, days⟩ := date
  unfold next
  split
  · simp only [marchYear, dayOfYear]
    omega
  · rename_i ended
    simp only at ended
    obtain rfl : day = daysInMonth year month := by omega
    clear ended
    split
    · rename_i more
      simp only at more
      unfold marchYear dayOfYear daysBeforeMarch daysBeforeYear
      interval_cases month <;> simp [daysInMonth, daysBeforeMonth, monthIndexOf] <;> try omega
    · rename_i more
      simp only at more
      obtain rfl : month = 12 := by omega
      simp [daysInMonth, marchYear, dayOfYear, daysBeforeMonth, monthIndexOf]
      omega

/-- January and February are the end of the year that starts in March. -/
theorem dayOfYear_january (date : CivilDate) : date.month ≤ 2 ↔ 306 ≤ date.dayOfYear := by
  obtain ⟨year, month, day, ⟨first, last⟩, days⟩ := date
  simp only [dayOfYear, daysBeforeMonth, monthIndexOf]
  interval_cases month <;> simp [daysInMonth] at days ⊢ <;> omega

/-- Dates of later years have larger day numbers. Both directions come from the first day of
the year: a date is not before that of its own year and before that of the next. -/
theorem year_le_iff (date : CivilDate) (year : Nat) :
    year ≤ date.year ↔ daysFromCivil year 1 1 ≤ date.dayNumber := by
  have first : daysFromCivil year 1 1 = daysBeforeMarch (year - 1) + 306 - 719468 := by
    simp [daysFromCivil, daysBeforeMarch, daysBeforeYear]
    omega
  have number := date.dayNumber_eq
  have march : date.marchYear = if date.month ≤ 2 then (date.year : Int) - 1 else date.year := rfl
  have short := date.dayOfYear_within.short
  have january := date.dayOfYear_january
  constructor
  · intro later
    by_cases early : date.month ≤ 2
    · rw [if_pos early] at march
      have := daysBeforeMarch_mono (show (year : Int) - 1 ≤ date.marchYear by omega)
      omega
    · rw [if_neg early] at march
      have := daysBeforeMarch_mono (show (year : Int) ≤ date.marchYear by omega)
      have := daysBeforeMarch_next (year - 1)
      rw [Int.sub_add_cancel] at this
      omega
  · intro reached
    by_contra before
    by_cases early : date.month ≤ 2
    · rw [if_pos early] at march
      have := daysBeforeMarch_mono (show date.marchYear + 1 ≤ (year : Int) - 1 by omega)
      have := daysBeforeMarch_next date.marchYear
      omega
    · rw [if_neg early] at march
      have := daysBeforeMarch_mono (show date.marchYear ≤ (year : Int) - 1 by omega)
      omega

end CivilDate

/-! Dates and times of day as texts. -/

/-- A number below 100 is written with two digits. -/
theorem twoDigits_toList {value : Nat} (below : value < 100) :
    (twoDigits value).toList = [(value / 10).digitChar, (value % 10).digitChar] :=
  Decimal.padded_toList below

/-- Two written digits are read as the number. -/
theorem number?_twoDigits {value : Nat} (below : value < 100) :
    number? [(value / 10).digitChar, (value % 10).digitChar] = some value := by
  revert value
  decide

/-- A year of four digits is written with them. -/
theorem year_toList {year : Nat} (first : 1000 ≤ year) (last : year ≤ 9999) :
    (toString year).toList = [(year / 1000).digitChar, (year / 100 % 10).digitChar,
      (year / 10 % 10).digitChar, (year % 10).digitChar] := by
  have hundreds : year / 10 / 10 = year / 100 := by omega
  have thousands : year / 100 / 10 = year / 1000 := by omega
  have ten : 1 < 10 := by decide
  simp [Nat.toDigits_of_base_le ten (show 10 ≤ year by omega),
    Nat.toDigits_of_base_le ten (show 10 ≤ year / 10 by omega), hundreds,
    Nat.toDigits_of_base_le ten (show 10 ≤ year / 100 by omega), thousands,
    Nat.toDigits_of_lt_base (show year / 1000 < 10 by omega)]

/-- The four digits of a year are read digit by digit. -/
theorem number?_year {year : Nat} (last : year ≤ 9999) :
    number? [(year / 1000).digitChar, (year / 100 % 10).digitChar, (year / 10 % 10).digitChar,
      (year % 10).digitChar] = some year := by
  have digit : ∀ value < 10, value.digitChar.isDigit = true ∧ value.digitChar.toNat - '0'.toNat = value := by
    decide
  obtain ⟨thousands, thousandsValue⟩ := digit (year / 1000) (by omega)
  obtain ⟨hundreds, hundredsValue⟩ := digit (year / 100 % 10) (by omega)
  obtain ⟨tens, tensValue⟩ := digit (year / 10 % 10) (by omega)
  obtain ⟨ones, onesValue⟩ := digit (year % 10) (by omega)
  have value : (((0 * 10 + year / 1000) * 10 + year / 100 % 10) * 10 + year / 10 % 10) * 10 + year % 10 =
      year := by
    omega
  simp only [number?, List.all_cons, List.all_nil, thousands, hundreds, tens, ones, Bool.and_self,
    if_true, List.foldl_cons, List.foldl_nil, thousandsValue, hundredsValue, tensValue, onesValue, value]

/-- The time of day of a number of seconds since midnight. -/
def timeText (rest : Nat) : String :=
  twoDigits (rest / 3600) ++ ":" ++ twoDigits (rest / 60 % 60) ++ ":" ++ twoDigits (rest % 60)

namespace CivilDate

/-- `YYYY-MM-DD`. -/
def text (date : CivilDate) : String :=
  toString date.year ++ "-" ++ twoDigits date.month ++ "-" ++ twoDigits date.day

/-- Dates whose years have four digits. -/
def Written (date : CivilDate) : Prop := 1000 ≤ date.year ∧ date.year ≤ 9999

/-- Months and days have two digits. -/
theorem two_digits (date : CivilDate) : date.month < 100 ∧ date.day < 100 := by
  have months := date.months
  have days := date.day_short
  omega

/-- The characters of a date's text. -/
theorem text_toList {date : CivilDate} (written : date.Written) :
    date.text.toList = [(date.year / 1000).digitChar, (date.year / 100 % 10).digitChar,
      (date.year / 10 % 10).digitChar, (date.year % 10).digitChar, '-',
      (date.month / 10).digitChar, (date.month % 10).digitChar, '-',
      (date.day / 10).digitChar, (date.day % 10).digitChar] := by
  obtain ⟨month, day⟩ := date.two_digits
  simp only [text, String.toList_append, year_toList written.1 written.2, twoDigits_toList month,
    twoDigits_toList day]
  rfl

/-- The characters of a time of day. -/
theorem timeText_toList {rest : Nat} (within : rest < 86400) :
    (timeText rest).toList = [(rest / 3600 / 10).digitChar, (rest / 3600 % 10).digitChar, ':',
      (rest / 60 % 60 / 10).digitChar, (rest / 60 % 60 % 10).digitChar, ':',
      (rest % 60 / 10).digitChar, (rest % 60 % 10).digitChar] := by
  have hour : rest / 3600 < 100 := by omega
  have minute : rest / 60 % 60 < 100 := by omega
  have second : rest % 60 < 100 := by omega
  simp only [timeText, String.toList_append, twoDigits_toList hour, twoDigits_toList minute,
    twoDigits_toList second]
  rfl

/-- A date and a time of day are read back from their texts. Nothing is assumed of the year
but that it is written in four digits. -/
theorem parseDateTime_text {date : CivilDate} (written : date.Written) {rest : Nat}
    (within : rest < 86400) :
    parseDateTime (date.text ++ " " ++ timeText rest) = some (date.dayNumber * 86400 + rest) := by
  obtain ⟨month, day⟩ := date.two_digits
  have hour : rest / 3600 < 100 := by omega
  have minute : rest / 60 % 60 < 100 := by omega
  have second : rest % 60 < 100 := by omega
  have characters : (date.text ++ " " ++ timeText rest).toList =
      [(date.year / 1000).digitChar, (date.year / 100 % 10).digitChar,
        (date.year / 10 % 10).digitChar, (date.year % 10).digitChar, '-',
        (date.month / 10).digitChar, (date.month % 10).digitChar, '-',
        (date.day / 10).digitChar, (date.day % 10).digitChar, ' ',
        (rest / 3600 / 10).digitChar, (rest / 3600 % 10).digitChar, ':',
        (rest / 60 % 60 / 10).digitChar, (rest / 60 % 60 % 10).digitChar, ':',
        (rest % 60 / 10).digitChar, (rest % 60 % 10).digitChar] := by
    rw [String.toList_append, String.toList_append, text_toList written, timeText_toList within]
    rfl
  rw [parseDateTime, characters]
  simp only [number?_year written.2, number?_twoDigits month, number?_twoDigits day,
    number?_twoDigits hour, number?_twoDigits minute, number?_twoDigits second]
  simp only [Option.bind_eq_bind, Option.bind_some]
  rw [if_neg]
  · rw [Option.some.injEq, dayNumber]
    omega
  · have months := date.months
    have days := date.days
    simp only [Bool.or_eq_true, decide_eq_true_eq, not_or, Nat.not_lt]
    omega

/-- The texts of a date's seconds start with the date. -/
theorem formatDate_eq {date : CivilDate} (written : date.Written) {seconds : Int}
    (day : seconds / 86400 = date.dayNumber) : formatDate seconds = date.text := by
  obtain ⟨first, last⟩ := written
  have inside : ¬((date.year : Int) - 1900 < -(2 ^ 31) ∨ 2 ^ 31 ≤ (date.year : Int) - 1900) := by
    omega
  simp only [formatDate, day, civilFromDays_dayNumber, if_neg inside]
  rfl

/-- A time is rendered as the text of its day's date and its time of day. -/
theorem formatDateTime_eq {date : CivilDate} (written : date.Written) {seconds : Int}
    (day : seconds / 86400 = date.dayNumber) :
    formatDateTime seconds = date.text ++ " " ++ timeText (seconds % 86400).toNat := by
  simp only [formatDateTime, formatDate_eq written day, timeText, String.append_assoc]

end CivilDate

/-- First second of the dates whose years have four digits. -/
def kDateTimeStart : Int := daysFromCivil 1000 1 1 * 86400

/-- Every second of these years has a date. -/
theorem exists_written {seconds : Int} (first : kDateTimeStart ≤ seconds) (last : seconds < kDateTimeEnd) :
    ∃ date : CivilDate, date.Written ∧ date.dayNumber = seconds / 86400 := by
  have start : daysFromCivil 1000 1 1 = -354285 := by decide
  have stop : daysFromCivil 10000 1 1 = 2932897 := by decide
  unfold kDateTimeStart at first
  unfold kDateTimeEnd at last
  obtain ⟨date, number⟩ := @exists_date (seconds / 86400) (by omega)
  have lower := date.year_le_iff 1000
  have upper := date.year_le_iff 10000
  refine ⟨date, ⟨lower.mpr ?_, ?_⟩, number⟩
  · push_cast
    omega
  · by_contra beyond
    have := upper.mp (by omega)
    push_cast at this
    omega

/-- The rendered time of such a second is the DATETIME value that it was rendered from. -/
theorem parseDateTime_formatDateTime {seconds : Int} (first : kDateTimeStart ≤ seconds)
    (last : seconds < kDateTimeEnd) : parseDateTime (formatDateTime seconds) = some seconds := by
  obtain ⟨date, written, number⟩ := exists_written first last
  rw [CivilDate.formatDateTime_eq written number.symm,
    CivilDate.parseDateTime_text written (by omega), Option.some.injEq]
  omega

/-- The Beijing time of every timestamp of the years 2024 to 2099, on the clock of
Beijing or of Greenwich, is a DATETIME. -/
theorem epochToBeijing_isDateTime {text : String} {seconds : Int} (read : stoll text = some seconds)
    (lower : daysFromCivil 2024 1 1 * 86400 - kOffsetSeconds ≤ seconds)
    (upper : seconds < daysFromCivil 2100 1 1 * 86400) :
    ∃ time, epochToBeijing text = some time ∧ (parseDateTime time).isSome = true := by
  refine ⟨formatDateTime (seconds + kOffsetSeconds), by simp [epochToBeijing, read], ?_⟩
  have start : kDateTimeStart = -354285 * 86400 := by decide
  have stop : kDateTimeEnd = 2932897 * 86400 := by decide
  have first : daysFromCivil 2024 1 1 = 19723 := by decide
  have last : daysFromCivil 2100 1 1 = 47482 := by decide
  rw [first, kOffsetSeconds] at lower
  rw [last] at upper
  rw [parseDateTime_formatDateTime]
  · rfl
  · rw [start, kOffsetSeconds]
    omega
  · rw [stop, kOffsetSeconds]
    omega

end TradeReconcile.BeijingTime
