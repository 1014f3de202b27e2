import Mathlib.Algebra.BigOperators.Group.List.Basic
import Mathlib.Algebra.Order.Ring.Int
import Mathlib.Algebra.Ring.Int.Defs
import Mathlib.Algebra.Ring.Nat
import Mathlib.Data.List.TakeWhile
import Mathlib.Tactic.IntervalCases
import Mathlib.Tactic.Ring
import TradeReconcile.Decimal

/-!
# Civil time at a fixed offset

The services turn epoch seconds into Beijing time by adding eight hours and
breaking the sum down as UTC; the database keeps the rendered text in DATETIME
columns and compares it by calendar value. The conversion is the proleptic
Gregorian one, era by era, with the year starting in March.
-/

namespace TradeReconcile.BeijingTime

/-- Seconds between UTC and Beijing time. -/
def kOffsetSeconds : Int := 8 * 3600

/-- Calendar date of a day number counted from 1970-01-01. -/
def civilFromDays (days : Int) : Int × Nat × Nat :=
  let shifted := days + 719468
  let era := shifted / 146097
  let dayOfEra := (shifted % 146097).toNat
  let yearOfEra := (dayOfEra - dayOfEra / 1460 + dayOfEra / 36524 - dayOfEra / 146096) / 365
  let dayOfYear := dayOfEra - (365 * yearOfEra + yearOfEra / 4 - yearOfEra / 100)
  let monthIndex := (5 * dayOfYear + 2) / 153
  let day := dayOfYear - (153 * monthIndex + 2) / 5 + 1
  let month := if monthIndex < 10 then monthIndex + 3 else monthIndex - 9
  (yearOfEra + era * 400 + (if month ≤ 2 then 1 else 0), month, day)

/-- Day number of a calendar date, counted from 1970-01-01. -/
def daysFromCivil (year : Int) (month day : Nat) : Int :=
  let shifted := if month ≤ 2 then year - 1 else year
  let era := shifted / 400
  let yearOfEra := (shifted % 400).toNat
  let monthIndex := if month > 2 then month - 3 else month + 9
  let dayOfYear := (153 * monthIndex + 2) / 5 + day - 1
  let dayOfEra := yearOfEra * 365 + yearOfEra / 4 - yearOfEra / 100 + dayOfYear
  era * 146097 + dayOfEra - 719468

/-- Two digits, as `%m`, `%d`, `%H`, `%M` and `%S` print them. -/
def twoDigits (value : Nat) : String :=
  (if value < 10 then "0" else "") ++ toString value

/-- `strftime "%Y-%m-%d"` of a UTC breakdown. Of a year that does not fit the C structure
only the lower 32 bits are written, and month and day keep their initial zeros. -/
def formatDate (seconds : Int) : String :=
  let (year, month, day) := civilFromDays (seconds / 86400)
  if year - 1900 < -(2 ^ 31) ∨ 2 ^ 31 ≤ year - 1900 then
    toString ((year - 1900).bmod (2 ^ 32) + 1900) ++ "-01-00"
  else toString year ++ "-" ++ twoDigits month ++ "-" ++ twoDigits day

/-- `strftime "%Y-%m-%d %H:%M:%S"` of the same breakdown. The time of day is written in
every case. -/
def formatDateTime (seconds : Int) : String :=
  let rest := (seconds % 86400).toNat
  formatDate seconds ++ " " ++ twoDigits (rest / 3600) ++ ":" ++ twoDigits (rest / 60 % 60) ++ ":" ++
    twoDigits (rest % 60)

/-- Characters that `stoll` skips before the number. -/
def isSpace (c : Char) : Bool := c ∈ [' ', '\t', '\n', '\x0b', '\x0c', '\r']

/-- `std::stoll`: optional blanks, optional sign, a longest run of digits. The
rest of the text is ignored; no digit or a value outside 64 bits is an exception. -/
def stoll (text : String) : Option Int :=
  let chars := text.toList.dropWhile isSpace
  let (negative, rest) := match chars with
    | '+' :: rest => (false, rest)
    | '-' :: rest => (true, rest)
    | other => (false, other)
  let digits := rest.takeWhile Char.isDigit
  let magnitude : Int := (digits.foldl (fun value c => value * 10 + (c.toNat - '0'.toNat)) 0 : Nat)
  let value := if negative then -magnitude else magnitude
  if digits.isEmpty || value < -(2 ^ 63) || 2 ^ 63 ≤ value then none else some value

/-- Channel timestamp to Beijing time. -/
def epochToBeijing (epochSeconds : String) : Option String :=
  (stoll epochSeconds).map fun seconds => formatDateTime (seconds + kOffsetSeconds)

/-- A point in time some minutes ahead, from a reading of the system clock. -/
def dbTimeAfter (minutes : Int) (clock : Int) : String :=
  formatDateTime (clock + minutes * 60 + kOffsetSeconds)

/-- The date of a bill by a reading of the system clock. A text that does not fit the
buffer of 16 bytes leaves its content unspecified. -/
def todayBeijing (clock : Int) : Option String :=
  let text := formatDate (clock + kOffsetSeconds)
  if text.utf8ByteSize < 16 then some text else none

/-- `NOW()` of the database server, whose session time zone is +08:00. -/
def now (clock : Int) : String := formatDateTime (clock + kOffsetSeconds)

/-- Days in a month of the proleptic Gregorian calendar. -/
def daysInMonth (year month : Nat) : Nat :=
  if month = 2 then
    if year % 4 = 0 ∧ (year % 100 ≠ 0 ∨ year % 400 = 0) then 29 else 28
  else if month ∈ [4, 6, 9, 11] then 30
  else 31

/-- A run of digits of fixed length. -/
def number? (digits : List Char) : Option Nat :=
  if digits.all Char.isDigit then
    some (digits.foldl (fun value c => value * 10 + (c.toNat - '0'.toNat)) 0)
  else none

/-- A text of the form `YYYY-MM-DD`, whether or not it names a day. -/
def isDateText (text : String) : Bool :=
  match text.toList with
  | [y1, y2, y3, y4, '-', m1, m2, '-', d1, d2] =>
    [y1, y2, y3, y4, m1, m2, d1, d2].all Char.isDigit
  | _ => false

/-- The calendar value of a DATETIME text `YYYY-MM-DD hh:mm:ss`, in seconds on the same
clock as its rendering. The services render all their texts in this form, and only the
date of a run comes from outside: the server also reads looser spellings of it, such as
`2026-9-13`, which are left out here and fail. -/
def parseDateTime (text : String) : Option Int :=
  match text.toList with
  | [y1, y2, y3, y4, '-', m1, m2, '-', d1, d2, ' ', h1, h2, ':', n1, n2, ':', s1, s2] => do
    let year ← number? [y1, y2, y3, y4]
    let month ← number? [m1, m2]
    let day ← number? [d1, d2]
    let hour ← number? [h1, h2]
    let minute ← number? [n1, n2]
    let second ← number? [s1, s2]
    if month < 1 || 12 < month || day < 1 || daysInMonth year month < day ||
        23 < hour || 59 < minute || 59 < second then none
    else
      some (daysFromCivil year month day * 86400 + hour * 3600 + minute * 60 + second)
  | _ => none

/-- First second after the last DATETIME value. -/
def kDateTimeEnd : Int := daysFromCivil 10000 1 1 * 86400

/-- The window `callback_time >= day AND callback_time < DATE_ADD(day, 1 DAY)`.
Past the last representable day the upper bound is NULL and selects nothing. -/
def inWindow (day : Int) (callbackTime : String) : Bool :=
  match parseDateTime callbackTime with
  | none => false
  | some time => day ≤ time && time < day + 86400 && day + 86400 < kDateTimeEnd

example : formatDateTime (1789275496 + kOffsetSeconds) = "2026-09-13 12:58:16" ∧
    parseDateTime "2026-09-13 12:58:16" = some (1789275496 + kOffsetSeconds) ∧
    parseDateTime "2025-02-29 00:00:00" = none := by decide

/-- The digits of a number are all read and make up its value. -/
theorem toDigits_read (number : Nat) :
    (Nat.toDigits 10 number).takeWhile Char.isDigit = Nat.toDigits 10 number ∧
      (Nat.toDigits 10 number).foldl (fun value c => value * 10 + (c.toNat - '0'.toNat)) 0 = number := by
  constructor
  · exact List.takeWhile_eq_self_iff.mpr (Decimal.toDigits_isDigit number)
  · simpa only [Nat.ofDigitChars, Nat.mul_comm] using @Nat.ofDigitChars_ten_toDigits number

/-- Digits are no white space, so the skipping of `strtoll` stops before them. -/
theorem isSpace_of_isDigit {c : Char} (digit : c.isDigit = true) : ¬isSpace c = true := by
  intro space
  simp only [isSpace, decide_eq_true_eq, List.mem_cons, List.not_mem_nil, or_false] at space
  obtain rfl | rfl | rfl | rfl | rfl | rfl := space <;> cases digit

/-- A number is read back from its text, at both ends of the 64-bit range too: the magnitude
is read digit by digit, and the sign decides which of the two bounds applies. -/
theorem stoll_toString {number : Int} (lower : -(2 ^ 63) ≤ number) (upper : number < 2 ^ 63) :
    stoll (toString number) = some number := by
  cases number with
  | ofNat magnitude =>
    have text : (toString (Int.ofNat magnitude)).toList = Nat.toDigits 10 magnitude :=
      Decimal.toString_toList magnitude
    obtain ⟨whole, value⟩ := toDigits_read magnitude
    have digits := Decimal.toDigits_isDigit magnitude
    rw [stoll, text]
    cases first : Nat.toDigits 10 magnitude with
    | nil => exact absurd first Nat.toDigits_ne_nil
    | cons c rest =>
      rw [first] at whole value digits
      have isDigit : c.isDigit = true := digits c List.mem_cons_self
      rw [List.dropWhile_cons_of_neg (isSpace_of_isDigit isDigit)]
      split
      rename_i negative others signed
      -- The text starts with a digit, so the sign is not consumed.
      have unsigned : negative = false ∧ others = c :: rest := by
        split at signed
        · rename_i same
          obtain ⟨rfl, -⟩ := List.cons.inj same
          cases isDigit
        · rename_i same
          obtain ⟨rfl, -⟩ := List.cons.inj same
          cases isDigit
        · exact ⟨(Prod.mk.inj signed).1.symm, (Prod.mk.inj signed).2.symm⟩
      obtain ⟨rfl, rfl⟩ := unsigned
      simp only [whole, value]
      simp at upper ⊢
      omega
  | negSucc magnitude =>
    have text : (toString (Int.negSucc magnitude)).toList = '-' :: Nat.toDigits 10 (magnitude + 1) := by
      rw [Decimal.toString_toList, if_pos (Int.negSucc_lt_zero magnitude)]
      rfl
    obtain ⟨whole, value⟩ := toDigits_read (magnitude + 1)
    have visible : ¬isSpace '-' = true := by decide
    rw [stoll, text, List.dropWhile_cons_of_neg visible]
    simp only [whole, value]
    simp [Nat.toDigits_ne_nil]
    omega

end TradeReconcile.BeijingTime
