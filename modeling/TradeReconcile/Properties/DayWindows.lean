import TradeReconcile.Calendar
import TradeReconcile.Services.Reconcile

/-!
# The days that payments are reconciled on

A run for a date selects the payments whose time lies in the half-open window from
the date's midnight to the next. Rendering a timestamp in Beijing time and reading it
back as a DATETIME loses nothing, so the windows of all dates divide the payments by
the day number of their timestamps. The date that the background task would name at a
payment's instant is the one that selects it. Past the last day of the year 9999 no
DATETIME exists, and that day's window is empty.
-/

namespace TradeReconcile

open Transactions

namespace ReconcileService

/-- The payments that a run for a date selects (`execute_localRows`). A date that is none
selects nothing: the statement fails. -/
def localPayments (collate : String → String) (db : Db) (billDate : String) : List (Row Payment) :=
  match BeijingTime.parseDateTime (billDate ++ " 00:00:00") with
  | none => []
  | some day => db.paymentsOfDay collate kChannel day

/-- The rows of a run are the payments of its date's day. -/
theorem localPayments_eq {collate : String → String} {db : Db} {billDate : String} {day : Int}
    (read : BeijingTime.parseDateTime (billDate ++ " 00:00:00") = some day) :
    localPayments collate db billDate = db.paymentsOfDay collate kChannel day := by
  simp only [localPayments, read]

/-- The run's local rows are these payments. -/
theorem execute_localRows {collate : String → String} {billDate : String} {day : Int}
    (read : BeijingTime.parseDateTime (billDate ++ " 00:00:00") = some day) (id : Nat) (env : Env) (db : Db) :
    execute collate (.localRows kChannel billDate) id env db =
      .ok ((localPayments collate db billDate).map fun row =>
        ⟨row.val.channelTradeNo, row.val.orderNo, row.val.amountFen⟩, []) := by
  simp only [execute, localPayments, read]

end ReconcileService

namespace BeijingTime

/-- The last day that a DATETIME can name. -/
def lastDay : CivilDate := ⟨9999, 12, 31, by decide, by decide⟩

/-- A date's midnight. -/
theorem parseDateTime_midnight {date : CivilDate} (written : date.Written) :
    parseDateTime (date.text ++ " 00:00:00") = some (date.dayNumber * 86400) := by
  have read := CivilDate.parseDateTime_text written (show 0 < 86400 by decide)
  have midnight : " " ++ timeText 0 = " 00:00:00" := by decide
  rw [String.append_assoc, midnight] at read
  simpa using read

/-- Every date but the last has a next midnight. -/
theorem midnight_follows {date : CivilDate} (written : date.Written) (notLast : date ≠ lastDay) :
    date.dayNumber * 86400 + 86400 < kDateTimeEnd := by
  have stop : daysFromCivil 10000 1 1 = 2932897 := by decide
  have last : lastDay.dayNumber = 2932896 := by decide
  have later := date.year_le_iff 10000
  have other : date.dayNumber ≠ lastDay.dayNumber :=
    fun same => notLast (CivilDate.dayNumber_injective same)
  have before : ¬10000 ≤ date.year := by
    have := written.2
    omega
  rw [later] at before
  push_cast at before
  unfold kDateTimeEnd
  omega

/-- The window of a date selects the seconds of its day. -/
theorem inWindow_iff {date : CivilDate} (written : date.Written) (notLast : date ≠ lastDay)
    {callbackTime : String} {seconds : Int} (read : parseDateTime callbackTime = some seconds) :
    inWindow (date.dayNumber * 86400) callbackTime = true ↔ seconds / 86400 = date.dayNumber := by
  have follows := midnight_follows written notLast
  simp only [inWindow, read, Bool.and_eq_true, decide_eq_true_eq]
  constructor
  · intro window
    omega
  · intro day
    omega

/-- Two digits are short enough for the buffer. -/
theorem twoDigits_utf8ByteSize {value : Nat} (below : value < 100) :
    (twoDigits value).utf8ByteSize ≤ 3 := by
  have digits : (toString value).utf8ByteSize ≤ 2 :=
    Decimal.repr_utf8ByteSize (by decide) (by omega)
  have zero : (if value < 10 then "0" else "").utf8ByteSize ≤ 1 := by
    split <;> decide
  rw [twoDigits, String.utf8ByteSize_append]
  omega

/-- The text of a date with a four-digit year fits the buffer of the background task. -/
theorem text_fits {date : CivilDate} (written : date.Written) : date.text.utf8ByteSize < 16 := by
  have year : (toString date.year).utf8ByteSize ≤ 4 :=
    Decimal.repr_utf8ByteSize (by decide) (by
      have := written.2
      omega)
  have month : (twoDigits date.month).utf8ByteSize ≤ 3 :=
    twoDigits_utf8ByteSize (by
      have := date.months.2
      omega)
  have day : (twoDigits date.day).utf8ByteSize ≤ 3 :=
    twoDigits_utf8ByteSize (by
      have := date.day_short
      omega)
  have dash : "-".utf8ByteSize = 1 := by decide
  simp only [CivilDate.text, String.utf8ByteSize_append, dash]
  omega

/-- The date of a clock's reading in Beijing. -/
theorem todayBeijing_eq {date : CivilDate} (written : date.Written) {clock : Int}
    (day : (clock + kOffsetSeconds) / 86400 = date.dayNumber) : todayBeijing clock = some date.text := by
  rw [todayBeijing, CivilDate.formatDate_eq written day]
  exact if_pos (text_fits written)

/-- The first ten characters of a rendered time are its date. -/
theorem formatDateTime_take {date : CivilDate} (written : date.Written) {seconds : Int}
    (day : seconds / 86400 = date.dayNumber) :
    String.ofList ((formatDateTime seconds).toList.take 10) = date.text := by
  rw [CivilDate.formatDateTime_eq written day, String.append_assoc, String.toList_append,
    CivilDate.text_toList written]
  exact (congrArg String.ofList (CivilDate.text_toList written)).symm.trans String.ofList_toList

end BeijingTime

namespace ReconcileService

open BeijingTime

/-- A successful payment of the channel is a local row of the dates whose day is the day
of its timestamp in Beijing. -/
theorem localPayments_iff {collate : String → String} {db : Db} {row : Row Payment}
    (stored : row ∈ db.payments) (channel : collate row.val.channel = collate kChannel)
    (paid : row.val.status = .kSuccess) {seconds : Int}
    (read : parseDateTime row.val.callbackTime = some seconds) {date : CivilDate}
    (written : date.Written) (notLast : date ≠ lastDay) :
    row ∈ localPayments collate db date.text ↔ seconds / 86400 = date.dayNumber := by
  rw [← inWindow_iff written notLast read]
  simp [localPayments, parseDateTime_midnight written, Db.paymentsOfDay, List.mem_mergeSort, stored,
    channel, paid]

/-- The windows divide the payments. A payment whose time was rendered from a timestamp
is selected by a run exactly for the date of the timestamp's day. That date is the start
of the payment's time and the date that the background task would name at its instant. -/
theorem dayWindows_partition {collate : String → String} {db : Db} {row : Row Payment} {text : String}
    {seconds : Int} (stored : row ∈ db.payments)
    (channel : collate row.val.channel = collate kChannel) (paid : row.val.status = .kSuccess)
    (read : stoll text = some seconds) (time : epochToBeijing text = some row.val.callbackTime)
    (first : kDateTimeStart ≤ seconds + kOffsetSeconds)
    (last : seconds + kOffsetSeconds < kDateTimeEnd) :
    (∀ date : CivilDate, date.Written → date ≠ lastDay →
      (row ∈ localPayments collate db date.text ↔
        (seconds + 28800) / 86400 = date.dayNumber)) ∧
      ∃ date : CivilDate, date.Written ∧ date.dayNumber = (seconds + 28800) / 86400 ∧
        date.text = String.ofList (row.val.callbackTime.toList.take 10) ∧
        todayBeijing seconds = some date.text ∧
        ∀ other : CivilDate, other.Written → other ≠ lastDay →
          (row ∈ localPayments collate db other.text ↔ other = date) := by
  have rendered : row.val.callbackTime = formatDateTime (seconds + kOffsetSeconds) := by
    simpa [epochToBeijing, read] using time.symm
  have value : parseDateTime row.val.callbackTime = some (seconds + kOffsetSeconds) := by
    rw [rendered, parseDateTime_formatDateTime first last]
  have offset : kOffsetSeconds = 28800 := rfl
  have selected (date : CivilDate) (written : date.Written) (notLast : date ≠ lastDay) :
      row ∈ localPayments collate db date.text ↔ (seconds + 28800) / 86400 = date.dayNumber :=
    localPayments_iff stored channel paid value written notLast
  obtain ⟨date, written, number⟩ := exists_written first last
  refine ⟨selected, date, written, number, ?_, todayBeijing_eq written number.symm, ?_⟩
  · rw [rendered, formatDateTime_take written number.symm]
  · intro other otherWritten notLast
    rw [selected other otherWritten notLast, ← offset, ← number]
    constructor
    · exact fun same => (CivilDate.dayNumber_injective same).symm
    · exact fun same => congrArg _ same.symm

/-- A payment of the first second of a leap day in Beijing, which is the day before in
Greenwich. -/
def leapDayPayment : Row Payment :=
  ⟨1, { paymentNo := "1", orderNo := "7", channel := "MOCK", channelTradeNo := "CH1"
        amountFen := 100, status := .kSuccess, callbackTime := "2000-02-29 00:00:00", rawBody := "{}" }⟩

/-- A payment at the first second of the leap day of the year 2000 lies in the window of that
day and of no other. -/
theorem leapDay_partition :
    (∀ date : CivilDate, date.Written → date ≠ lastDay →
      (leapDayPayment ∈ localPayments id { payments := [leapDayPayment] } date.text ↔
        (951753600 + 28800 : Int) / 86400 = date.dayNumber)) ∧
      ∃ date : CivilDate, date.Written ∧ date.dayNumber = (951753600 + 28800) / 86400 ∧
        date.text = String.ofList (leapDayPayment.val.callbackTime.toList.take 10) ∧
        todayBeijing 951753600 = some date.text ∧
        ∀ other : CivilDate, other.Written → other ≠ lastDay →
          (leapDayPayment ∈ localPayments id { payments := [leapDayPayment] } other.text ↔ other = date) := by
  have read : stoll "951753600" = some 951753600 :=
    @stoll_toString 951753600 (by decide) (by decide)
  exact dayWindows_partition List.mem_cons_self rfl rfl read (by decide) (by decide) (by decide)

end ReconcileService

end TradeReconcile
