import TradeReconcile.Bills
import TradeReconcile.Conduct.Alone
import TradeReconcile.Properties.Batches
import TradeReconcile.Properties.BillFormat
import TradeReconcile.Properties.DayWindows

/-!
# Reading the generated bill

The script writes what the reconciliation selects, without quoting, and the reader takes a
leading `#` for a comment, every line feed for the end of a row and every comma for the end
of a field. A day's bill is therefore read back as the day's rows exactly when no trade
number and no order number can be taken for one of these. The callback only asks that a
trade number is not empty and fits its column.
-/

namespace TradeReconcile

open Transactions

/-! What the reader makes of a text, piece by piece. -/

/-- A piece holds no delimiter and nothing that was not in the text. -/
theorem getlines_part {delimiter : Char} {chars part : List Char}
    (member : part ∈ getlines delimiter [] chars) : delimiter ∉ part ∧ part ⊆ chars := by
  rw [getlines_split] at member
  have piece := (withoutEmptyLast_starts _).subset member
  exact ⟨splitOn_plain piece, splitOn_subset piece⟩

/-- The first piece starts the text. -/
theorem getlines_first {delimiter : Char} {chars first : List Char} {rest : List (List Char)}
    (pieces : getlines delimiter [] chars = first :: rest) : first <+: chars := by
  rw [getlines_split] at pieces
  obtain ⟨others, same⟩ := withoutEmptyLast_starts (chars.splitOn delimiter)
  rw [pieces, List.cons_append] at same
  exact splitOn_starts same.symm

/-- A piece without the delimiter is read as it stands, up to the next delimiter. -/
theorem getlines_append {delimiter : Char} {line : List Char} (plain : delimiter ∉ line)
    (piece rest : List Char) :
    getlines delimiter piece (line ++ delimiter :: rest) =
      (piece.reverse ++ line) :: getlines delimiter [] rest := by
  induction line generalizing piece with
  | nil => simp [getlines]
  | cons c line inductionHypothesis =>
    have other : c ≠ delimiter := fun same => plain (by simp [same])
    have others : delimiter ∉ line := fun member => plain (List.mem_cons_of_mem _ member)
    rw [List.cons_append, getlines, if_neg other, inductionHypothesis others]
    simp

/-- Lines are read back. -/
theorem getlines_lines {delimiter : Char} {lines : List (List Char)}
    (plain : ∀ line ∈ lines, delimiter ∉ line) :
    getlines delimiter [] (lines.flatMap (· ++ [delimiter])) = lines := by
  induction lines with
  | nil => simp [getlines]
  | cons line rest inductionHypothesis =>
    have first := plain line List.mem_cons_self
    have others := inductionHypothesis fun other member => plain other (List.mem_cons_of_mem _ member)
    rw [List.flatMap_cons, List.append_assoc, List.singleton_append, getlines_append first, others]
    rfl

section Rows

universe u v
variable {α : Type u} {β : Type v}

/-- Each result comes from an item. With `mapM_map` this says what reading a list item by item
gives. -/
theorem mapM_mem {f : α → Option β} {items : List α} {results : List β}
    (all : items.mapM f = some results) : ∀ result ∈ results, ∃ item ∈ items, f item = some result := by
  induction items generalizing results with
  | nil =>
    obtain rfl : results = [] := by simpa using all.symm
    simp
  | cons item rest inductionHypothesis =>
    rw [List.mapM_cons] at all
    obtain ⟨first, one, all⟩ := Option.bind_eq_some_iff.mp all
    obtain ⟨others, more, same⟩ := Option.bind_eq_some_iff.mp all
    obtain rfl : first :: others = results := Option.some.inj same
    intro result member
    obtain rfl | later := List.mem_cons.mp member
    · exact ⟨item, List.mem_cons_self, one⟩
    · obtain ⟨other, present, made⟩ := inductionHypothesis more result later
      exact ⟨other, List.mem_cons_of_mem _ present, made⟩

/-- Items that are all read give the list of their results. -/
theorem mapM_map {f : α → Option β} {g : α → β} {items : List α}
    (each : ∀ item ∈ items, f item = some (g item)) : items.mapM f = some (items.map g) := by
  induction items with
  | nil => rfl
  | cons item rest inductionHypothesis =>
    have first := each item List.mem_cons_self
    have others := inductionHypothesis fun other member => each other (List.mem_cons_of_mem _ member)
    simp [List.mapM_cons, first, others]

end Rows

namespace ReconcileService

/-- Neither number can be taken for structure: no comma, no line feed, and no mark of a
comment in front. -/
structure Plain (payment : Payment) : Prop where
  tradeNo : ',' ∉ payment.channelTradeNo.toList ∧ '\n' ∉ payment.channelTradeNo.toList
  noComment : payment.channelTradeNo.toList.head? ≠ some '#'
  orderNo : ',' ∉ payment.orderNo.toList ∧ '\n' ∉ payment.orderNo.toList

/-- A payment as a row of its side. -/
def sideRow (payment : Payment) : ReconcileSideRow :=
  ⟨payment.channelTradeNo, payment.orderNo, payment.amountFen⟩

/-- An accepted amount. -/
def Readable (payment : Payment) : Prop := 0 < payment.amountFen ∧ payment.amountFen ≤ 100000000999

/-! From the file to the rows. -/

/-- What a row of a bill went through: its numbers were cut at commas and line feeds, and its
line did not begin with '#'. Of the amount nothing is said. -/
theorem parseBill_row {bill : String} {rows : List ReconcileSideRow} (accepted : parseBill bill = some rows)
    {row : ReconcileSideRow} (member : row ∈ rows) :
    (',' ∉ row.channelTradeNo.toList ∧ '\n' ∉ row.channelTradeNo.toList) ∧
      row.channelTradeNo.toList.head? ≠ some '#' ∧
      ',' ∉ row.orderNo.toList ∧ '\n' ∉ row.orderNo.toList := by
  obtain ⟨line, kept, read⟩ := mapM_mem accepted row member
  obtain ⟨present, isRow⟩ := List.mem_filter.mp kept
  have whole : '\n' ∉ line := (getlines_part present).1
  rw [parseBillLine, String.toList_ofList] at read
  split at read
  · rename_i tradeNo orderNo amount callbackTime more pieces
    obtain ⟨fen, -, rfl⟩ := Option.map_eq_some_iff.mp read
    have fields : ∀ field ∈ [tradeNo, orderNo], ',' ∉ field ∧ '\n' ∉ field := by
      intro field among
      have piece : field ∈ getlines ',' [] line := by
        rw [pieces]
        simp only [List.mem_cons, List.not_mem_nil, or_false] at among ⊢
        tauto
      obtain ⟨apart, inside⟩ := getlines_part piece
      exact ⟨apart, fun feed => whole (inside feed)⟩
    obtain ⟨tail, starts⟩ := getlines_first pieces
    simp only [String.toList_ofList]
    refine ⟨fields tradeNo (by simp), ?_, fields orderNo (by simp)⟩
    intro comment
    cases tradeNo with
    | nil => cases comment
    | cons c others =>
      obtain rfl : c = '#' := by simpa using comment
      rw [← starts, List.cons_append] at isRow
      cases isRow
  · cases read

/-! From the rows to the file. -/

/-- What is read as a number is written in digits. -/
theorem number?_digits {digits : List Char} {value : Nat} (read : BeijingTime.number? digits = some value) :
    ∀ c ∈ digits, c.isDigit = true := by
  rw [BeijingTime.number?] at read
  split at read
  · rename_i all
    exact List.all_eq_true.mp all
  · cases read

/-- A DATETIME's text has digits and marks. -/
theorem parseDateTime_chars {text : String} {seconds : Int}
    (read : BeijingTime.parseDateTime text = some seconds) :
    text.toList ≠ [] ∧ ∀ c ∈ text.toList, c.isDigit = true ∨ c ∈ ['-', ' ', ':'] := by
  rw [BeijingTime.parseDateTime] at read
  split at read
  · rename_i chars
    simp only [Option.bind_eq_bind, Option.bind_eq_some_iff] at read
    obtain ⟨_, year, _, month, _, day, _, hour, _, minute, _, second, -⟩ := read
    have years := number?_digits year
    have months := number?_digits month
    have days := number?_digits day
    have hours := number?_digits hour
    have minutes := number?_digits minute
    have seconds := number?_digits second
    rw [chars]
    constructor
    · simp
    · simp only [List.mem_cons, List.not_mem_nil, or_false] at years months days hours minutes seconds ⊢
      rintro c (rfl | rfl | rfl | rfl | rfl | rfl | rfl | rfl | rfl | rfl | rfl | rfl | rfl | rfl | rfl |
        rfl | rfl | rfl | rfl) <;> simp_all
  · cases read

/-- A readable amount is written and read back. -/
theorem readable_amount {payment : Payment} (readable : Readable payment) :
    MoneyUtil.yuanStringToFen (MoneyUtil.fenToYuanString payment.amountFen) = some payment.amountFen := by
  obtain ⟨positive, small⟩ := readable
  obtain ⟨fen, same⟩ := Int.eq_ofNat_of_zero_le (Int.le_of_lt positive)
  rw [same]
  exact MoneyUtil.yuanStringToFen_fenToYuanString (by omega)

section Line

variable {payment : Payment} {seconds : Int}

/-- The text of an amount has neither comma nor line feed. -/
theorem amount_plain (readable : Readable payment) {c : Char} (mark : c = ',' ∨ c = '\n') :
    c ∉ (MoneyUtil.fenToYuanString payment.amountFen).toList := by
  intro inside
  have allowed := MoneyUtil.yuanStringToFen_chars (readable_amount readable) c inside
  obtain rfl | rfl := mark <;> exact absurd allowed (by decide)

/-- Nor has a time. -/
theorem time_plain (timed : BeijingTime.parseDateTime payment.callbackTime = some seconds) {c : Char}
    (mark : c = ',' ∨ c = '\n') : c ∉ payment.callbackTime.toList := by
  intro inside
  have allowed := (parseDateTime_chars timed).2 c inside
  obtain rfl | rfl := mark <;> exact absurd allowed (by decide)

/-- The line has no line feed of its own. -/
theorem exportLine_whole (plain : Plain payment) (readable : Readable payment)
    (timed : BeijingTime.parseDateTime payment.callbackTime = some seconds) :
    '\n' ∉ (exportLine payment).toList := by
  have amount := amount_plain readable (.inr rfl)
  have time := time_plain timed (.inr rfl)
  simp [exportLine, plain.tradeNo.2, plain.orderNo.2, amount, time]

/-- It is no comment. -/
theorem exportLine_isBillRow (plain : Plain payment) : isBillRow (exportLine payment).toList = true := by
  have chars : (exportLine payment).toList = payment.channelTradeNo.toList ++
      ',' :: (payment.orderNo.toList ++ ',' :: ((MoneyUtil.fenToYuanString payment.amountFen).toList ++
        ',' :: payment.callbackTime.toList)) := by
    simp [exportLine]
  have comment := plain.noComment
  rw [chars]
  cases tradeNo : payment.channelTradeNo.toList with
  | nil => rfl
  | cons c rest =>
    rw [tradeNo, List.head?_cons] at comment
    have other : c ≠ '#' := fun same => comment (congrArg some same)
    simp only [List.cons_append, isBillRow]
    split
    · rename_i impossible
      cases impossible
    · rename_i same
      exact absurd (List.cons.inj same).1 other
    · rfl

/-- Its fields are the payment's. -/
theorem parseBillLine_exportLine (plain : Plain payment) (readable : Readable payment)
    (timed : BeijingTime.parseDateTime payment.callbackTime = some seconds) :
    parseBillLine (exportLine payment) = some (sideRow payment) := by
  have fields : ∀ field ∈ [payment.channelTradeNo, payment.orderNo,
      MoneyUtil.fenToYuanString payment.amountFen, payment.callbackTime], ',' ∉ field.toList := by
    intro field member
    simp only [List.mem_cons, List.not_mem_nil, or_false] at member
    obtain rfl | rfl | rfl | rfl := member
    · exact plain.tradeNo.1
    · exact plain.orderNo.1
    · exact amount_plain readable (.inl rfl)
    · exact time_plain timed (.inl rfl)
  have regular : Regular (exportLine payment) := by
    rw [Regular, exportLine, splitOn_fields.mpr ⟨fields, rfl⟩]
    exact fun _ => ⟨rfl, (parseDateTime_chars timed).1⟩
  rw [(parseBillLine_eq_iff _).mpr regular, billRow_iff]
  exact ⟨_, _, fields, rfl, readable_amount readable⟩

end Line

/-- The generated bill is read back as the day's rows exactly if every row is plain. A row
that is not plain shifts its columns, splits its line or hides it. -/
theorem parseBill_genBill_iff {collate : String → String} {db : Db} {day : Int}
    (readable : ∀ row ∈ db.payments, Readable row.val) :
    parseBill (genBill collate db day) =
        some ((db.paymentsOfDay collate kChannel day).map fun row => sideRow row.val) ↔
      ∀ row ∈ db.paymentsOfDay collate kChannel day, Plain row.val := by
  constructor
  · intro accepted row member
    obtain ⟨tradeNo, noComment, orderNo⟩ := parseBill_row accepted (List.mem_map_of_mem member)
    exact ⟨tradeNo, noComment, orderNo⟩
  · intro plain
    have timed : ∀ row ∈ db.paymentsOfDay collate kChannel day,
        ∃ seconds, BeijingTime.parseDateTime row.val.callbackTime = some seconds := by
      intro row member
      have selected := (paymentsOfDay_mem.mp member).2.2.2
      rw [BeijingTime.inWindow] at selected
      split at selected
      · cases selected
      · rename_i seconds read
        exact ⟨seconds, read⟩
    have paid : ∀ row ∈ db.paymentsOfDay collate kChannel day, Readable row.val :=
      fun row member => readable row (paymentsOfDay_mem.mp member).1
    have file : (genBill collate db day).toList =
        ((db.paymentsOfDay collate kChannel day).map fun row => (exportLine row.val).toList).flatMap
          (· ++ ['\n']) := by
      simp [genBill, String.toList_join, List.flatMap_map]
    have whole : ∀ line ∈ (db.paymentsOfDay collate kChannel day).map fun row =>
        (exportLine row.val).toList, '\n' ∉ line := by
      intro line member
      obtain ⟨row, present, rfl⟩ := List.mem_map.mp member
      obtain ⟨seconds, read⟩ := timed row present
      exact exportLine_whole (plain row present) (paid row present) read
    have kept : ∀ line ∈ (db.paymentsOfDay collate kChannel day).map fun row =>
        (exportLine row.val).toList, isBillRow line = true := by
      intro line member
      obtain ⟨row, present, rfl⟩ := List.mem_map.mp member
      exact exportLine_isBillRow (plain row present)
    rw [parseBill, file, getlines_lines whole, List.filter_eq_self.mpr kept, List.mapM_map]
    refine mapM_map fun row present => ?_
    obtain ⟨seconds, read⟩ := timed row present
    simpa using parseBillLine_exportLine (plain row present) (paid row present) read

/-! The run on the generated bill. -/

/-- The id generator issues a number that no batch has. -/
structure Issues (P : Platform) (db : Db) (env : Env) : Prop where
  issued : ∃ id, env.nextId = some id ∧ id.length ≤ 32 ∧
    ∀ row ∈ db.batches, P.collate row.val.batchNo ≠ P.collate id

/-- The columns of the batch hold the count and the total, which is taken modulo 2 ^ 64. -/
structure Countable (rows : List ReconcileSideRow) : Prop where
  count : rows.length < 2 ^ 32
  total : fitsDecimal (wrap64 (sideSum rows)) = true

/-- The columns hold a balanced batch if they hold its number, its date, its count and its
total. -/
theorem balanced_batch (billDate batchNo : String) (rows : List ReconcileSideRow) :
    (buildBatch billDate batchNo rows rows []).fits = true ↔ batchNo.length ≤ 32 ∧
      (BeijingTime.parseDateTime (billDate ++ " 00:00:00")).isSome = true ∧ Countable rows := by
  have channel : kChannel.length ≤ 16 := by decide
  have none : ((0 : Nat) : Int) < 2 ^ 32 := by decide
  simp only [buildBatch, ReconcileBatch.fits, totalFen_eq, channel, List.length_nil, none,
    Bool.and_eq_true, decide_eq_true_eq, decide_true, and_true]
  constructor
  · rintro ⟨⟨⟨⟨⟨number, date⟩, count⟩, total⟩, -⟩, -⟩
    exact ⟨number, date, by exact_mod_cast count, total⟩
  · rintro ⟨number, date, count, total⟩
    have small : (rows.length : Int) < 2 ^ 32 := by exact_mod_cast count
    exact ⟨⟨⟨⟨⟨number, date⟩, small⟩, total⟩, small⟩, total⟩

/-- A side against itself has no differences. -/
theorem same_classified (rows : List ReconcileSideRow) : classifyReconcileDiffs rows rows = [] :=
  (classified_nil rows rows).mpr fun _ => rfl

section Run

variable {P : Platform} {now : Shared Db} {billDate : String} {day : Int}

/-- Step by step, without failures and with equal sides: the day has no batch, the local rows
are those of the bill, nothing is classified, and the batch that says so fits and is
committed. -/
theorem runBody_achieves {locals : List ReconcileSideRow}
    (dated : BeijingTime.parseDateTime (billDate ++ " 00:00:00") = some day)
    (first : ∀ row ∈ now.committed.batches,
      ¬(row.val.billDate = billDate ∧ P.collate row.val.channel = P.collate kChannel))
    (side : locals = (now.committed.paymentsOfDay P.collate kChannel day).map fun row => sideRow row.val)
    (countable : Countable locals) :
    Guarded.Achieves P False (Issues P now.committed)
      (fun outcome _ => ∃ batch, outcome = .ok (batchReply batch)) (runBody billDate locals) .idle now := by
  have unique : now.committed.batches.any (fun row => row.val.billDate == billDate &&
      P.collate row.val.channel == P.collate kChannel) = false := by
    rw [List.any_eq_false]
    intro row member
    simpa using first row member
  rw [runBody]
  refine Guarded.client_achieves false rfl False.elim (fun env => ?_) ?_
  · simp only [execute, dated, Option.isNone_some, Bool.false_eq_true, if_false]
    rw [unique]
  simp only [Bool.false_eq_true, if_false]
  refine Guarded.select_achieves locals rfl False.elim (fun env => ?_) ?_
  · have view : (engine P.collate).overlay now.committed [] = now.committed := rfl
    rw [side]
    change execute P.collate (.localRows kChannel billDate) now.counter env
      ((engine P.collate).overlay now.committed []) = _
    rw [view, execute_localRows dated, localPayments_eq dated]
    rfl
  change Guarded.Achieves P False _ _ _ ⟨some now.committed, [], [], []⟩ now
  refine Guarded.nextId_achieves ?_ fun id clock expected => ?_
  · intro clock expected
    obtain ⟨id, missing, -⟩ := expected.issued
    cases missing
  obtain ⟨same, issued, short, unused⟩ := expected.issued
  obtain rfl := Option.some.inj issued
  have fits := (balanced_batch billDate id locals).mpr ⟨short, by simp [dated], countable⟩
  have free : now.committed.hasBatchKey P.collate (buildBatch billDate id locals locals []) = false := by
    rw [Db.hasBatchKey, List.any_eq_false]
    intro row member
    have date := first row member
    have number := unused row member
    simp only [buildBatch, Bool.or_eq_true, Bool.and_eq_true, beq_iff_eq, not_or]
    exact ⟨number, date⟩
  refine Guarded.write_achieves rfl False.elim fun env _ => ?_
  have ran : execute P.collate (.batchInsert (buildBatch billDate id locals locals
      (classifyReconcileDiffs locals locals))) now.counter env
      ((engine P.collate).overlay now.committed []) =
      .ok (1, [.batch ⟨now.counter, buildBatch billDate id locals locals []⟩]) := by
    rw [same_classified]
    change insertRow _ (now.committed.hasBatchKey P.collate _) _ _ _ = _
    rw [insertRow, fits, free]
    rfl
  rw [ran]
  simp only [same_classified, insertDiffs, pure_bind]
  exact Guarded.commit_achieves False.elim ⟨_, rfl⟩

/-- The generated bill of a date is accepted, is read as the date's local rows, and the run
on it commits a balanced batch without differences. -/
def BillAgrees (P : Platform) (envs : Nat → Env) (billDate : String) (day : Int) (now : Shared Db) : Prop :=
  parseBill (genBill P.collate now.committed day) =
      some ((now.committed.paymentsOfDay P.collate kChannel day).map fun row => sideRow row.val) ∧
    ∃ steps reply last batch,
      aloneRun P ((List.range steps).map fun index => .ok (envs index))
        (.reconcile billDate (some (genBill P.collate now.committed day))) now = some (.reply reply, last) ∧
      reply.isOk = true ∧ last.committed.batches = now.committed.batches ++ [batch] ∧
      batch.val.billDate = billDate ∧ batch.val.diffCount = 0 ∧ batch.val.status = .kBalanced ∧
      last.committed.diffs = now.committed.diffs

/-- What a completed run on equal sides has committed: one batch of the day, without
differences and with the status that says so. That it fitted its columns bounds the local
side. -/
theorem completed_balanced {bill : String} {answer : Answer} {last : Shared Db} (formed : WellFormed P.collate now)
    (dated : BeijingTime.parseDateTime (billDate ++ " 00:00:00") = some day)
    (parsed : parseBill bill =
      some ((now.committed.paymentsOfDay P.collate kChannel day).map fun row => sideRow row.val))
    (alone : Alone P (.reconcile billDate (some bill)) now answer last)
    (completed : fresh (.reconcile billDate (some bill)) answer = true) :
    ∃ batch, last.committed.batches = now.committed.batches ++ [batch] ∧
      last.committed.diffs = now.committed.diffs ∧
      Countable ((now.committed.paymentsOfDay P.collate kChannel day).map fun row => sideRow row.val) ∧
      batch.val.billDate = billDate ∧ batch.val.diffCount = 0 ∧ batch.val.status = .kBalanced := by
  have effect := fresh_effect formed alone completed
  cases effect with
  | @run _ _ reconciliation _ _ reconciled =>
    have channels := Option.some.inj (reconciled.parsed.symm.trans parsed)
    have locals : reconciliation.locals =
        (now.committed.paymentsOfDay P.collate kChannel day).map fun row => sideRow row.val :=
      LocalSide.unique reconciled.locals ⟨day, dated, rfl⟩
    obtain ⟨batchNo, built⟩ := reconciled.batch
    have none := reconciled.diffs
    have fits := reconciled.batchFits
    rw [channels, locals, same_classified] at built none
    rw [built] at fits
    have noRows : reconciliation.diffs = [] := by simpa using none
    refine ⟨reconciliation.batch, reconciled.batches, ?_, ((balanced_batch _ _ _).mp fits).2.2, ?_⟩
    · rw [reconciled.diffRows, noRows, List.append_nil]
    · rw [built]
      exact ⟨rfl, rfl, rfl⟩

/-- The run on a bill that is read as the local rows completes. It runs alone and without
failures, on a day without a batch; the generator hands out an unused number. -/
theorem run_completes {envs : Nat → Env} {bill : String}
    (dated : BeijingTime.parseDateTime (billDate ++ " 00:00:00") = some day)
    (first : ∀ row ∈ now.committed.batches,
      ¬(row.val.billDate = billDate ∧ P.collate row.val.channel = P.collate kChannel))
    (issues : ∀ index, Issues P now.committed (envs index))
    (parsed : parseBill bill =
      some ((now.committed.paymentsOfDay P.collate kChannel day).map fun row => sideRow row.val))
    (countable : Countable ((now.committed.paymentsOfDay P.collate kChannel day).map fun row =>
      sideRow row.val)) :
    ∃ steps reply last,
      aloneRun P ((List.range steps).map fun index => .ok (envs index))
        (.reconcile billDate (some bill)) now = some (.reply reply, last) ∧ reply.isOk = true := by
  have achieves : Transactions.Achieves (engine P.collate) False (Issues P now.committed)
      (fun (answer : Answer) _ _ => ∃ reply, answer = .reply reply ∧ reply.isOk = true)
      (program P (.reconcile billDate (some bill))) .idle now := by
    rw [program, run]
    simp only [parsed]
    refine Achieves.bind (Achieves.bind ((Guarded.transaction_achieves False.elim
      (runBody_achieves dated first rfl countable)).mono ?_))
    rintro _ _ _ ⟨batch, rfl⟩
    exact ⟨_, rfl, rfl⟩
  obtain ⟨steps, answer, -, last, ran, reply, rfl, success⟩ := aloneRun_of_achieves achieves envs issues
  exact ⟨steps, reply, last, ran, success⟩

/-- The same for a store, on the conditions that every reached one meets: amounts that can be
read back, unused ids, and a date that has not been reconciled. -/
theorem billAgrees_iff {envs : Nat → Env} (formed : WellFormed P.collate now)
    (readable : ∀ row ∈ now.committed.payments, Readable row.val)
    (dated : BeijingTime.parseDateTime (billDate ++ " 00:00:00") = some day)
    (first : ∀ row ∈ now.committed.batches,
      ¬(row.val.billDate = billDate ∧ P.collate row.val.channel = P.collate kChannel))
    (issues : ∀ index, Issues P now.committed (envs index)) :
    BillAgrees P envs billDate day now ↔
      (∀ row ∈ now.committed.paymentsOfDay P.collate kChannel day, Plain row.val) ∧
        Countable ((now.committed.paymentsOfDay P.collate kChannel day).map fun row => sideRow row.val) := by
  constructor
  · rintro ⟨parsed, steps, reply, last, batch, ran, success, -⟩
    obtain ⟨_, _, _, countable, -⟩ :=
      completed_balanced formed dated parsed (.of_aloneRun ran) success
    exact ⟨(parseBill_genBill_iff readable).mp parsed, countable⟩
  · rintro ⟨plain, countable⟩
    have parsed := (parseBill_genBill_iff readable).mpr plain
    obtain ⟨steps, reply, last, ran, success⟩ := run_completes dated first issues parsed countable
    obtain ⟨batch, batches, diffs, -, facts⟩ :=
      completed_balanced formed dated parsed (.of_aloneRun ran) success
    exact ⟨parsed, steps, reply, last, batch, ran, success, batches, facts.1, facts.2.1, facts.2.2, diffs⟩

end Run

/-- Callbacks store accepted amounts: the stored amount is the one that was read from the
request, so it is in the range of what can be read. -/
theorem commit_readable {P : Platform} {call : Call} {before after : Db} (commit : Commit P call before after)
    (readable : ∀ row ∈ before.payments, Readable row.val) : ∀ row ∈ after.payments, Readable row.val := by
  cases commit with
  | placed placed => exact placed.payments ▸ readable
  | @settled _ _ settlement _ _ settled =>
    intro row member
    rw [settled.payments] at member
    obtain old | new := List.mem_append.mp member
    · exact readable row old
    · obtain rfl := List.mem_singleton.mp new
      obtain ⟨paymentNo, callbackTime, -, stored⟩ := settled.payment
      have bound := MoneyUtil.yuanStringToFen_bound settled.amount
      have positive := settled.positive
      rw [stored]
      constructor
      · exact positive
      · change settlement.order.val.totalAmountFen ≤ 100000000999
        omega
  | reconciled reconciled => exact reconciled.payments ▸ readable
  | handled handled =>
    rw [handled.frame]
    exact readable

/-- In every store that concurrent calls reach from one without payments, the generated
bill of a date agrees with the date's rows exactly if no trade number and no order number
among them can be taken for structure and the batch's columns hold their count and total. -/
theorem reached_billAgrees_iff {P : Platform} {serves : Call → Prop} {first : Shared Db} {system : Trade}
    {envs : Nat → Env} {billDate : String} {day : Int} (formed : WellFormed P.collate first)
    (empty : first.committed.payments = []) (reached : Reached P (Admits serves) first system)
    (dated : BeijingTime.parseDateTime (billDate ++ " 00:00:00") = some day)
    (unreconciled : ∀ row ∈ system.shared.committed.batches,
      ¬(row.val.billDate = billDate ∧ P.collate row.val.channel = P.collate kChannel))
    (issues : ∀ index, Issues P system.shared.committed (envs index)) :
    BillAgrees P envs billDate day system.shared ↔
      (∀ row ∈ system.shared.committed.paymentsOfDay P.collate kChannel day, Plain row.val) ∧
        Countable ((system.shared.committed.paymentsOfDay P.collate kChannel day).map fun row =>
          sideRow row.val) := by
  have readable : ∀ row ∈ system.shared.committed.payments, Readable row.val :=
    commits_invariant (fun _ _ commit => commit_readable commit) formed.schema (by simp [empty])
      (reached_commits formed reached)
  exact billAgrees_iff (reached_locking formed reached).inv.1 readable dated unreconciled issues

end ReconcileService

namespace Shop

open ReconcileService

/-- The signatures of the reports below, under the shop's secret. -/
def billedSignatures : List (String × String) :=
  [("7001|T1|39.90|1789275496", "b6e1ac1d50a10a3d48a79229d383ca6095dda80ca9f26b42d560600d043c9c50"),
    ("7001|A,B|39.90|1789275496", "130c113fe02aa429add0386c5d6dc116f094eac69671dd4abfc72ea39750c7e7")]

/-- A platform that exports bills. -/
def billing : Platform :=
  { platform with hmacSha256Hex := fun _ text => (billedSignatures.lookup text).getD "" }

/-- Two mugs are ordered and reported as paid under a trade number. -/
def mugsBilled (tradeNo : String) : Option Trade :=
  (System.initial store).runWhere (engine billing.collate) (program billing) (fun _ _ => true)
    (.call (order "req-0001") :: advances 0 "7001" 11 ++
      .call (.handleCallback
        { requestId := "cb-00001"
          orderNo := "7001"
          channel := "MOCK"
          channelTradeNo := tradeNo
          amount := "39.90"
          timestamp := "1789275496"
          sign := billing.hmacSha256Hex billing.secret ("7001|" ++ tradeNo ++ "|39.90|1789275496") }
        "raw") :: advances 1 "8001" 13)

/-- The payment that the callback stores. -/
def mugsPayment (tradeNo : String) : Row Payment :=
  ⟨104, ⟨"8001", "7001", "MOCK", tradeNo, 3990, .kSuccess, "2026-09-13 12:58:16", "raw"⟩⟩

/-- Midnight of the day. -/
def billedDay : Int := 1789257600

/-- One id for whatever asks for one. -/
def answers9001 (_ : Nat) : Env := ⟨some "9001", 1789318696⟩

/-- A computed run in which the mugs were paid reaches a store with that payment. -/
theorem mugsBilled_reached {tradeNo : String}
    (ran : ((mugsBilled tradeNo).map fun system =>
      decide (system.shared.committed.payments = [mugsPayment tradeNo]) &&
        decide (system.shared.committed.batches = [])) = some true) :
    ∃ system, Reached billing (Admits fun _ => True) store system ∧
      system.shared.committed.payments = [mugsPayment tradeNo] ∧
      system.shared.committed.batches = [] := by
  obtain ⟨system, ran, facts⟩ := Option.map_eq_some_iff.mp ran
  simp only [Bool.and_eq_true, decide_eq_true_eq] at facts
  exact ⟨system, reached_of_run ran, facts⟩

/-- The one payment is selected on its day. -/
theorem mugsPayment_selected {tradeNo : String} {db : Db} (payments : db.payments = [mugsPayment tradeNo]) :
    db.paymentsOfDay billing.collate kChannel billedDay = [mugsPayment tradeNo] := by
  have inside : BeijingTime.inWindow billedDay "2026-09-13 12:58:16" = true := by decide +kernel
  simp [Db.paymentsOfDay, payments, mugsPayment, kChannel, inside]

end Shop

/-- Under the trade number T1 the bill of the day agrees with the payments: same lines, same
total. -/
theorem mugs_billed_agree : ∃ system, Reached Shop.billing (Admits fun _ => True) Shop.store system ∧
    system.shared.committed.payments = [Shop.mugsPayment "T1"] ∧
    ReconcileService.BillAgrees Shop.billing Shop.answers9001 "2026-09-13" Shop.billedDay system.shared := by
  obtain ⟨system, reached, payments, batches⟩ := @Shop.mugsBilled_reached "T1" (by decide +kernel)
  have formed : WellFormed Shop.billing.collate Shop.store := Shop.store_formed
  refine ⟨system, reached, payments, (ReconcileService.reached_billAgrees_iff formed rfl reached
    (by decide) (by simp [batches]) ?_).mpr ?_⟩
  · exact fun _ => ⟨"9001", rfl, by decide, by simp [batches]⟩
  · rw [Shop.mugsPayment_selected payments]
    constructor
    · intro row member
      obtain rfl := List.mem_singleton.mp member
      exact ⟨by decide, by decide, by decide⟩
    · exact ⟨by decide, by decide⟩

/-- Under the trade number A,B, which the callback accepts, the bill names a payment A of
7001 yuan, and it does not agree. -/
theorem commas_disagree : ∃ system, Reached Shop.billing (Admits fun _ => True) Shop.store system ∧
    system.shared.committed.payments = [Shop.mugsPayment "A,B"] ∧
    (system.shared.committed.batches = [] ∧
      ∀ index, ReconcileService.Issues Shop.billing system.shared.committed (Shop.answers9001 index)) ∧
    ReconcileService.parseBill
      (genBill Shop.billing.collate system.shared.committed Shop.billedDay) = some [⟨"A", "B", 700100⟩] ∧
    ¬ReconcileService.BillAgrees Shop.billing Shop.answers9001 "2026-09-13" Shop.billedDay system.shared := by
  obtain ⟨system, reached, payments, batches⟩ := @Shop.mugsBilled_reached "A,B" (by decide +kernel)
  have selected := Shop.mugsPayment_selected payments
  have bill : genBill Shop.billing.collate system.shared.committed Shop.billedDay =
      "A,B,7001,39.90,2026-09-13 12:58:16\n" := by
    rw [genBill, selected]
    decide +kernel
  have parsed : ReconcileService.parseBill "A,B,7001,39.90,2026-09-13 12:58:16\n" =
      some [⟨"A", "B", 700100⟩] := by
    decide +kernel
  refine ⟨system, reached, payments, ⟨batches, fun _ => ⟨"9001", rfl, by decide, by simp [batches]⟩⟩,
    bill ▸ parsed, ?_⟩
  rintro ⟨same, -⟩
  rw [bill, parsed, selected] at same
  exact absurd (Option.some.inj same) (by decide)

end TradeReconcile
