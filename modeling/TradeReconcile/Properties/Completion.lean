import TradeReconcile.Properties.GeneratedBills

/-!
# The verdict on a run

What a run answers that nothing disturbs is decided by its inputs. A bill that is missing or
does not parse is refused before the store is asked. A day that does not exist and a row that
does not fit its columns are errors of the server, a date with a batch is refused, and every
other run completes. Since the batch goes in first and the differences one by one, a single
difference that does not fit takes the whole batch with it; one that only has spaces too
many is cut and fits. Nothing is said about dates in other spellings than `YYYY-MM-DD`.
-/

namespace TradeReconcile

open Transactions

namespace ReconcileService

/-- The columns hold what a run on two sides is about to store, once spaces past their ends
are cut off. -/
structure Storable (locals channels : List ReconcileSideRow) : Prop where
  localCount : locals.length < 2 ^ 32
  localTotal : fitsDecimal (wrap64 (sideSum locals)) = true
  channelCount : channels.length < 2 ^ 32
  channelTotal : fitsDecimal (wrap64 (sideSum channels)) = true
  diffCount : (classifyReconcileDiffs locals channels).length < 2 ^ 32
  diffs : ∀ diff ∈ classifyReconcileDiffs locals channels, (storedDiff "" diff).fits = true

instance (locals channels : List ReconcileSideRow) : Decidable (Storable locals channels) :=
  decidable_of_iff (locals.length < 2 ^ 32 ∧ fitsDecimal (wrap64 (sideSum locals)) = true ∧
      channels.length < 2 ^ 32 ∧ fitsDecimal (wrap64 (sideSum channels)) = true ∧
      (classifyReconcileDiffs locals channels).length < 2 ^ 32 ∧
      ∀ diff ∈ classifyReconcileDiffs locals channels, (storedDiff "" diff).fits = true)
    ⟨fun ⟨one, two, three, four, five, six⟩ => ⟨one, two, three, four, five, six⟩,
      fun ⟨one, two, three, four, five, six⟩ => ⟨one, two, three, four, five, six⟩⟩

/-- The date has a batch. -/
def reconciledOn (collate : String → String) (db : Db) (billDate : String) : Bool :=
  db.batches.any fun row =>
    row.val.billDate == billDate && collate row.val.channel == collate kChannel

/-- The local side of a day. -/
def localsOf (collate : String → String) (db : Db) (day : Int) : List ReconcileSideRow :=
  (db.paymentsOfDay collate kChannel day).map fun row => sideRow row.val

/-- What the inputs of a run decide, if its date is spelled as a date. For other spellings,
which the server may still read as dates, nothing is decided. -/
def verdict (collate : String → String) (db : Db) (billDate : String) (bill : Option String) :
    Option ErrCode :=
  match bill.bind parseBill with
  | none => some .kReconcileBillParseFailed
  | some channels =>
    match BeijingTime.parseDateTime (billDate ++ " 00:00:00") with
    | none => if BeijingTime.isDateText billDate then some .kDbError else none
    | some day =>
      if reconciledOn collate db billDate then some .kReconcileBatchStatusInvalid
      else if Storable (localsOf collate db day) channels then some .kSuccess
      else some .kDbError

section Columns

variable {billDate batchNo : String} {locals channels : List ReconcileSideRow}

/-- The number of the batch is the only part of a difference that is not its own. -/
theorem storedDiff_fits (diff : ClassifiedDiff) :
    (storedDiff batchNo diff).fits = true ↔
      batchNo.length ≤ 32 ∧ (storedDiff "" diff).fits = true := by
  simp only [ReconcileDiff.fits, Bool.and_eq_true, decide_eq_true_eq, and_assoc]
  simp only [storedDiff, ReconcileDiff.stored, buildDiff, String.length_empty, Nat.zero_le, true_and]

/-- A difference that fits without a cut is stored as it is. -/
theorem storedDiff_eq {diff : ClassifiedDiff} (fits : (buildDiff "" diff).fits = true) :
    storedDiff batchNo diff = buildDiff batchNo diff := by
  simp only [ReconcileDiff.fits, Bool.and_eq_true, decide_eq_true_eq] at fits
  obtain ⟨⟨⟨⟨⟨-, orderNo⟩, tradeNo⟩, -⟩, -⟩, -⟩ := fits
  simp only [buildDiff] at orderNo tradeNo
  simp only [storedDiff, ReconcileDiff.stored, buildDiff, Varchar.cut_of_le orderNo,
    Varchar.cut_of_le tradeNo]

/-- The batch row fits under a number that fits. -/
theorem buildBatch_fits (short : batchNo.length ≤ 32)
    (dated : (BeijingTime.parseDateTime (billDate ++ " 00:00:00")).isSome = true) :
    (buildBatch billDate batchNo locals channels (classifyReconcileDiffs locals channels)).fits = true ↔
      locals.length < 2 ^ 32 ∧ fitsDecimal (wrap64 (sideSum locals)) = true ∧
        channels.length < 2 ^ 32 ∧ fitsDecimal (wrap64 (sideSum channels)) = true ∧
        (classifyReconcileDiffs locals channels).length < 2 ^ 32 := by
  have channel : kChannel.length ≤ 16 := by decide
  simp only [buildBatch, ReconcileBatch.fits, totalFen_eq, channel, short, dated, Bool.and_eq_true,
    decide_eq_true_eq, decide_true, true_and, and_assoc]
  norm_cast

/-- What is storable fits under every number, and what is not does not: the batch number is
the only text that is not decided by the inputs. -/
theorem storable_iff (short : batchNo.length ≤ 32)
    (dated : (BeijingTime.parseDateTime (billDate ++ " 00:00:00")).isSome = true) :
    Storable locals channels ↔
      (buildBatch billDate batchNo locals channels
        (classifyReconcileDiffs locals channels)).fits = true ∧
      ∀ diff ∈ classifyReconcileDiffs locals channels, (storedDiff batchNo diff).fits = true := by
  rw [buildBatch_fits short dated]
  constructor
  · intro storable
    exact ⟨⟨storable.localCount, storable.localTotal, storable.channelCount, storable.channelTotal,
      storable.diffCount⟩, fun diff member => (storedDiff_fits diff).mpr ⟨short, storable.diffs diff member⟩⟩
  · rintro ⟨⟨localCount, localTotal, channelCount, channelTotal, diffCount⟩, diffs⟩
    exact ⟨localCount, localTotal, channelCount, channelTotal, diffCount,
      fun diff member => ((storedDiff_fits diff).mp (diffs diff member)).2⟩

end Columns

section Run

variable {P : Platform} {now : Shared Db} {billDate : String}

/-- The loop of step 5 goes through if every difference fits, and ends at the first one
that does not. -/
theorem insertDiffs_achieves {α : Type} {batchNo : String} {expects : Env → Prop}
    {post : Except Exn α → Shared Db → Prop} {next : Unit → Guarded α} {snapshot : Option Db}
    {classified : List ClassifiedDiff}
    (rejected : ¬(∀ diff ∈ classified, (storedDiff batchNo diff).fits = true) →
      ∀ later : Shared Db, later.committed = now.committed → post (.error (.fault .db)) later)
    (rest : (∀ diff ∈ classified, (storedDiff batchNo diff).fits = true) →
      ∀ own locks later, Guarded.Achieves P False expects post (next ())
        ⟨snapshot, own, locks, []⟩ later)
    (own : List Change) (locks : List Lock) (later : Shared Db)
    (same : later.committed = now.committed) :
    Guarded.Achieves P False expects post (insertDiffs batchNo classified >>= next)
      ⟨snapshot, own, locks, []⟩ later := by
  induction classified generalizing own locks later with
  | nil => exact rest (by simp) own locks later
  | cons diff others inductionHypothesis =>
    rw [insertDiffs, bind_assoc]
    refine Guarded.write_achieves rfl False.elim fun env _ => ?_
    by_cases fits : (storedDiff batchNo diff).fits = true
    · have ran : execute P.collate (.diffInsert (buildDiff batchNo diff)) later.counter env
          ((engine P.collate).overlay later.committed own) =
          .ok (1, [.diff ⟨later.counter, storedDiff batchNo diff⟩]) := by
        change insertRow _ false _ _ _ = _
        rw [insertRow, show (buildDiff batchNo diff).stored.fits = true from fits]
        rfl
      rw [ran]
      refine inductionHypothesis (fun some => rejected fun all => some ?_) (fun all => rest ?_) _ _ _ same
      · exact (List.forall_mem_cons.mp all).2
      · exact List.forall_mem_cons.mpr ⟨fits, all⟩
    · have ran : execute P.collate (.diffInsert (buildDiff batchNo diff)) later.counter env
          ((engine P.collate).overlay later.committed own) = .error .db := by
        change insertRow _ false _ _ _ = _
        rw [insertRow, show (buildDiff batchNo diff).stored.fits = false from Bool.eq_false_iff.mpr fits]
        rfl
      rw [ran]
      exact rejected (fun all => fits (all diff List.mem_cons_self)) later same

/-- Steps 4 to 6. The batch goes in first, so any rejected row ends the run before the commit,
and the answer says so; with no row rejected the commit stores them all. -/
theorem storing_achieves {batchNo : String} {expects : Env → Prop} {batch : ReconcileBatch}
    {classified : List ClassifiedDiff} {post : Except Exn (Result Json) → Shared Db → Prop}
    {snapshot : Option Db} (free : now.committed.hasBatchKey P.collate batch = false)
    (rejected : ∀ later : Shared Db, later.committed = now.committed →
      ¬(batch.fits = true ∧ ∀ diff ∈ classified, (storedDiff batchNo diff).fits = true) →
      post (.error (.fault .db)) later)
    (completed : batch.fits = true → (∀ diff ∈ classified, (storedDiff batchNo diff).fits = true) →
      ∀ later, post (.ok (batchReply batch)) later) :
    Guarded.Achieves P False expects post
      (do
        let _ ← Guarded.execSqlSync (.batchInsert batch)
        insertDiffs batchNo classified
        Guarded.commit
        return batchReply batch) ⟨snapshot, [], [], []⟩ now := by
  refine Guarded.write_achieves rfl False.elim fun env _ => ?_
  have view : (engine P.collate).overlay now.committed [] = now.committed := rfl
  have ran : execute P.collate (.batchInsert batch) now.counter env now.committed =
      insertRow batch.fits false .batch now.counter batch := by
    rw [← free]
    rfl
  rw [view, ran]
  by_cases fits : batch.fits = true
  · rw [fits]
    have same : now.tick.committed = now.committed := rfl
    refine insertDiffs_achieves (fun some later same => ?_) (fun all own locks later => ?_)
      _ _ now.tick same
    · exact rejected later same fun both => some both.2
    · exact Guarded.commit_achieves False.elim (completed fits all _)
  · rw [Bool.eq_false_iff.mpr fits]
    exact rejected now rfl fun both => fits both.1

/-- How the code under the guard ends, run alone and without failures: on a date that is none,
on a repeated day, on a row that does not fit, or with the batch. -/
inductive RunEnds (P : Platform) (db : Db) (billDate : String) (channels : List ReconcileSideRow) :
    Except Exn (Result Json) → Prop where
  | dateless (none : BeijingTime.parseDateTime (billDate ++ " 00:00:00") = none) :
      RunEnds P db billDate channels (.error (.fault .db))
  | repeated {day : Int} (dated : BeijingTime.parseDateTime (billDate ++ " 00:00:00") = some day)
      (again : reconciledOn P.collate db billDate = true) (message : String) :
      RunEnds P db billDate channels (.error (.biz .kReconcileBatchStatusInvalid message))
  | rejected {day : Int} (dated : BeijingTime.parseDateTime (billDate ++ " 00:00:00") = some day)
      (first : reconciledOn P.collate db billDate = false)
      (wide : ¬Storable (localsOf P.collate db day) channels) :
      RunEnds P db billDate channels (.error (.fault .db))
  | completed {day : Int} (dated : BeijingTime.parseDateTime (billDate ++ " 00:00:00") = some day)
      (first : reconciledOn P.collate db billDate = false)
      (storable : Storable (localsOf P.collate db day) channels) (batch : ReconcileBatch) :
      RunEnds P db billDate channels (.ok (batchReply batch))

/-- The body of a run, case by case: an impossible date, a date with a batch, a side that does
not fit, and a complete comparison. -/
theorem runBody_ends (channels : List ReconcileSideRow) :
    Guarded.Achieves P False (Issues P now.committed)
      (fun outcome _ => RunEnds P now.committed billDate channels outcome)
      (runBody billDate channels) .idle now := by
  rw [runBody]
  cases dated : BeijingTime.parseDateTime (billDate ++ " 00:00:00") with
  | none =>
    refine Guarded.client_rejected rfl False.elim (fun env => ?_) (.dateless dated)
    simp only [execute, dated, Option.isNone_none, if_true]
  | some day =>
    refine Guarded.client_achieves (reconciledOn P.collate now.committed billDate) rfl False.elim
      (fun env => ?_) ?_
    · simp only [execute, dated, Option.isNone_some, Bool.false_eq_true, if_false]
      rfl
    cases repeated : reconciledOn P.collate now.committed billDate with
    | true => exact .repeated dated repeated _
    | false =>
      simp only [Bool.false_eq_true, if_false]
      refine Guarded.select_achieves (localsOf P.collate now.committed day) rfl False.elim
        (fun env => ?_) ?_
      · have view : (engine P.collate).overlay now.committed [] = now.committed := rfl
        change execute P.collate (.localRows kChannel billDate) now.counter env
          ((engine P.collate).overlay now.committed []) = _
        rw [view, execute_localRows dated, localPayments_eq dated]
        rfl
      change Guarded.Achieves P False _ _ _ ⟨some now.committed, [], [], []⟩ now
      refine Guarded.nextId_achieves ?_ fun id clock expected => ?_
      · intro clock expected
        obtain ⟨id, missing, -⟩ := expected.issued
        cases missing
      obtain ⟨same, issued, short, unused⟩ := expected.issued
      obtain rfl := Option.some.inj issued
      have some : (BeijingTime.parseDateTime (billDate ++ " 00:00:00")).isSome = true := by simp [dated]
      have storable := @storable_iff billDate id (localsOf P.collate now.committed day) channels short some
      refine storing_achieves ?_ (fun later _ wide => ?_) fun fits all later => ?_
      · rw [Db.hasBatchKey, List.any_eq_false]
        intro row member
        have date := List.any_eq_false.mp repeated row member
        have number := unused row member
        simp only [buildBatch, Bool.or_eq_true, beq_iff_eq, not_or]
        exact ⟨number, date⟩
      · exact .rejected dated repeated fun both => wide (storable.mp both)
      · exact .completed dated repeated (storable.mpr ⟨fits, all⟩) _

/-- The reply to an outcome has the verdict's code: success, a day that is reconciled already,
or an error of the database, depending on the date, the store and what the columns hold. -/
theorem RunEnds.code {db : Db} {bill : String} {channels : List ReconcileSideRow}
    {outcome : Except Exn (Result Json)} (ends : RunEnds P db billDate channels outcome)
    (parsed : parseBill bill = some channels) {code : ErrCode}
    (decided : verdict P.collate db billDate (some bill) = some code) :
    (catchAll billDate outcome).code = code.toInt := by
  have read : (some bill).bind parseBill = some channels := parsed
  rw [verdict, read] at decided
  cases ends with
  | dateless none =>
    simp only [none, Option.ite_none_right_eq_some, Option.some.injEq] at decided
    rw [← decided.2]
    rfl
  | repeated dated again message =>
    simp only [dated, again, if_true, Option.some.injEq] at decided
    rw [← decided]
    rfl
  | rejected dated first wide =>
    simp only [dated, first, wide, Bool.false_eq_true, if_false, Option.some.injEq] at decided
    rw [← decided]
    rfl
  | completed dated first storable batch =>
    simp only [dated, first, storable, Bool.false_eq_true, if_false, if_true,
      Option.some.injEq] at decided
    rw [← decided]
    rfl

/-- Alone and without failures every run ends, with the verdict's code. The bill is read
before the transaction starts. -/
theorem run_ends (bill : Option String) :
    Transactions.Achieves (engine P.collate) False (Issues P now.committed)
      (fun answer _ _ => ∃ reply, answer = .reply reply ∧
        ∀ code, verdict P.collate now.committed billDate bill = some code →
          reply.code = code.toInt)
      (program P (.reconcile billDate bill)) .idle now := by
  cases bill with
  | none => exact Achieves.bind ⟨_, rfl, by rintro _ ⟨⟩; rfl⟩
  | some text =>
    rw [program, run]
    cases parsed : parseBill text with
    | none =>
      refine Achieves.bind ⟨_, rfl, fun code decided => ?_⟩
      simp only [verdict, Option.bind_some, parsed, Option.some.injEq] at decided
      rw [← decided]
      rfl
    | some channels =>
      refine Achieves.bind (Achieves.bind ((Guarded.transaction_achieves False.elim
        (runBody_ends channels)).mono ?_))
      intro outcome _ _ ends
      exact ⟨_, rfl, fun _ decided => ends.code parsed decided⟩

/-- How a run leaves the store: with the whole comparison after a success, and else untouched.
Where the verdict is silent, so is this. -/
structure Leaves (P : Platform) (before : Db) (billDate : String) (bill : Option String)
    (reply : Result Json) (after : Db) : Prop where
  code : ∀ code, verdict P.collate before billDate bill = some code → reply.code = code.toInt
  stored : verdict P.collate before billDate bill = some .kSuccess → ∃ text reconciliation,
    bill = some text ∧ Reconciled P.collate billDate text before reconciliation before after
  untouched : ∀ code, verdict P.collate before billDate bill = some code → code ≠ .kSuccess →
    after = before

/-- From a well-formed store a run of its own ends and leaves what its inputs decide. -/
theorem run_leaves {envs : Nat → Env} {bill : Option String} (formed : WellFormed P.collate now)
    (issues : ∀ index, Issues P now.committed (envs index)) :
    ∃ steps reply last,
      aloneRun P ((List.range steps).map fun index => .ok (envs index)) (.reconcile billDate bill) now =
        some (.reply reply, last) ∧ Leaves P now.committed billDate bill reply last.committed := by
  obtain ⟨steps, answer, -, last, ran, reply, rfl, decides⟩ :=
    aloneRun_of_achieves (run_ends bill) envs issues
  refine ⟨steps, reply, last, ran, decides, fun success => ?_, fun code decided failure => ?_⟩
  all_goals rcases alone_effect formed (.of_aloneRun ran) with ⟨same, stale⟩ | ⟨effect, completed⟩
  · simp [fresh, Result.isOk, decides _ success] at stale
  · cases effect with
    | @run _ text reconciliation _ _ reconciled => exact ⟨text, reconciliation, rfl, reconciled⟩
  · exact same
  · have ok : code.toInt = ErrCode.kSuccess.toInt := by
      simpa [fresh, Result.isOk, decides code decided] using completed
    exact absurd (ErrCode.toInt_injective ok) failure

end Run

/-- In every store that concurrent calls reach, a run of its own without failures answers what
its inputs decide. It stores the whole comparison if that is a success, and else nothing. -/
theorem reached_verdict {P : Platform} {serves : Call → Prop} {first : Shared Db} {system : Trade}
    {envs : Nat → Env} {billDate : String} {bill : Option String} (formed : WellFormed P.collate first)
    (reached : Reached P (Admits serves) first system)
    (issues : ∀ index, Issues P system.shared.committed (envs index)) :
    ∃ steps reply last,
      aloneRun P ((List.range steps).map fun index => .ok (envs index)) (.reconcile billDate bill)
        system.shared = some (.reply reply, last) ∧
      Leaves P system.shared.committed billDate bill reply last.committed :=
  run_leaves (reached_locking formed reached).inv.1 issues

end ReconcileService

/-- A channel row under a number that its column does not hold, on a bill that is right
otherwise. -/
def Shop.wideBill : String :=
  "T1,7001,39.90,2026-09-13 12:58:16\nT2,70020000000000000000000000000000000,5.00,2026-09-13 13:00:00\n"

/-- The reply and the store that a run on a bill of the day ends with. -/
def Shop.RunLeaves (system : Trade) (bill : String) (reply : Result Json) (last : Shared Db) : Prop :=
  ∃ steps, aloneRun billing ((List.range steps).map fun index => .ok (answers9001 index))
    (.reconcile "2026-09-13" (some bill)) system.shared = some (.reply reply, last)

/-- Without the long number the day is reconciled, and with it the insert fails and nothing is
stored. -/
theorem mugs_verdict : ∃ system, Reached Shop.billing (Admits fun _ => True) Shop.store system ∧
    (∃ reply last, Shop.RunLeaves system "T1,7001,39.90,x\n" reply last ∧ reply.code = 0 ∧
      ∃ text reconciliation, some "T1,7001,39.90,x\n" = some text ∧
        Reconciled Shop.billing.collate "2026-09-13" text system.shared.committed reconciliation
          system.shared.committed last.committed) ∧
    ∃ reply last, Shop.RunLeaves system Shop.wideBill reply last ∧
      reply.code = ErrCode.kDbError.toInt ∧ last.committed = system.shared.committed := by
  obtain ⟨system, reached, payments, batches⟩ := @Shop.mugsBilled_reached "T1" (by decide +kernel)
  have formed : WellFormed Shop.billing.collate Shop.store := Shop.store_formed
  have issues : ∀ index, ReconcileService.Issues Shop.billing system.shared.committed
      (Shop.answers9001 index) := fun _ => ⟨"9001", rfl, by decide, by simp [batches]⟩
  have side : ReconcileService.localsOf Shop.billing.collate system.shared.committed Shop.billedDay =
      [⟨"T1", "7001", 3990⟩] := by
    rw [ReconcileService.localsOf, Shop.mugsPayment_selected payments]
    rfl
  have dated : BeijingTime.parseDateTime ("2026-09-13" ++ " 00:00:00") = some Shop.billedDay := by decide
  have first : ReconcileService.reconciledOn Shop.billing.collate system.shared.committed "2026-09-13" =
      false := by simp [ReconcileService.reconciledOn, batches]
  have verdict : ∀ bill channels code, ReconcileService.parseBill bill = some channels →
      (if ReconcileService.Storable [⟨"T1", "7001", 3990⟩] channels then some .kSuccess
        else some .kDbError) = some code →
      ReconcileService.verdict Shop.billing.collate system.shared.committed "2026-09-13" (some bill) =
        some code := by
    intro bill channels code parsed decided
    have read : (some bill).bind ReconcileService.parseBill = some channels := parsed
    rw [ReconcileService.verdict, read]
    simp only [dated, first, side, Bool.false_eq_true, if_false]
    exact decided
  have right := verdict "T1,7001,39.90,x\n" [⟨"T1", "7001", 3990⟩] .kSuccess (by decide +kernel)
    (by decide +kernel)
  have wide := verdict Shop.wideBill
    [⟨"T1", "7001", 3990⟩, ⟨"T2", "70020000000000000000000000000000000", 500⟩] .kDbError
    (by decide +kernel) (by decide +kernel)
  have answers := fun bill : String =>
    @ReconcileService.reached_verdict _ _ _ _ Shop.answers9001 "2026-09-13" (some bill) formed reached issues
  obtain ⟨steps, reply, last, ran, leaves⟩ := answers "T1,7001,39.90,x\n"
  obtain ⟨more, rejection, same, tried, refused⟩ := answers Shop.wideBill
  refine ⟨system, reached, ⟨reply, last, ⟨steps, ran⟩, ?_, leaves.stored right⟩, rejection, same,
    ⟨more, tried⟩, refused.code _ wide, refused.untouched _ wide (by decide)⟩
  exact leaves.code _ right

end TradeReconcile
