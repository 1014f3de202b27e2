import TradeReconcile.Conduct.Guard

/-!
# Reconciling a day and handling its differences under interference

The transaction of `ReconcileService::run` reads the day's payments once and then
only inserts. The loop over the differences carries the rows it has claimed so
far; all of them become visible with the batch or not at all. Handling a difference
is a lookup and a conditional update, whose lock keeps the row it found pending.
-/

namespace TradeReconcile

open Transactions

namespace ReconcileService

/-- How a run ends: with a fault, refused because the day is done, or completed
against the payments of its snapshot. -/
inductive RunEnd (P : Platform) (D : Discipline Call Db Change Lock Env) (billDate bill : String) :
    Except Exn (Result Json) → List (Db × Db) → Shared Db → Prop where
  | faulted (fault : Fault) (shared : Shared Db) :
      RunEnd P D billDate bill (.error (.fault fault)) [] shared
  | refused {message : String} {shared : Shared Db} :
      RunEnd P D billDate bill (.error (.biz .kReconcileBatchStatusInvalid message)) [] shared
  | completed {seen : Db} {moment shared : Shared Db} {reconciliation : Reconciliation}
      {after : Db} :
      Watched D (.reconcile billDate (some bill)) seen moment →
      Reconciled P.collate billDate bill seen reconciliation moment.committed after →
      Evolves after shared.committed →
      RunEnd P D billDate bill (.ok (batchReply reconciliation.batch.val))
        [(moment.committed, after)] shared

section Walk

variable {P : Platform} {D : Discipline Call Db Change Lock Env} {billDate bill : String}

/-- How a run may end goes on holding while others take turns. -/
theorem run_ending (trading : Trading P D (.reconcile billDate (some bill))) :
    Ending D (.reconcile billDate (some bill)) (RunEnd P D billDate bill) where
  faulted := .faulted
  lasting := by
    intro outcome history session before after moved _ ended
    have evolved := (trading.relies moved).evolves
    cases ended with
    | faulted fault => exact .faulted fault after
    | refused => exact .refused
    | completed watched reconciled evolves =>
      exact .completed watched reconciled (evolves.trans evolved)

/-- The rest of a run is safe from this connection and store. -/
abbrev Judged (P : Platform) (D : Discipline Call Db Change Lock Env) (billDate bill : String)
    (code : Guarded (Result Json)) (session : Connection) (shared : Shared Db) : Prop :=
  Guarded.Safe P D (.reconcile billDate (some bill)) (RunEnd P D billDate bill) code false session
    shared

/-- The batch row is claimed. -/
structure Booked (P : Platform) (batch : Row ReconcileBatch) (shared : Shared Db) : Prop where
  fits : batch.val.fits = true
  reserved : Reserved batch.id shared
  free : shared.committed.hasBatchKey P.collate batch.val = false

/-- The row and the keys of an inserted batch. -/
def batchLocks (collate : String → String) (batch : Row ReconcileBatch) : List Lock :=
  [.rowNumber batch.id, .batchNo (collate batch.val.batchNo),
    .batchDate batch.val.billDate (collate batch.val.channel)]

/-- The booked batch keeps its number and its date to itself. -/
theorem Booked.kept {batch : Row ReconcileBatch} {session : Connection} {before after : Shared Db}
    (booked : Booked P batch before) (moved : Relies P.collate session before after)
    (held : batchLocks P.collate batch ⊆ session.locks) : Booked P batch after where
  fits := booked.fits
  reserved := booked.reserved.kept moved (held (by simp [batchLocks]))
  free := batchKey_kept moved (held (by simp [batchLocks])) (held (by simp [batchLocks])) booked.free

/-- The difference rows inserted so far are claimed. -/
structure Listed (rows : List (Row ReconcileDiff)) (shared : Shared Db) : Prop where
  fits : ∀ row ∈ rows, row.val.fits = true
  reserved : ∀ row ∈ rows, Reserved row.id shared
  distinct : UniqueIds rows

/-- The rows of inserted differences. -/
def diffLocks (rows : List (Row ReconcileDiff)) : List Lock := rows.map fun row => .rowNumber row.id

/-- The listed differences keep their row numbers to themselves. -/
theorem Listed.kept {collate : String → String} {rows : List (Row ReconcileDiff)}
    {session : Connection} {before after : Shared Db} (listed : Listed rows before)
    (moved : Relies collate session before after) (held : diffLocks rows ⊆ session.locks) :
    Listed rows after where
  fits := listed.fits
  reserved row member :=
    (listed.reserved row member).kept moved (held (List.mem_map.mpr ⟨row, member, rfl⟩))
  distinct := listed.distinct

/-- A further row takes the next number, which none of the earlier rows has. -/
theorem Listed.snoc {collate : String → String} {rows : List (Row ReconcileDiff)}
    {now : Shared Db} {diff : ReconcileDiff} (listed : Listed rows now)
    (formed : WellFormed collate now) (fits : diff.fits = true) :
    Listed (rows ++ [⟨now.counter, diff⟩]) now.tick where
  fits row member := by
    rcases List.mem_append.mp member with old | new
    · exact listed.fits row old
    · rw [List.mem_singleton.mp new]
      exact fits
  reserved row member := by
    rcases List.mem_append.mp member with old | new
    · have reserved := listed.reserved row old
      exact ⟨Nat.lt_succ_of_lt reserved.issued, reserved.unused⟩
    · rw [List.mem_singleton.mp new]
      exact formed.reserved
  distinct := uniqueIds_append listed.distinct fun row member =>
    Nat.ne_of_lt (listed.reserved row member).issued

/-- The connection after the batch and some differences have been inserted. -/
def inserted (collate : String → String) (seen : Db) (batch : Row ReconcileBatch)
    (rows : List (Row ReconcileDiff)) : Connection :=
  ⟨some seen, .batch batch :: rows.map .diff, batchLocks collate batch ++ diffLocks rows, []⟩

/-- The loop of step 5. The invariant is what `inserted` says of the connection;
each turn appends one claimed row. -/
theorem insertDiffs_safe (trading : Trading P D (.reconcile billDate (some bill))) {next : Unit → Guarded (Result Json)} {seen : Db}
    {batch : Row ReconcileBatch} {batchNo : String} {diffs : List ClassifiedDiff} :
    ∀ {rows : List (Row ReconcileDiff)} {shared : Shared Db},
      Watched D (.reconcile billDate (some bill)) seen shared → Booked P batch shared →
      Listed rows shared →
      (∀ (now : Shared Db) (all : List (Row ReconcileDiff)),
        Watched D (.reconcile billDate (some bill)) seen now → Booked P batch now → Listed all now →
        all.map Row.val = rows.map Row.val ++ diffs.map (storedDiff batchNo) →
        Judged P D billDate bill (next ()) (inserted P.collate seen batch all) now) →
      Judged P D billDate bill (insertDiffs batchNo diffs >>= next)
        (inserted P.collate seen batch rows) shared := by
  have ending : Ending D (.reconcile billDate (some bill)) _ := run_ending trading
  induction diffs with
  | nil =>
    intro rows shared watched booked listed rest
    exact rest shared rows watched booked listed (by simp)
  | cons diff others inductionHypothesis =>
    intro rows shared watched booked listed rest
    simp only [insertDiffs, bind_assoc]
    apply Guarded.write_safe ending rfl rfl
    intro now env affected changes moved holds ran
    have kept := trading.relies moved
    obtain ⟨fits, -, rfl, rfl⟩ := insertRow_ok ran
    have listedNow : Listed (rows ++ [⟨now.counter, storedDiff batchNo diff⟩]) now.tick :=
      (listed.kept kept (by simp [inserted])).snoc (trading.formed holds) fits
    have bookedNow := booked.kept kept.ticked (by simp [inserted])
    have shape : inserted P.collate seen batch
        (rows ++ [⟨now.counter, storedDiff batchNo diff⟩]) =
        ⟨some seen, .batch batch :: rows.map .diff ++ [.diff ⟨now.counter, storedDiff batchNo diff⟩],
          batchLocks P.collate batch ++ diffLocks rows ++ [.rowNumber now.counter], []⟩ := by
      simp [inserted, diffLocks]
    have turn := inductionHypothesis (watched.ticked rfl moved holds) bookedNow listedNow
      fun last all watched booked listed same =>
        rest last all watched booked listed (by simpa [List.append_assoc] using same)
    rw [shape] at turn
    exact turn

/-- Differences with new numbers are appended in order. -/
theorem overlay_diffs {rows : List (Row ReconcileDiff)} :
    ∀ {db : Db}, UniqueIds rows → (∀ row ∈ rows, ∀ old ∈ db.diffs, old.id ≠ row.id) →
      (rows.map Change.diff).foldl Db.put db = { db with diffs := db.diffs ++ rows } := by
  induction rows with
  | nil =>
    intro db _ _
    simp
  | cons row others inductionHypothesis =>
    intro db distinct fresh
    obtain ⟨outside, distinct⟩ := List.nodup_cons.mp distinct
    have stored : db.put (.diff row) = { db with diffs := db.diffs ++ [row] } := by
      rw [Db.put, putRow_new (fresh row (by simp))]
    rw [List.map_cons, List.foldl_cons, stored, inductionHypothesis distinct]
    · simp
    · intro other member old present same
      rcases List.mem_append.mp present with present | last
      · exact fresh other (by simp [member]) old present same
      · rw [List.mem_singleton.mp last] at same
        exact outside (same ▸ List.mem_map_of_mem member)

/-- What the statements have established reconciles the day. The snapshot is the one the local
rows were read from; the batch and its differences are appended to the tables as they are at
the commit. -/
theorem reconciled_images {seen : Db} {reconciliation : Reconciliation} {shared : Shared Db}
    (keys : Schema P.collate seen) (parsed : parseBill bill = some reconciliation.channels)
    (side : LocalSide P.collate billDate seen reconciliation.locals)
    (batch : ∃ batchNo, reconciliation.batch.val = buildBatch billDate batchNo
      reconciliation.locals reconciliation.channels
      (classifyReconcileDiffs reconciliation.locals reconciliation.channels))
    (diffs : reconciliation.diffs.map Row.val =
      (classifyReconcileDiffs reconciliation.locals reconciliation.channels).map
        (storedDiff reconciliation.batch.val.batchNo))
    (booked : Booked P reconciliation.batch shared) (listed : Listed reconciliation.diffs shared) :
    Reconciled P.collate billDate bill seen reconciliation shared.committed
      ((engine P.collate).overlay shared.committed
        (.batch reconciliation.batch :: reconciliation.diffs.map .diff)) := by
  have stored : (engine P.collate).overlay shared.committed
      (.batch reconciliation.batch :: reconciliation.diffs.map .diff) =
      { shared.committed with
        batches := shared.committed.batches ++ [reconciliation.batch]
        diffs := shared.committed.diffs ++ reconciliation.diffs } := by
    change (reconciliation.diffs.map Change.diff).foldl Db.put
      { shared.committed with batches := putRow shared.committed.batches reconciliation.batch } = _
    rw [putRow_new booked.reserved.unused.batches]
    exact overlay_diffs listed.distinct fun row member => (listed.reserved row member).unused.diffs
  rw [stored]
  exact
    { keys := keys
      parsed := parsed
      locals := side
      batch := batch
      diffs := diffs
      batchFits := booked.fits
      diffsFit := listed.fits
      batchUnused := booked.reserved.unused
      diffsUnused := fun row member => (listed.reserved row member).unused
      diffsDistinct := listed.distinct
      batchFree := booked.free
      batches := rfl
      diffRows := rfl
      products := rfl
      accounts := rfl
      flows := rfl
      orders := rfl
      payments := rfl
      idempotents := rfl
      messages := rfl }

/-- The whole body of a run, read, batch and differences, from the first request to the
commit. Nothing is assumed of other calls: what they commit between the snapshot and the
commit is seen by the unique keys only. -/
theorem runBody_safe (trading : Trading P D (.reconcile billDate (some bill))) {channels : List ReconcileSideRow}
    (parsed : parseBill bill = some channels) (shared : Shared Db) :
    Judged P D billDate bill (runBody billDate channels) .idle shared := by
  have ending : Ending D (.reconcile billDate (some bill)) _ := run_ending trading
  apply Guarded.query_safe ending rfl rfl
  intro first env repeated changes _ _ _
  split
  · exact Guarded.raise_safe ending .refused
  apply Guarded.select_safe ending rfl rfl
  intro second env locals changes _ holds ran
  have keys := (trading.formed holds).schema
  have side : LocalSide P.collate billDate second.committed locals := by
    simp only [execute] at ran
    split at ran
    · simp at ran
    · rename_i day dated
      exact ⟨day, dated, (congrArg Prod.fst (Except.ok.inj ran)).symm⟩
  refine Guarded.nextId_safe ending rfl fun third batchNo moved _ _ => ?_
  have watched := Watched.moved (.fixed rfl) rfl moved
  apply Guarded.write_safe ending rfl rfl
  intro fourth env affected changes moved holds ran
  obtain ⟨fits, free, rfl, rfl⟩ := insertRow_ok ran
  let batch : Row ReconcileBatch := ⟨fourth.counter,
    buildBatch billDate batchNo locals channels (classifyReconcileDiffs locals channels)⟩
  have booked : Booked P batch fourth.tick := ⟨fits, (trading.formed holds).reserved, free⟩
  have none : Listed [] fourth.tick := ⟨by simp, by simp, List.nodup_nil⟩
  apply insertDiffs_safe trading (watched.ticked rfl moved holds) booked none
  intro fifth rows watched booked listed same
  let done : Reconciliation := ⟨batch, rows, locals, channels⟩
  apply Guarded.commit_safe trading ending rfl (by simp [inserted])
  intro last moved steady
  have kept := trading.relies moved
  have bookedLast := booked.kept kept (by simp [inserted])
  have listedLast := listed.kept kept (by simp [inserted])
  have reconciled : Reconciled P.collate billDate bill second.committed done last.committed _ :=
    reconciled_images keys parsed side ⟨batchNo, rfl⟩ same bookedLast listedLast
  refine ⟨.reconciled reconciled, ?_, ⟨reconciled.schema (trading.formed steady).schema,
    reconciled.rowNumbers (trading.formed steady).numbered bookedLast.reserved.issued
      fun row member => (listedLast.reserved row member).issued⟩,
    reconciled.evolves, fun lock free => reconciled.agree free,
    .completed (.moved watched rfl moved) reconciled (Evolves.refl _)⟩
  rintro _ _ ⟨⟩
  exact ⟨second.committed, done, rfl, reconciled⟩

end Walk

/-- How handling a difference ends: with an exception, refused, or with the difference
closed. -/
inductive HandleEnd (diffId : Int) (action remark : String) :
    Except Fault (Result Json) → List (Db × Db) → Shared Db → Prop where
  | faulted (fault : Fault) (shared : Shared Db) :
      HandleEnd diffId action remark (.error fault) [] shared
  | refused {code : ErrCode} {message : String} {shared : Shared Db} :
      code ∈ [ErrCode.kParamInvalid, .kReconcileBatchNotFound, .kReconcileDiffAlreadyHandled] →
      HandleEnd diffId action remark (.ok (Result.fail code message "")) [] shared
  | handled {handleStatus : HandleStatus} {row : Row ReconcileDiff} {before after : Db}
      {shared : Shared Db} :
      handleStatusOf action = some handleStatus →
      Handled diffId action remark row before after → Evolves after shared.committed →
      HandleEnd diffId action remark (.ok (handledReply diffId handleStatus)) [(before, after)]
        shared

/-- How a call ended does not change with what happens later. -/
theorem HandleEnd.lasting {diffId : Int} {action remark : String}
    {outcome : Except Fault (Result Json)} {history : List (Db × Db)} {before after : Shared Db}
    (ended : HandleEnd diffId action remark outcome history before)
    (evolved : Evolves before.committed after.committed) :
    HandleEnd diffId action remark outcome history after := by
  cases ended with
  | faulted fault => exact .faulted fault after
  | refused refusal => exact .refused refusal
  | handled asked handled evolves => exact .handled asked handled (evolves.trans evolved)

/-- What a finished handling leaves: no lock, and one of its endings. -/
def HandledOff (diffId : Int) (action remark : String) (outcome : Except Fault (Result Json))
    (session : Connection) (shared : Shared Db) : Prop :=
  session.locks = [] ∧ HandleEnd diffId action remark outcome session.published shared

section Handling

variable {P : Platform} {D : Discipline Call Db Change Lock Env} {diffId : Int}
  {action remark : String}

/-- A handling that fails has changed nothing and holds nothing. -/
theorem faulted_safe (fault : Fault) {session : Connection} {shared : Shared Db}
    (unlocked : session.locks = []) (unpublished : session.published = []) :
    Safe D (engine P.collate) (.handleDiff diffId action remark)
      (HandledOff diffId action remark) (.done (.error fault)) session shared :=
  fun now _ _ => ⟨unlocked, unpublished ▸ .faulted fault now⟩

/-- Neither has one that is refused. -/
theorem refused_safe {code : ErrCode} {message : String} {session : Connection}
    {shared : Shared Db} (refusal : code ∈ [ErrCode.kParamInvalid, .kReconcileBatchNotFound,
      .kReconcileDiffAlreadyHandled])
    (unlocked : session.locks = []) (unpublished : session.published = []) :
    Safe D (engine P.collate) (.handleDiff diffId action remark)
      (HandledOff diffId action remark) (.done (.ok (Result.fail code message ""))) session shared :=
  fun _ _ _ => ⟨unlocked, unpublished ▸ .refused refusal⟩

/-- Storing the new image of a difference that is still pending handles it. -/
theorem handled_image {row : Row ReconcileDiff} {handleStatus : HandleStatus}
    {handledAt : String} {db : Db} (ids : UniqueIds db.diffs)
    (asked : handleStatusOf action = some handleStatus) (present : row ∈ db.diffs)
    (selected : handleable diffId row = true) :
    Handled diffId action remark row db
      (db.put (.diff (handledRow row handleStatus remark handledAt))) := by
  obtain ⟨named, pending⟩ := handleable_iff.mp selected
  exact
    { present := present
      named := named
      pending := pending
      replaced := ⟨handleStatus, handledAt, asked, putRow_replaced ids present rfl⟩
      frame := rfl }

/-- The conditional update and its commit: no difference was pending, or one is
closed. -/
theorem updateDiff_safe (trading : Trading P D (.handleDiff diffId action remark))
    {handleStatus : HandleStatus} (asked : handleStatusOf action = some handleStatus)
    (shared : Shared Db) :
    Safe D (engine P.collate) (.handleDiff diffId action remark)
      (HandledOff diffId action remark) (updateDiff diffId handleStatus remark) .idle shared := by
  intro now _ holds
  refine ⟨fun fault => faulted_safe fault rfl rfl, fun env affected changes ran => ?_⟩
  have formed := trading.formed holds
  have updated : updateRows now.committed.diffs (handleable diffId)
      (fun diff => { diff with
        handleStatus := handleStatus
        handleRemark := Varchar.cut 255 remark
        handledAt := BeijingTime.now env.clock }) .diff = (affected, changes) := by
    change execute P.collate (.diffHandle diffId handleStatus remark) now.counter env
      now.committed = _ at ran
    simp only [execute] at ran
    split at ran
    · cases ran
    · exact Except.ok.inj ran
  have selective : ∀ row ∈ now.committed.diffs, handleable diffId row = true →
      row.id = diffId.toNat := by
    intro row _ selected
    have named := (handleable_iff.mp selected).1
    omega
  rcases updateRows_unique updated formed.schema.diffIds selective with
    ⟨rfl, rfl, _⟩ | ⟨row, member, selected, rfl, rfl⟩
  · intro later _ steady
    exact ⟨fun fault => faulted_safe fault rfl rfl, published_empty rfl steady,
      refused_safe (by simp) rfl rfl⟩
  · intro later moved steady
    -- the lock has kept the row as it was
    have kept : row ∈ later.committed.diffs :=
      (trading.relies moved).agree (.diff diffId) (by simp [engine, statementLocks]) row member
        (handleable_iff.mp selected).1
    let image := handledRow row handleStatus remark (BeijingTime.now env.clock)
    let held : Connection := ⟨none, [.diff image], [.diff diffId], []⟩
    have handled : Handled diffId action remark row later.committed
        (later.committed.put (.diff image)) :=
      handled_image (trading.formed steady).schema.diffIds asked kept selected
    have apart : ∀ lock, lock ∉ held.locks →
        Agree P.collate lock later.committed (later.committed.put (.diff image)) :=
      fun lock free => handled.agree (List.ne_of_not_mem_cons free)
    obtain ⟨guar, inv, others⟩ := trading.commits steady (.handled handled) (.of_other (by simp))
      ⟨handled.schema (trading.formed steady).schema,
        handled.rowNumbers (trading.formed steady).numbered⟩ handled.evolves apart
    refine ⟨fun fault => faulted_safe fault rfl rfl, ⟨fun _ => guar, inv, others⟩, ?_⟩
    intro last further _
    exact ⟨rfl, .handled asked handled (trading.relies further).evolves⟩

/-- A whole call of `handleDiff`. -/
theorem handleDiff_safe (trading : Trading P D (.handleDiff diffId action remark))
    (shared : Shared Db) :
    Safe D (engine P.collate) (.handleDiff diffId action remark)
      (HandledOff diffId action remark) (handleDiff diffId action remark) .idle shared := by
  rw [handleDiff]
  cases asked : handleStatusOf action with
  | none => exact refused_safe (by simp) rfl rfl
  | some handleStatus =>
    intro now _ _
    refine ⟨fun fault => faulted_safe fault rfl rfl, fun env reply changes _ => ?_⟩
    cases reply with
    | none => exact refused_safe (by simp) rfl rfl
    | some diff => exact updateDiff_safe trading asked now

end Handling

end ReconcileService

end TradeReconcile
