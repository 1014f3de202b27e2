import TradeReconcile.Conduct.Alone
import TradeReconcile.Properties.Atomicity

/-!
# Working off a batch's differences

An operator fetches the list of a batch, handles every listed difference that is still
pending, and repeats this until a fetched list shows none. The list is the first page of
the batch's rows in the order of their numbers, handled or not. Handling a row neither
removes nor moves it, so the page always shows the same rows: the rows beyond it stay as
they are, and the loop clears the batch exactly when none of them was pending before.
-/

namespace TradeReconcile

open Transactions

namespace ReconcileService

/-- The rows that the list endpoint fetches. -/
def listed (collate : String → String) (db : Db) (batchNo : String) : List (Row ReconcileDiff) :=
  (db.diffsOf collate batchNo).take 200

/-- The rows of the batch that it leaves out. -/
def unlisted (collate : String → String) (db : Db) (batchNo : String) : List (Row ReconcileDiff) :=
  (db.diffsOf collate batchNo).drop 200

/-- The difference is waiting for its handling. -/
def isPending (row : Row ReconcileDiff) : Bool := row.val.handleStatus == .kPending

/-- Calls with a valid action, one for each of the rows. Any of them may fail. -/
inductive HandledEach (P : Platform) : List (Row ReconcileDiff) → Shared Db → Shared Db → Prop where
  | nil {now : Shared Db} : HandledEach P [] now now
  | cons {row : Row ReconcileDiff} {rest : List (Row ReconcileDiff)} {now next last : Shared Db}
      {action remark : String} {answer : Answer} :
      (handleStatusOf action).isSome = true →
      Alone P (.handleDiff row.id action remark) now answer next →
      HandledEach P rest next last → HandledEach P (row :: rest) now last

/-- The operator's loop. A fetch that fails is repeated; a page without a pending difference
ends it. -/
inductive Handling (P : Platform) (batchNo : String) : Shared Db → Shared Db → Prop where
  | retried {now next last : Shared Db} {answer : Answer} :
      Alone P (.listDiffs batchNo 200) now answer next →
      Handling P batchNo next last → Handling P batchNo now last
  | round {now fetched next last : Shared Db} :
      Alone P (.listDiffs batchNo 200) now
        (.reply (diffsReply batchNo ((listed P.collate now.committed batchNo).map (·.val)))) fetched →
      HandledEach P ((listed P.collate now.committed batchNo).filter isPending) fetched next →
      Handling P batchNo next last → Handling P batchNo now last
  | ended {now last : Shared Db} :
      Alone P (.listDiffs batchNo 200) now
        (.reply (diffsReply batchNo ((listed P.collate now.committed batchNo).map (·.val)))) last →
      (∀ row ∈ listed P.collate now.committed batchNo, isPending row = false) →
      Handling P batchNo now last

section Page

variable {collate : String → String} {batchNo : String}

/-- The differences of a batch, by the collation. -/
theorem diffsOf_mem {db : Db} {row : Row ReconcileDiff} :
    row ∈ db.diffsOf collate batchNo ↔
      row ∈ db.diffs ∧ collate row.val.batchNo = collate batchNo := by
  simp [Db.diffsOf, List.mem_mergeSort]

/-- No difference is listed twice. -/
theorem diffsOf_nodup {db : Db} (unique : UniqueIds db.diffs) :
    ((db.diffsOf collate batchNo).map Row.id).Nodup := by
  have sorted := List.mergeSort_perm (db.diffs.filter fun row => collate row.val.batchNo == collate batchNo)
    fun one two => decide (one.id ≤ two.id)
  apply (sorted.map Row.id).nodup_iff.mpr
  exact unique.sublist ((List.filter_sublist).map Row.id)

/-- A table of rows of one batch in order is the list of the batch. -/
theorem diffsOf_sorted {db : Db} (one : ∀ row ∈ db.diffs, collate row.val.batchNo = collate batchNo)
    (sorted : db.diffs.Pairwise fun left right => left.id ≤ right.id) :
    db.diffsOf collate batchNo = db.diffs := by
  have whole : db.diffs.filter (fun row => collate row.val.batchNo == collate batchNo) = db.diffs :=
    List.filter_eq_self.mpr fun row member => by simp [one row member]
  rw [Db.diffsOf, whole]
  exact List.mergeSort_of_pairwise (sorted.imp fun ordered => by simpa using ordered)

/-- The same rows in the same order, and beyond the page unchanged. This is all that a call
can do, whether it succeeds or fails. -/
structure PageMoved (collate : String → String) (batchNo : String) (before after : Db) : Prop where
  ids : (after.diffsOf collate batchNo).map Row.id = (before.diffsOf collate batchNo).map Row.id
  unlisted : unlisted collate after batchNo = unlisted collate before batchNo

/-- Where nothing has happened. -/
theorem PageMoved.refl (db : Db) : PageMoved collate batchNo db db := ⟨rfl, rfl⟩

/-- What moves the page twice moves it. -/
theorem PageMoved.trans {before between after : Db} (one : PageMoved collate batchNo before between)
    (two : PageMoved collate batchNo between after) : PageMoved collate batchNo before after :=
  ⟨two.ids.trans one.ids, two.unlisted.trans one.unlisted⟩

/-- The page shows the same rows before and after: handling changes their status and no row
number. -/
theorem PageMoved.listed {before after : Db} (moved : PageMoved collate batchNo before after) :
    (listed collate after batchNo).map Row.id = (listed collate before batchNo).map Row.id := by
  rw [ReconcileService.listed, ReconcileService.listed, List.map_take, List.map_take, moved.ids]

/-- A row of the batch is on the page or beyond it. -/
theorem mem_batch {db : Db} {row : Row ReconcileDiff} :
    (row ∈ db.diffs ∧ collate row.val.batchNo = collate batchNo) ↔
      row ∈ listed collate db batchNo ∨ row ∈ unlisted collate db batchNo := by
  rw [← diffsOf_mem, ← List.mem_append, listed, unlisted, List.take_append_drop]

/-- Handling a difference exchanges its row in the list of its batch, at the place where it
was. The lists of other batches stay the same. -/
theorem handled_diffsOf {diffId : Int} {action remark : String} {row : Row ReconcileDiff}
    {before after : Db} (unique : UniqueIds before.diffs)
    (handled : Handled diffId action remark row before after) :
    ∃ new : Row ReconcileDiff, new.id = row.id ∧ after.diffsOf collate batchNo =
      (before.diffsOf collate batchNo).map fun other => if other.id = row.id then new else other := by
  obtain ⟨handleStatus, handledAt, -, replaced⟩ := handled.replaced
  have same : collate (handledRow row handleStatus remark handledAt).val.batchNo =
      collate row.val.batchNo := rfl
  have number (other : Row ReconcileDiff) :
      (if other.id = row.id then handledRow row handleStatus remark handledAt else other).id = other.id := by
    split
    · exact Eq.symm ‹_›
    · rfl
  refine ⟨handledRow row handleStatus remark handledAt, rfl, ?_⟩
  rw [Db.diffsOf, Db.diffsOf, replaced.eq_map unique]
  rw [List.map_mergeSort (s := fun one two => decide (one.id ≤ two.id))]
  · rw [List.filter_map]
    congr 2
    refine List.filter_congr fun other member => ?_
    by_cases exchanged : other.id = row.id
    · rw [Function.comp_apply, if_pos exchanged, same, unique.eq_of_id member handled.present exchanged]
    · rw [Function.comp_apply, if_neg exchanged]
  · intro one _ two _
    rw [number one, number two]

/-- Handling a listed row moves nothing on the page and changes nothing beyond it. -/
theorem handled_pageMoved {diffId : Int} {action remark : String} {row : Row ReconcileDiff}
    {before after : Db} (unique : UniqueIds before.diffs)
    (handled : Handled diffId action remark row before after)
    (onPage : row.id ∈ (listed collate before batchNo).map Row.id) :
    PageMoved collate batchNo before after := by
  obtain ⟨new, same, exchanged⟩ := @handled_diffsOf collate batchNo _ _ _ _ _ _ unique handled
  constructor
  · rw [exchanged, List.map_map]
    refine List.map_congr_left fun other _ => ?_
    by_cases named : other.id = row.id
    · simp [named, same]
    · simp [named]
  · have nodup := @diffsOf_nodup collate batchNo _ unique
    rw [← List.take_append_drop 200 (before.diffsOf collate batchNo), List.map_append] at nodup
    have apart : ∀ other ∈ unlisted collate before batchNo, other.id ≠ row.id := by
      intro other member clash
      exact (List.nodup_append.mp nodup).2.2 row.id onPage other.id (List.mem_map_of_mem member) clash.symm
    rw [unlisted, exchanged, ← List.map_drop]
    exact map_kept apart

end Page

section Loop

variable {P : Platform} {batchNo : String}

/-- A successful fetch replies with the listed rows, and no fetch changes the store. -/
theorem fetch_alone {now last : Shared Db} {answer : Answer}
    (alone : Alone P (.listDiffs batchNo 200) now answer last) :
    last = now ∧ ∀ result, answer = .reply result → result.isOk = true →
      result = diffsReply batchNo ((listed P.collate now.committed batchNo).map (·.val)) := by
  obtain ⟨session, solo⟩ := alone
  have achieves : Achieves (engine P.collate) True (fun _ => True)
      (fun answer _ shared => shared = now ∧ ∀ result, answer = .reply result → result.isOk = true →
        result = diffsReply batchNo ((listed P.collate now.committed batchNo).map (·.val)))
      (program P (.listDiffs batchNo 200)) .idle now := by
    refine ⟨fun _ fault => ?_, fun env _ => ?_⟩
    · cases fault with
      | db =>
        constructor
        · rfl
        · rintro _ ⟨⟩ success
          cases success
      | std =>
        constructor
        · rfl
        · rintro _ ⟨⟩
    · constructor
      · rfl
      · rintro _ ⟨⟩ _
        rfl
  exact achieves_solo achieves solo

/-- A call for a listed row, whatever its outcome. -/
theorem call_pageMoved {row : Row ReconcileDiff} {action remark : String} {answer : Answer}
    {now next : Shared Db} (formed : WellFormed P.collate now)
    (onPage : row.id ∈ (listed P.collate now.committed batchNo).map Row.id)
    (alone : Alone P (.handleDiff row.id action remark) now answer next) :
    PageMoved P.collate batchNo now.committed next.committed := by
  obtain ⟨same, -⟩ | ⟨effect, -⟩ := alone_effect formed alone
  · rw [same]
    exact .refl _
  · cases effect with
    | handle handled =>
      apply handled_pageMoved formed.schema.diffIds handled
      have named := handled.named
      norm_cast at named
      rwa [named]

/-- A round of calls leaves the page where it was and does not touch what lies beyond. The
induction is on the calls. -/
theorem each_pageMoved {rows : List (Row ReconcileDiff)} {now last : Shared Db}
    (formed : WellFormed P.collate now)
    (onPage : ∀ row ∈ rows, row.id ∈ (listed P.collate now.committed batchNo).map Row.id)
    (each : HandledEach P rows now last) :
    WellFormed P.collate last ∧ PageMoved P.collate batchNo now.committed last.committed := by
  induction each with
  | nil => exact ⟨formed, .refl _⟩
  | cons valid alone _ inductionHypothesis =>
    have moved := call_pageMoved formed (onPage _ List.mem_cons_self) alone
    obtain ⟨ended, later⟩ := inductionHypothesis (alone_ended formed alone).1
      fun row member => moved.listed ▸ onPage row (List.mem_cons_of_mem _ member)
    exact ⟨ended, moved.trans later⟩

/-- When the loop ends, the batch has a pending row exactly if one lay beyond the page before.
The operator's choices, the failed calls and the number of rounds are arbitrary: `listDiffs`
always shows the first page, of any status, so what lies beyond is never shown. -/
theorem handling_clears_iff {first last : Shared Db} (formed : WellFormed P.collate first)
    (handling : Handling P batchNo first last) :
    (∀ row ∈ last.committed.diffs, P.collate row.val.batchNo = P.collate batchNo →
        row.val.handleStatus ≠ .kPending) ↔
      ∀ row ∈ (first.committed.diffsOf P.collate batchNo).drop 200, row.val.handleStatus ≠ .kPending := by
  induction handling with
  | retried fetched _ inductionHypothesis =>
    obtain ⟨rfl, -⟩ := fetch_alone fetched
    exact inductionHypothesis formed
  | round fetched each _ inductionHypothesis =>
    obtain ⟨rfl, -⟩ := fetch_alone fetched
    obtain ⟨ended, moved⟩ := each_pageMoved formed
      (fun row member => List.mem_map_of_mem (List.mem_of_mem_filter member)) each
    rw [inductionHypothesis ended]
    exact Eq.to_iff (congrArg (fun rows => ∀ row ∈ rows, row.val.handleStatus ≠ .kPending) moved.unlisted)
  | ended fetched none =>
    obtain ⟨rfl, -⟩ := fetch_alone fetched
    constructor
    · intro cleared row beyond
      obtain ⟨present, named⟩ := mem_batch.mpr (.inr beyond)
      exact cleared row present named
    · intro cleared row present named
      obtain onPage | beyond := mem_batch.mp ⟨present, named⟩
      · simpa [isPending] using none row onPage
      · exact cleared row beyond

end Loop

/-- A fetch without failures. -/
theorem fetch_runs (P : Platform) (batchNo : String) (now : Shared Db) :
    Alone P (.listDiffs batchNo 200) now
      (.reply (diffsReply batchNo ((listed P.collate now.committed batchNo).map (·.val)))) now :=
  @Alone.of_aloneRun P [.ok ⟨none, 0⟩] _ _ _ _ rfl

end ReconcileService

namespace Shop

open ReconcileService

/-- A difference of batch 7001 with the given row number. -/
def difference (id : Nat) (handleStatus : HandleStatus) : Row ReconcileDiff :=
  ⟨id, { batchNo := "7001", orderNo := "", channelTradeNo := "T", localAmountFen := 0
         channelAmountFen := 100, diffType := .kChannelOnly, diffAmountFen := -100
         handleStatus := handleStatus, handleRemark := "", handledAt := "" }⟩

/-- A batch of three differences, two of them pending. -/
def shortBatch : Shared Db where
  committed := { diffs := [difference 1 .kPending, difference 2 .kVerified, difference 3 .kPending] }
  counter := 1000

/-- A batch whose first two hundred differences are handled and whose last is not. -/
def longBatch : Shared Db where
  committed := { diffs := (List.range 200).map (fun index => difference (index + 1) .kVerified) ++
    [difference 201 .kPending] }
  counter := 1000

/-- The store of the short batch is well formed. -/
theorem shortBatch_formed : WellFormed platform.collate shortBatch := by
  constructor <;> constructor <;> simp [shortBatch, UniqueIds, UniqueKey, difference]

/-- The differences of the long batch are in the order of their row numbers. -/
theorem longBatch_sorted : longBatch.committed.diffs.Pairwise fun left right => left.id < right.id := by
  rw [longBatch, List.pairwise_append]
  refine ⟨?_, by simp, ?_⟩
  · exact List.pairwise_map.mpr (List.pairwise_lt_range.imp fun ordered => Nat.succ_lt_succ ordered)
  · intro left member right last
    obtain ⟨index, within, rfl⟩ := List.mem_map.mp member
    obtain rfl := List.mem_singleton.mp last
    have := List.mem_range.mp within
    simp only [difference]
    omega

/-- The store of the long batch is well formed. -/
theorem longBatch_formed : WellFormed platform.collate longBatch := by
  have ids : UniqueIds longBatch.committed.diffs :=
    List.pairwise_map.mpr (longBatch_sorted.imp fun ordered => Nat.ne_of_lt ordered)
  have numbers : ∀ row ∈ longBatch.committed.diffs, row.id < 1000 := by
    intro row member
    obtain inside | last := List.mem_append.mp member
    · obtain ⟨index, within, rfl⟩ := List.mem_map.mp inside
      have := List.mem_range.mp within
      simp only [difference]
      omega
    · obtain rfl := List.mem_singleton.mp last
      decide
  constructor
  · constructor
    case diffIds => exact ids
    all_goals simp [longBatch, UniqueIds, UniqueKey]
  · constructor
    case diffs => exact numbers
    all_goals simp [longBatch]

/-- The first difference after it was verified. -/
def verifiedRow : Row ReconcileDiff :=
  ⟨1, { (difference 1 .kVerified).val with handleRemark := "seen", handledAt := "2026-09-13 12:58:16" }⟩

/-- The batch after a round in which the second of two calls failed. -/
def halfHandled : Shared Db where
  committed := { diffs := [verifiedRow, difference 2 .kVerified, difference 3 .kPending] }
  counter := 1001

/-- One call of the operator, with every request answered. -/
def handlingRun (id : Int) (action remark : String) (now : Shared Db) : Option (Answer × Shared Db) :=
  aloneRun platform (List.replicate 3 (.ok ⟨none, 1789275496⟩)) (.handleDiff id action remark) now

/-- In the first round one of the calls fails; the second round makes up for it, and nothing
is left. -/
theorem shortBatch_cleared : ∃ last, Handling platform "7001" shortBatch last ∧
    ∀ row ∈ last.committed.diffs, platform.collate row.val.batchNo = platform.collate "7001" →
      row.val.handleStatus ≠ .kPending := by
  have rows : shortBatch.committed.diffsOf platform.collate "7001" = shortBatch.committed.diffs :=
    diffsOf_sorted (by decide) (by decide)
  have left : halfHandled.committed.diffsOf platform.collate "7001" = halfHandled.committed.diffs :=
    diffsOf_sorted (by decide) (by decide)
  have pending : (listed platform.collate shortBatch.committed "7001").filter isPending =
      [difference 1 .kPending, difference 3 .kPending] := by
    rw [listed, rows]
    decide
  have stillPending : (listed platform.collate halfHandled.committed "7001").filter isPending =
      [difference 3 .kPending] := by
    rw [listed, left]
    decide
  have verifying : ((handlingRun 1 "verify" "seen" shortBatch).map fun ended =>
      (ended.2.committed, ended.2.counter)) = some (halfHandled.committed, halfHandled.counter) := by
    decide +kernel
  have failing : ((aloneRun platform [.error .db] (.handleDiff 3 "ignore" "ours") halfHandled).map
      fun ended => (ended.2.committed, ended.2.counter)) =
        some (halfHandled.committed, halfHandled.counter) := by
    decide +kernel
  have ignoring : ((handlingRun 3 "ignore" "ours" halfHandled).map fun ended =>
      ended.2.committed.diffs.all (!isPending ·)) = some true := by
    decide +kernel
  obtain ⟨⟨one, next⟩, first, shown⟩ := Option.map_eq_some_iff.mp verifying
  obtain ⟨⟨two, same⟩, failed, kept⟩ := Option.map_eq_some_iff.mp failing
  obtain ⟨⟨three, last⟩, second, cleared⟩ := Option.map_eq_some_iff.mp ignoring
  obtain rfl : next = halfHandled := by
    cases next
    simpa [halfHandled] using shown
  obtain rfl : same = halfHandled := by
    cases same
    simpa [halfHandled] using kept
  have handled : Handling platform "7001" shortBatch last := by
    refine .round (fetch_runs platform "7001" shortBatch) ?_
      (.round (fetch_runs platform "7001" halfHandled) ?_ (.ended (fetch_runs platform "7001" last) ?_))
    · rw [pending]
      exact @HandledEach.cons _ (difference 1 .kPending) _ _ _ _ "verify" _ _ rfl (.of_aloneRun first)
        (@HandledEach.cons _ (difference 3 .kPending) _ _ _ _ "ignore" _ _ rfl (.of_aloneRun failed) .nil)
    · rw [stillPending]
      exact @HandledEach.cons _ (difference 3 .kPending) _ _ _ _ "ignore" _ _ rfl
        (.of_aloneRun second) .nil
    · intro row onPage
      simpa using List.all_eq_true.mp cleared row (mem_batch.mpr (.inl onPage)).1
  refine ⟨last, handled, (handling_clears_iff shortBatch_formed handled).mpr ?_⟩
  rw [rows]
  decide

/-- The operator stops at the first fetch, which shows no pending difference. -/
theorem longBatch_left : WellFormed platform.collate longBatch ∧
    ∃ last, Handling platform "7001" longBatch last ∧
      ∃ row ∈ last.committed.diffs, row.val.batchNo = "7001" ∧ row.val.handleStatus = .kPending := by
  have rows : longBatch.committed.diffsOf platform.collate "7001" = longBatch.committed.diffs := by
    refine diffsOf_sorted ?_ (longBatch_sorted.imp Nat.le_of_lt)
    intro row member
    obtain inside | last := List.mem_append.mp member
    · obtain ⟨index, -, rfl⟩ := List.mem_map.mp inside
      rfl
    · obtain rfl := List.mem_singleton.mp last
      rfl
  have page : listed platform.collate longBatch.committed "7001" =
      (List.range 200).map fun index => difference (index + 1) .kVerified := by
    rw [listed, rows, longBatch]
    exact List.take_left' (by simp)
  refine ⟨longBatch_formed, longBatch, .ended (fetch_runs platform "7001" longBatch) ?_,
    difference 201 .kPending, by simp [longBatch], rfl, rfl⟩
  rw [page]
  intro row member
  obtain ⟨index, -, rfl⟩ := List.mem_map.mp member
  rfl

end Shop

end TradeReconcile
