import TradeReconcile.Properties.Reconciliation
import TradeReconcile.Properties.Replays

/-!
# The reconciliation store over a whole run

The duplicate-date check of a run reads outside its transaction, so several runs of
one day may classify the day at once; the unique key of the batch admits one of
them, and what it inserts becomes visible with its batch. A difference is closed by
one conditional update. The store is therefore consistent at every moment: every
batch reports the snapshot of the one call that committed it, and a closed
difference was closed by the one call that says so. Numbers and remarks with spaces past
the end of their column are the only thing that is not kept as it was.
-/

namespace TradeReconcile

open Transactions

/-- A run of service calls with its past. -/
abbrev Runs (P : Platform) (admits : Trade → Action Call Env Fault → Prop) (first : Shared Db) :
    List Trade → Trade → Prop :=
  Transitions.Run (System.step (engine P.collate) (program P)) admits (.initial first)

/-- What a stored difference says about a trade. -/
def ReconcileDiff.classified (diff : ReconcileDiff) : ClassifiedDiff :=
  ⟨diff.diffType, diff.channelTradeNo, diff.orderNo, diff.localAmountFen, diff.channelAmountFen,
    diff.diffAmountFen⟩

/-- A classified difference as the difference table stores it. -/
def ClassifiedDiff.stored (diff : ClassifiedDiff) : ClassifiedDiff :=
  { diff with
    orderNo := Varchar.cut 32 diff.orderNo
    channelTradeNo := Varchar.cut 64 diff.channelTradeNo }

/-- The differences stored under a batch number. -/
def Db.classifiedOf (db : Db) (batchNo : String) : List ClassifiedDiff :=
  (db.diffs.filter fun row => row.val.batchNo = batchNo).map fun row => row.val.classified

section Commits

variable {P : Platform} {call : Call} {before after : Db} {batchNo : String}

/-- Handling a difference changes nothing of what the differences say. -/
theorem Handled.classifiedOf_eq {diffId : Int} {action remark : String} {row : Row ReconcileDiff}
    (handled : Handled diffId action remark row before after) :
    after.classifiedOf batchNo = before.classifiedOf batchNo := by
  obtain ⟨handleStatus, handledAt, -, left, right, old, new⟩ := handled.replaced
  rw [Db.classifiedOf, Db.classifiedOf, old, new]
  by_cases mine : row.val.batchNo = batchNo <;>
    simp [List.filter_append, handledRow, mine, ReconcileDiff.classified]

/-- A run's own differences are what it classified, as the table stores it. -/
theorem Reconciled.own_classified {billDate bill : String} {snapshot : Db}
    {reconciliation : Reconciliation}
    (reconciled : Reconciled P.collate billDate bill snapshot reconciliation before after) :
    reconciliation.diffs.map (fun row => row.val.classified) =
      (classifyReconcileDiffs reconciliation.locals reconciliation.channels).map
        ClassifiedDiff.stored := by
  have rows := congrArg (List.map ReconcileDiff.classified) reconciled.diffs
  rw [List.map_map, List.map_map] at rows
  exact rows

/-- A run's own differences carry its batch number. -/
theorem Reconciled.own_batchNo {billDate bill : String} {snapshot : Db}
    {reconciliation : Reconciliation}
    (reconciled : Reconciled P.collate billDate bill snapshot reconciliation before after) :
    ∀ row ∈ reconciliation.diffs, row.val.batchNo = reconciliation.batch.val.batchNo ∧
      row.val.handleStatus = .kPending ∧ row.val.handleRemark = "" ∧ row.val.handledAt = "" := by
  intro row member
  have mapped : row.val ∈ reconciliation.diffs.map Row.val := List.mem_map_of_mem member
  rw [reconciled.diffs] at mapped
  obtain ⟨diff, -, same⟩ := List.mem_map.mp mapped
  rw [← same]
  exact ⟨rfl, rfl, rfl, rfl⟩

/-- A run adds its differences to its own batch and to no other. -/
theorem Reconciled.classifiedOf_eq {billDate bill : String} {snapshot : Db}
    {reconciliation : Reconciliation}
    (reconciled : Reconciled P.collate billDate bill snapshot reconciliation before after) :
    after.classifiedOf batchNo = before.classifiedOf batchNo ++
      if reconciliation.batch.val.batchNo = batchNo then
        (classifyReconcileDiffs reconciliation.locals reconciliation.channels).map
          ClassifiedDiff.stored
      else [] := by
  rw [Db.classifiedOf, Db.classifiedOf, reconciled.diffRows, List.filter_append, List.map_append]
  congr 1
  split
  · rename_i mine
    rw [← reconciled.own_classified, List.filter_eq_self.mpr]
    intro row member
    simp [(reconciled.own_batchNo row member).1, mine]
  · rename_i other
    rw [List.filter_eq_nil_iff.mpr, List.map_nil]
    intro row member
    simp [(reconciled.own_batchNo row member).1, other]

/-- The batch number of a new batch is not in use. -/
theorem Reconciled.batchNo_new {billDate bill : String} {snapshot : Db}
    {reconciliation : Reconciliation}
    (reconciled : Reconciled P.collate billDate bill snapshot reconciliation before after) :
    ∀ batch ∈ before.batches, batch.val.batchNo ≠ reconciliation.batch.val.batchNo := by
  intro batch member same
  have free := reconciled.batchFree
  simp only [Db.hasBatchKey, List.any_eq_false, Bool.or_eq_true, not_or, beq_iff_eq] at free
  exact (free batch member).1 (by rw [same])

/-- Only runs touch the batches or add differences. -/
theorem Commit.batches_cases (commit : Commit P call before after) :
    (after.batches = before.batches ∧
      ∀ batchNo, after.classifiedOf batchNo = before.classifiedOf batchNo) ∨
      ∃ billDate bill, call = .reconcile billDate (some bill) := by
  cases commit with
  | placed placed =>
    exact .inl ⟨placed.batches, fun _ => by rw [Db.classifiedOf, placed.diffs, Db.classifiedOf]⟩
  | settled settled =>
    exact .inl ⟨settled.batches, fun _ => by rw [Db.classifiedOf, settled.diffs, Db.classifiedOf]⟩
  | reconciled reconciled => exact .inr ⟨_, _, rfl⟩
  | handled handled => exact .inl ⟨by rw [handled.frame], fun _ => handled.classifiedOf_eq⟩

/-- Every difference has a batch. -/
def Owned (db : Db) : Prop :=
  ∀ row ∈ db.diffs, ∃ batch ∈ db.batches, batch.val.batchNo = row.val.batchNo

/-- Every commit leaves each difference with a batch: differences come with theirs, and
batches stay. -/
theorem Commit.owned (commit : Commit P call before after) (owned : Owned before) : Owned after := by
  cases commit with
  | placed placed =>
    rw [Owned, placed.diffs, placed.batches]
    exact owned
  | settled settled =>
    rw [Owned, settled.diffs, settled.batches]
    exact owned
  | @reconciled _ _ _ reconciliation _ _ reconciled =>
    rw [Owned, reconciled.diffRows, reconciled.batches]
    intro row member
    rcases List.mem_append.mp member with old | new
    · obtain ⟨batch, present, same⟩ := owned row old
      exact ⟨batch, by simp [present], same⟩
    · exact ⟨reconciliation.batch, by simp, (reconciled.own_batchNo row new).1.symm⟩
  | @handled _ _ _ found _ _ handled =>
    obtain ⟨handleStatus, handledAt, -, replaced⟩ := handled.replaced
    have batches : after.batches = before.batches := by rw [handled.frame]
    rw [Owned, batches]
    intro row member
    rcases replaced.mem_after member with rfl | old
    · exact owned found handled.present
    · exact owned row old

end Commits

section Runs

variable {P : Platform} {first : Shared Db} {past : List Trade} {system : Trade}

/-- Where a batch comes from: the call that committed it, its bill, the moment of the
commit, the moment of its snapshot, and the two sides it compared. -/
structure Origin where
  caller : Nat
  bill : String
  moment : Trade
  snapshot : Trade
  locals : List ReconcileSideRow
  channels : List ReconcileSideRow

/-- The batch reports the snapshot of the call that committed it. At the moment of the
commit the call's connection held that snapshot, an earlier committed database of the
same run. -/
structure Reported (P : Platform) (past : List Trade) (system : Trade) (batch : Row ReconcileBatch)
    (origin : Origin) : Prop where
  committed : ∃ active after, system.calls[origin.caller]? = some active ∧
    active.call = .reconcile batch.val.billDate (some origin.bill) ∧
    (origin.moment.shared.committed, after) ∈ active.session.published ∧
    after.batches = origin.moment.shared.committed.batches ++ [batch]
  moment : origin.moment ∈ past
  snapshot : origin.snapshot ∈ past
  held : ∃ active, origin.moment.calls[origin.caller]? = some active ∧
    active.session.snapshot = some origin.snapshot.shared.committed
  parsed : ReconcileService.parseBill origin.bill = some origin.channels
  locals : LocalSide P.collate batch.val.billDate origin.snapshot.shared.committed origin.locals
  totals : batch.val = ReconcileService.buildBatch batch.val.billDate batch.val.batchNo
    origin.locals origin.channels (classifyReconcileDiffs origin.locals origin.channels)
  diffs : system.shared.committed.classifiedOf batch.val.batchNo =
    (classifyReconcileDiffs origin.locals origin.channels).map ClassifiedDiff.stored

/-- A report outlives a step that leaves the differences of the batch alone. -/
theorem Reported.kept {batch : Row ReconcileBatch} {origin : Origin}
    (reported : Reported P past system batch origin) {next : Trade} {action : Action Call Env Fault}
    (taken : system.step (engine P.collate) (program P) action = some next)
    (same : next.shared.committed.classifiedOf batch.val.batchNo =
      system.shared.committed.classifiedOf batch.val.batchNo) :
    Reported P (past ++ [system]) next batch origin := by
  obtain ⟨active, after, present, called, recorded, batches⟩ := reported.committed
  obtain ⟨later, stored, sameCall, grows, -⟩ := System.step_kept taken present
  exact
    { reported with
      committed := ⟨later, after, stored, sameCall.trans called, grows recorded, batches⟩
      moment := List.mem_append_left _ reported.moment
      snapshot := List.mem_append_left _ reported.snapshot
      diffs := same.trans reported.diffs }

/-- In every run that starts without differences, every difference has a batch. Both are
inserted by one transaction. -/
theorem reached_owned {serves : Call → Prop} (formed : WellFormed P.collate first)
    (noDiffs : first.committed.diffs = []) (reached : Reached P (Admits serves) first system) :
    Owned system.shared.committed := by
  have started : Owned first.committed := by simp [Owned, noDiffs]
  exact commits_invariant (fun _ _ commit owned => commit.owned owned) formed.schema started
    (reached_commits formed reached)

/-- A run that commits reports its snapshot. The state before the commit is the one the call
published in, and the snapshot's state is an earlier one of the same past; no difference of
another batch bears the new number. -/
theorem Reconciled.reported {active : Active Call Stmt Resp Env Fault Answer Db Change Lock}
    {caller : Nat} {rest : Prog Answer} {seen : Trade} {billDate bill : String}
    {reconciliation : Reconciliation} (present : system.calls[caller]? = some active)
    (publishing : publishes active.program active.session = true)
    (called : active.call = .reconcile billDate (some bill)) (member : seen ∈ past)
    (opened : active.session.snapshot = some seen.shared.committed)
    (owned : Owned system.shared.committed)
    (reconciled : Reconciled P.collate billDate bill seen.shared.committed reconciliation
      system.shared.committed
      ((engine P.collate).publish active.session system.shared).2.committed) :
    Reported P (past ++ [system])
      ⟨((engine P.collate).publish active.session system.shared).2, system.calls.set caller
        ⟨active.call, rest, ((engine P.collate).publish active.session system.shared).1⟩⟩
      reconciliation.batch
      ⟨caller, bill, system, seen, reconciliation.locals, reconciliation.channels⟩ := by
  obtain ⟨batchNo, drafted⟩ := reconciled.batch
  have dated : reconciliation.batch.val.billDate = billDate := by rw [drafted]; rfl
  have numbered : reconciliation.batch.val.batchNo = batchNo := by rw [drafted]; rfl
  have inside := (List.getElem?_eq_some_iff.mp present).1
  have recorded : ((engine P.collate).publish active.session system.shared).1.published =
      active.session.published ++ [(system.shared.committed,
        ((engine P.collate).publish active.session system.shared).2.committed)] :=
    publish_recorded (publishes_own publishing)
  refine ⟨⟨_, _, List.getElem?_set_self inside, ?_, ?_, reconciled.batches⟩, by simp,
    List.mem_append_left _ member, ⟨active, present, opened⟩, reconciled.parsed, ?_, ?_, ?_⟩
  · rw [dated]
    exact called
  · rw [recorded]
    simp
  · rw [dated]
    exact reconciled.locals
  · rw [dated, numbered]
    exact drafted
  · -- No difference of another batch carries the new number.
    have unused : system.shared.committed.classifiedOf reconciliation.batch.val.batchNo = [] := by
      rw [Db.classifiedOf, List.map_eq_nil_iff, List.filter_eq_nil_iff]
      intro row stored
      obtain ⟨batch, old, same⟩ := owned row stored
      have apart := reconciled.batchNo_new batch old
      simpa [← same] using apart
    rw [reconciled.classifiedOf_eq, unused, if_pos rfl, List.nil_append]

/-- In every run that starts without batches, every batch reports the snapshot of the
call that committed it.

Proof: induction over the run. A run of the service reports its own snapshot when it
commits and has a batch number of its own; nobody else adds differences. -/
theorem run_reported {serves : Call → Prop} (formed : WellFormed P.collate first)
    (noBatches : first.committed.batches = []) (noDiffs : first.committed.diffs = [])
    (run : Runs P (Admits serves) first past system) :
    ∀ batch ∈ system.shared.committed.batches, ∃ origin, Reported P past system batch origin := by
  induction run with
  | initial => simp [System.initial, noBatches]
  | @step past system next action before admitted taken inductionHypothesis =>
    -- Batches whose differences the step leaves alone.
    have older : ∀ batch ∈ system.shared.committed.batches,
        next.shared.committed.classifiedOf batch.val.batchNo =
          system.shared.committed.classifiedOf batch.val.batchNo →
        ∃ origin, Reported P (past ++ [system]) next batch origin := by
      intro batch member same
      obtain ⟨origin, reported⟩ := inductionHypothesis batch member
      exact ⟨origin, reported.kept taken same⟩
    rcases System.step_effect taken with ⟨request, -, rfl⟩ |
      ⟨caller, active, rest, present, publishing, resumed, rfl⟩ |
      ⟨caller, active, moved, -, -, -, -, store, -⟩
    · exact fun batch member => older batch member rfl
    · obtain ⟨commit, drawn⟩ := reached_publication formed before.reached present publishing
      rcases commit.batches_cases with ⟨batches, classified⟩ | ⟨billDate, bill, called⟩
      · intro batch member
        rw [batches] at member
        exact older batch member (classified _)
      · obtain ⟨_, reconciliation, opened, reconciled⟩ := drawn billDate bill called
        obtain ⟨seen, member, rfl⟩ := run_snapshot rfl before caller active _ present opened
        intro batch stored
        rw [reconciled.batches] at stored
        rcases List.mem_append.mp stored with old | new
        · apply older batch old
          rw [reconciled.classifiedOf_eq, if_neg (reconciled.batchNo_new batch old).symm,
            List.append_nil]
        · obtain rfl := List.mem_singleton.mp new
          exact ⟨_, reconciled.reported present publishing called member opened
            (reached_owned formed noDiffs before.reached)⟩
    · intro batch member
      rw [store] at member
      exact older batch member (by rw [store])

end Runs

section Handling

variable {P : Platform} {first : Shared Db} {system : Trade} {serves : Call → Prop}

/-- The call is a handling of the difference and has answered code 0. -/
def ClosedBy (system : Trade) (diffId : Int) (caller : Nat) (action remark : String) : Prop :=
  ∃ result session, system.calls[caller]? =
    some ⟨.handleDiff diffId action remark, .done (.reply result), session⟩ ∧ result.isOk = true

/-- The call handles a difference. -/
def Call.isHandling : Call → Bool
  | .handleDiff _ _ _ => true
  | _ => false

/-- Handling a difference publishes with its last request: the UPDATE runs outside a
transaction, so there is nothing left to fail once it has been answered. -/
theorem handleDiff_endsPublished (diffId : Int) (action remark : String) :
    (program P (.handleDiff diffId action remark)).EndsPublished := by
  rw [program, ReconcileService.handleDiff]
  cases ReconcileService.handleStatusOf action with
  | none => trivial
  | some handleStatus =>
    rintro (fault | _ | diff)
    · trivial
    · trivial
    rintro (fault | affectedRows)
    · trivial
    have answered : ∃ answer, ((if affectedRows = 0 then
        .done (.ok (Result.fail .kReconcileDiffAlreadyHandled "差异已处理过" ""))
      else .done (.ok (ReconcileService.handledReply diffId handleStatus)) :
        Prog (Except Fault (Result Json))).bind fun outcome => .done (Answer.ofExcept outcome)) =
          .done answer := by
      split <;> exact ⟨_, rfl⟩
    refine ⟨answered, ?_⟩
    rintro (fault | _)
    · trivial
    · obtain ⟨answer, ended⟩ := answered
      change (Program.bind _ _).EndsPublished
      rw [ended]
      trivial

/-- A handling ends with its commit. -/
theorem handling_endsPublished (call : Call) (handles : call.isHandling = true) :
    (program P call).EndsPublished := by
  cases call with
  | handleDiff diffId action remark => exact handleDiff_endsPublished diffId action remark
  | createOrder | handleCallback | reconcile | listDiffs => cases handles
/-- A handling that has published has closed its difference and says so. -/
theorem published_closed (formed : WellFormed P.collate first)
    (reached : Reached P (Admits serves) first system) {caller : Nat} {diffId : Int}
    {action remark : String} {answer : Answer} {session : Connection}
    (present : system.calls[caller]? =
      some ⟨.handleDiff diffId action remark, .done answer, session⟩)
    (published : session.published ≠ []) : ClosedBy system diffId caller action remark := by
  obtain ⟨-, ended⟩ := reached_finished formed reached present
  generalize session.published = history at ended published
  cases ended with
  | handle ended =>
    cases ended with
    | faulted | refused => exact absurd rfl published
    | handled => exact ⟨_, _, present, rfl⟩

/-- A call that has closed a difference has published the change. -/
theorem ClosedBy.published (formed : WellFormed P.collate first)
    (reached : Reached P (Admits serves) first system) {caller : Nat} {diffId : Int}
    {action remark : String} (closed : ClosedBy system diffId caller action remark) :
    ∃ active before after row, system.calls[caller]? = some active ∧
      active.session.published = [(before, after)] ∧
      Handled diffId action remark row before after ∧ Evolves after system.shared.committed := by
  obtain ⟨result, session, present, success⟩ := closed
  obtain ⟨-, ended⟩ := reached_finished formed reached present
  generalize answered : Answer.reply result = answer at ended
  generalize recorded : session.published = history at ended
  cases ended with
  | handle ended =>
    cases ended with
    | faulted => cases answered
    | refused refusal =>
      cases answered
      rw [fail_isOk] at success
      · cases success
      · rintro rfl
        simp at refusal
    | handled asked handled evolves => exact ⟨_, _, _, _, present, recorded, handled, evolves⟩

/-- The difference that a call has closed is there, with a final status. -/
theorem ClosedBy.settled (formed : WellFormed P.collate first)
    (reached : Reached P (Admits serves) first system) {caller : Nat} {diffId : Int}
    {action remark : String} (closed : ClosedBy system diffId caller action remark) :
    ∃ row ∈ system.shared.committed.diffs, (row.id : Int) = diffId ∧
      row.val.handleStatus ≠ .kPending := by
  obtain ⟨_, _, _, row, -, -, handled, evolves⟩ := closed.published formed reached
  obtain ⟨handleStatus, handledAt, asked, replaced⟩ := handled.replaced
  have settled : handleStatus ≠ .kPending := Handled.final asked
  obtain ⟨later, present, -, -, fixed⟩ := evolves.diffs _ replaced.new_mem
  obtain rfl := fixed settled
  exact ⟨_, present, handled.named, settled⟩

/-- A pending difference has not been closed by anybody. -/
theorem pending_open (formed : WellFormed P.collate first)
    (reached : Reached P (Admits serves) first system) {row : Row ReconcileDiff}
    (member : row ∈ system.shared.committed.diffs) (pending : row.val.handleStatus = .kPending)
    {caller : Nat} {action remark : String} : ¬ClosedBy system row.id caller action remark := by
  intro closed
  obtain ⟨other, present, named, settled⟩ := closed.settled formed reached
  have keys := (reached_locking formed reached).inv.1.schema
  obtain rfl : other = row := keys.diffIds.eq_of_id present member (by exact_mod_cast named)
  exact settled pending

/-- Whoever is seen to have closed a difference after a step had closed it before, or
made the publication of this step. -/
theorem closedBy_step (formed : WellFormed P.collate first)
    (reached : Reached P (Admits serves) first system) {next : Trade}
    {action : Action Call Env Fault} (admitted : Admits serves system action)
    (taken : system.step (engine P.collate) (program P) action = some next) {caller : Nat}
    {diffId : Int} {asked remark : String} (closed : ClosedBy next diffId caller asked remark) :
    ClosedBy system diffId caller asked remark ∨
      ∃ active rest, system.calls[caller]? = some active ∧
        active.call = .handleDiff diffId asked remark ∧
        publishes active.program active.session = true ∧
        next = ⟨((engine P.collate).publish active.session system.shared).2,
          system.calls.set caller ⟨active.call, rest,
            ((engine P.collate).publish active.session system.shared).1⟩⟩ := by
  obtain ⟨result, session, present, success⟩ := closed
  obtain ⟨later, _, _, _, stored, recorded, -, -⟩ :=
    ClosedBy.published formed (.step action reached admitted taken) ⟨result, session, present, success⟩
  obtain rfl := Option.some.inj (present.symm.trans stored)
  have quiet := reached_endsPublished handling_endsPublished reached
  rcases System.step_effect taken with ⟨request, -, rfl⟩ |
    ⟨changed, active, rest, running, publishing, resumed, rfl⟩ |
    ⟨changed, active, moved, running, unfinished, sameCall, history, -, calls⟩
  · rcases getElem?_snoc_cases present with old | new
    · exact .inl ⟨result, session, old, success⟩
    · have idle : session = .idle := congrArg Active.session new
      rw [idle] at recorded
      cases recorded
  · rcases getElem?_set_cases present with ⟨rfl, same⟩ | ⟨_, old⟩
    · right
      exact ⟨active, rest, running, (congrArg Active.call same).symm, publishing, rfl⟩
    · exact .inl ⟨result, session, old, success⟩
  · rw [calls] at present
    rcases getElem?_set_cases present with ⟨rfl, rfl⟩ | ⟨_, old⟩
    · -- It had published before, so it had finished and could not move.
      have handles : active.call.isHandling = true := sameCall ▸ rfl
      rcases quiet caller active running handles with nothing | ⟨value, ended⟩
      · rw [history, nothing] at recorded
        cases recorded
      · exact absurd ended (unfinished value)
    · exact .inl ⟨result, session, old, success⟩

/-- The call has closed the difference with the status and the remark that are stored. A
remark is stored up to the end of its column. -/
def ClosedAs (system : Trade) (row : Row ReconcileDiff) (caller : Nat) : Prop :=
  ∃ action remark, ClosedBy system row.id caller action remark ∧
    row.val.handleRemark = Varchar.cut 255 remark ∧
    ReconcileService.handleStatusOf action = some row.val.handleStatus

/-- A difference is open and nobody has closed it, or exactly one call has: with its action's
status and its remark, as they are stored now. -/
def Resolved (system : Trade) (row : Row ReconcileDiff) : Prop :=
  (row.val.handleStatus = .kPending ∧ row.val.handleRemark = "" ∧ row.val.handledAt = "" ∧
    ∀ caller action remark, ¬ClosedBy system row.id caller action remark) ∨
  ∃ caller, ClosedAs system row caller ∧
    ∀ other action remark, ClosedBy system row.id other action remark → other = caller

/-- An open difference is as it was inserted. -/
def Unhandled (db : Db) : Prop :=
  ∀ row ∈ db.diffs, row.val.handleStatus = .kPending →
    row.val.handleRemark = "" ∧ row.val.handledAt = ""

/-- Nothing but a handling closes a difference. -/
theorem Commit.unhandled {call : Call} {before after : Db} (commit : Commit P call before after)
    (unhandled : Unhandled before) : Unhandled after := by
  cases commit with
  | placed placed =>
    rw [Unhandled, placed.diffs]
    exact unhandled
  | settled settled =>
    rw [Unhandled, settled.diffs]
    exact unhandled
  | reconciled reconciled =>
    rw [Unhandled, reconciled.diffRows]
    intro row member pending
    rcases List.mem_append.mp member with old | new
    · exact unhandled row old pending
    · exact (reconciled.own_batchNo row new).2.2
  | handled handled =>
    obtain ⟨handleStatus, handledAt, asked, replaced⟩ := handled.replaced
    intro row member pending
    rcases replaced.mem_after member with rfl | old
    · exact absurd pending (Handled.final asked)
    · exact unhandled row old pending

/-- No difference is closed twice. The update asks for the pending status, and the row is
locked from there to the commit. -/
theorem reached_closedOnce (formed : WellFormed P.collate first)
    (reached : Reached P (Admits serves) first system) :
    ∀ diffId one firstAction firstRemark two secondAction secondRemark,
      ClosedBy system diffId one firstAction firstRemark →
      ClosedBy system diffId two secondAction secondRemark → one = two := by
  induction reached with
  | initial =>
    rintro diffId one _ _ two _ _ ⟨_, _, present, _⟩ _
    simp [System.initial] at present
  | @step system next action before admitted taken inductionHypothesis =>
    -- A call that closes the difference now finds it open.
    have clash : ∀ (diffId : Int) (caller : Nat) (asked remark : String)
        (active : Active Call Stmt Resp Env Fault Answer Db Change Lock),
        system.calls[caller]? = some active → active.call = .handleDiff diffId asked remark →
        publishes active.program active.session = true →
        ∀ other action remark, ¬ClosedBy system diffId other action remark := by
      intro diffId caller asked remark active present called publishing other action remark closed
      obtain ⟨commit, -⟩ := reached_publication formed before present publishing
      rw [called] at commit
      cases commit with
      | handled handled =>
        rw [← handled.named] at closed
        exact pending_open formed before handled.present handled.pending closed
    intro diffId one _ _ two _ _ left right
    rcases closedBy_step formed before admitted taken left with oldLeft |
      ⟨active, rest, present, called, publishing, same⟩
    · rcases closedBy_step formed before admitted taken right with oldRight |
        ⟨active, rest, present, called, publishing, -⟩
      · exact inductionHypothesis _ _ _ _ _ _ _ oldLeft oldRight
      · exact absurd oldLeft (clash diffId _ _ _ active present called publishing _ _ _)
    · -- The step is of the first call, so the second one is as it was before.
      by_contra distinct
      obtain ⟨result, session, stored, success⟩ := right
      rw [same, List.getElem?_set_ne distinct] at stored
      exact clash diffId _ _ _ active present called publishing _ _ _
        ⟨result, session, stored, success⟩

/-- Whoever has closed a difference stays the one. -/
theorem ClosedBy.kept {next : Trade} {action : Action Call Env Fault}
    (taken : system.step (engine P.collate) (program P) action = some next) {diffId : Int}
    {caller : Nat} {asked remark : String} (closed : ClosedBy system diffId caller asked remark) :
    ClosedBy next diffId caller asked remark := by
  obtain ⟨result, session, present, success⟩ := closed
  obtain ⟨later, stored, -, -, finished⟩ := System.step_kept taken present
  rw [finished _ rfl] at stored
  exact ⟨result, session, stored, success⟩

/-- A difference with a final status was closed by a call that says so.

Proof: induction over the run. A status becomes final by a handling's publication,
with which that call finishes. -/
theorem reached_closed (formed : WellFormed P.collate first)
    (noDiffs : first.committed.diffs = []) (reached : Reached P (Admits serves) first system) :
    ∀ row ∈ system.shared.committed.diffs, row.val.handleStatus ≠ .kPending →
      ∃ caller, ClosedAs system row caller := by
  induction reached with
  | initial => simp [System.initial, noDiffs]
  | @step system next action before admitted taken inductionHypothesis =>
    have older : ∀ row ∈ system.shared.committed.diffs, row.val.handleStatus ≠ .kPending →
        ∃ caller, ClosedAs next row caller := by
      intro row member settled
      obtain ⟨caller, asked, remark, closed, facts⟩ := inductionHypothesis row member settled
      exact ⟨caller, asked, remark, closed.kept taken, facts⟩
    rcases System.step_effect taken with ⟨request, -, rfl⟩ |
      ⟨caller, active, rest, present, publishing, resumed, rfl⟩ |
      ⟨caller, active, moved, -, -, -, -, store, -⟩
    · exact older
    · have step := reached_publication formed before present publishing
      have ends := reached_ends handling_endsPublished before caller active present
      obtain ⟨call, here, session⟩ := active
      obtain ⟨commit, -⟩ := step
      intro row member settled
      cases commit with
      | placed placed =>
        rw [placed.diffs] at member
        exact older row member settled
      | settled paid =>
        rw [paid.diffs] at member
        exact older row member settled
      | reconciled reconciled =>
        rw [reconciled.diffRows] at member
        rcases List.mem_append.mp member with old | new
        · exact older row old settled
        · exact absurd (reconciled.own_batchNo row new).2.1 settled
      | @handled diffId asked remark found _ _ handled =>
        obtain ⟨handleStatus, handledAt, status, replaced⟩ := handled.replaced
        obtain rfl := handled.named
        rcases replaced.mem_after member with rfl | old
        · obtain ⟨answer, rfl⟩ := (ends rfl).resumed resumed
          have inside := (List.getElem?_eq_some_iff.mp present).1
          have closed := published_closed formed (.step action before admitted taken)
            (List.getElem?_set_self inside)
            (by rw [publish_recorded (publishes_own publishing)]; simp)
          exact ⟨caller, asked, _, closed, rfl, status⟩
        · exact older row old settled
    · rw [store]
      exact older

/-- In every run that starts without differences, every difference is resolved: pending as it
was inserted, or closed by one successful call with that call's remark as its column stores
it. -/
theorem reached_resolved (formed : WellFormed P.collate first)
    (noDiffs : first.committed.diffs = []) (reached : Reached P (Admits serves) first system) :
    ∀ row ∈ system.shared.committed.diffs, Resolved system row := by
  intro row member
  by_cases pending : row.val.handleStatus = .kPending
  · have started : Unhandled first.committed := by simp [Unhandled, noDiffs]
    have unhandled := commits_invariant (fun _ _ commit unhandled => commit.unhandled unhandled)
      formed.schema started (reached_commits formed reached)
    obtain ⟨remark, handledAt⟩ := unhandled row member pending
    exact .inl ⟨pending, remark, handledAt, fun _ _ _ => pending_open formed reached member pending⟩
  · obtain ⟨caller, closing⟩ := reached_closed formed noDiffs reached row member pending
    obtain ⟨action, remark, closed, facts⟩ := closing
    exact .inr ⟨caller, ⟨action, remark, closed, facts⟩, fun other _ _ another =>
      reached_closedOnce formed reached _ _ _ _ _ _ _ another closed⟩

end Handling

section Consistency

variable {P : Platform} {first : Shared Db} {past : List Trade} {system : Trade}
  {serves : Call → Prop}

/-- Between two moments of a run the database only evolves. -/
theorem run_evolves (formed : WellFormed P.collate first)
    (run : Runs P (Admits serves) first past system) :
    ∀ earlier ∈ past, Evolves earlier.shared.committed system.shared.committed :=
  Transitions.Run.related
    (fun earlier later : Trade => Evolves earlier.shared.committed later.shared.committed)
    (fun _ _ _ => Evolves.trans)
    (fun _ _ _ reached _ taken => reached_evolves formed reached taken) run

/-- The reconciliation store is consistent: one batch for a date and channel, differences with
their batch and as classified, and none closed twice. -/
structure Consistent (P : Platform) (past : List Trade) (system : Trade) : Prop where
  oneBatch : ∀ one ∈ system.shared.committed.batches, ∀ two ∈ system.shared.committed.batches,
    one.val.billDate = two.val.billDate → P.collate one.val.channel = P.collate two.val.channel →
    one = two
  owned : ∀ row ∈ system.shared.committed.diffs,
    ∃! batch, batch ∈ system.shared.committed.batches ∧ batch.val.batchNo = row.val.batchNo
  reported : ∀ batch ∈ system.shared.committed.batches,
    ∃ origin, Reported P past system batch origin
  counted : ∀ batch ∈ system.shared.committed.batches,
    batch.val.diffCount = (system.shared.committed.classifiedOf batch.val.batchNo).length ∧
    batch.val.status =
      if system.shared.committed.classifiedOf batch.val.batchNo = [] then .kBalanced else .kHasDiff
  resolved : ∀ row ∈ system.shared.committed.diffs, Resolved system row
  kept : ∀ earlier ∈ past, ∀ row ∈ earlier.shared.committed.diffs,
    ∃ later ∈ system.shared.committed.diffs, later.id = row.id ∧
      later.val = { row.val with
        handleStatus := later.val.handleStatus
        handleRemark := later.val.handleRemark
        handledAt := later.val.handledAt } ∧
      (row.val.handleStatus ≠ .kPending → later = row)

/-- In every run of concurrent service calls that starts without batches and differences, with
faults at any request, the reconciliation store is consistent at every moment. A run writes
its batch and all its differences in one transaction, so no reader finds a part of them; texts
are compared as their columns store them. -/
theorem run_consistent (formed : WellFormed P.collate first)
    (noBatches : first.committed.batches = []) (noDiffs : first.committed.diffs = [])
    (run : Runs P (Admits fun _ => True) first past system) : Consistent P past system := by
  have keys := (reached_locking formed run.reached).inv.1.schema
  have reported := run_reported formed noBatches noDiffs run
  refine
    { oneBatch := ?_
      owned := ?_
      reported := reported
      counted := ?_
      resolved := reached_resolved formed noDiffs run.reached
      kept := fun earlier member => (run_evolves formed run earlier member).diffs }
  · intro one first two second date channel
    exact keys.batchDate.eq_of_key first second (by rw [date, channel])
  · intro row member
    obtain ⟨batch, present, same⟩ := reached_owned formed noDiffs run.reached row member
    refine ⟨batch, ⟨present, same⟩, ?_⟩
    rintro other ⟨stored, again⟩
    exact keys.batchNo.eq_of_key stored present (by rw [again, same])
  · intro batch member
    obtain ⟨origin, report⟩ := reported batch member
    have count := congrArg ReconcileBatch.diffCount report.totals
    have status := congrArg ReconcileBatch.status report.totals
    simp only [report.diffs, List.length_map, List.map_eq_nil_iff]
    exact ⟨count, by simpa [ReconcileService.buildBatch] using status⟩

end Consistency

/-- A schedule without further conditions, with its past. -/
theorem Shop.runFrom_runs {first : Shared Db} {schedule : Schedule} {system : Trade}
    (ran : Shop.runFrom first (fun _ _ => true) schedule = some system) :
    ∃ past, Runs Shop.platform (Admits fun _ => True) first past system :=
  Transitions.Reached.run (reached_of_run ran)

/-- The day is reconciled with an empty bill, which leaves one difference, and the
difference is verified. -/
theorem shop_consistent : ∃ past system,
    Runs Shop.platform (Admits fun _ => True) Shop.settled past system ∧
      system.shared.committed.batches.map (·.val.diffCount) = [1] ∧
      system.shared.committed.diffs.map (fun row => (row.val.handleStatus, row.val.handleRemark)) =
        [(.kVerified, "checked")] ∧
      Consistent Shop.platform past system := by
  have executed : ((Shop.runFrom Shop.settled (fun _ _ => true)
      (.call (Shop.reconcile "") :: Shop.advances 0 "7003" 8 ++
        .call (.handleDiff 101 "verify" "checked") :: Shop.advances 1 "" 3)).map fun system =>
      (system.shared.committed.batches.map (·.val.diffCount),
        system.shared.committed.diffs.map fun row => (row.val.handleStatus, row.val.handleRemark))) =
      some ([1], [(.kVerified, "checked")]) := by decide +kernel
  obtain ⟨system, ran, shown⟩ := Option.map_eq_some_iff.mp executed
  obtain ⟨batches, diffs⟩ := Prod.mk.inj shown
  obtain ⟨past, run⟩ := Shop.runFrom_runs ran
  exact ⟨past, system, run, batches, diffs,
    run_consistent Shop.settled_formed rfl rfl run⟩

namespace Shop

/-- A payment that the shop does not know, with a space past the column of its number. -/
def paddedBill : String := paddedTradeNo ++ ",7001,39.90,2026-09-13 12:58:16\n"

/-- A remark that fills its column, with a space behind it. -/
def paddedRemark : String := String.ofList (List.replicate 255 'r' ++ [' '])

/-- Reconcile with that bill and verify the second difference with that remark. -/
def cutTexts : Schedule :=
  .call (reconcile paddedBill) :: advances 0 "7003" 9 ++
    .call (.handleDiff 102 "verify" paddedRemark) :: advances 1 "" 3

/-- Whether the handling of that difference has answered code 0. -/
def verified (system : Trade) : Bool :=
  system.calls[1]?.any fun active => match active.call, active.program with
    | .handleDiff diffId "verify" remark, .done (.reply result) =>
      diffId == 102 && remark == paddedRemark && result.isOk
    | _, _ => false

/-- The decidable form of the end of the run. -/
theorem verified_closedBy {system : Trade} (test : verified system = true) :
    ClosedBy system 102 1 "verify" paddedRemark := by
  obtain ⟨⟨call, program, session⟩, present, test⟩ := (Option.any_eq_true _ _).mp test
  simp only at test
  split at test
  · rename_i diffId remark result
    simp only [Bool.and_eq_true, beq_iff_eq] at test
    obtain ⟨⟨rfl, rfl⟩, success⟩ := test
    exact ⟨result, session, present, success⟩
  · cases test

end Shop

/-- The difference of the unknown payment is stored with another trade number than the one
that was classified, and closed with another remark than the one of the call that closed
it: both texts had a space past the end of their columns. -/
theorem shop_cutTexts : ∃ past system locals channels row,
    Runs Shop.platform (Admits fun _ => True) Shop.settled past system ∧
      LocalSide Shop.platform.collate "2026-09-13" Shop.settled.committed locals ∧
      ReconcileService.parseBill Shop.paddedBill = some channels ∧
      system.shared.committed.batches.map (·.val.batchNo) = ["7003"] ∧
      system.shared.committed.classifiedOf "7003" ≠ classifyReconcileDiffs locals channels ∧
      row ∈ system.shared.committed.diffs ∧ ClosedBy system row.id 1 "verify" Shop.paddedRemark ∧
      row.val.handleRemark ≠ Shop.paddedRemark := by
  let locals : List ReconcileSideRow := [⟨"T1", "7001", 3990⟩]
  let channels : List ReconcileSideRow := [⟨Shop.paddedTradeNo, "7001", 3990⟩]
  have executed : ((Shop.runFrom Shop.settled (fun _ _ => true) Shop.cutTexts).map fun system =>
      (system.shared.committed.batches.map (·.val.batchNo),
        decide (system.shared.committed.classifiedOf "7003" = classifyReconcileDiffs locals channels),
        system.shared.committed.diffs.map (fun row => (row.id, row.val.handleRemark.utf8ByteSize)),
        Shop.verified system)) =
      some (["7003"], false, [(101, 0), (102, 255)], true) := by decide +kernel
  obtain ⟨system, ran, shown⟩ := Option.map_eq_some_iff.mp executed
  simp only [Prod.mk.injEq, decide_eq_false_iff_not] at shown
  obtain ⟨batches, classified, diffs, verified⟩ := shown
  obtain ⟨past, run⟩ := Shop.runFrom_runs ran
  have second : (102, 255) ∈ system.shared.committed.diffs.map fun row =>
      (row.id, row.val.handleRemark.utf8ByteSize) := by simp [diffs]
  obtain ⟨row, member, facts⟩ := List.mem_map.mp second
  obtain ⟨number, size⟩ := Prod.mk.inj facts
  have whole : Shop.paddedRemark.utf8ByteSize = 256 := by decide +kernel
  refine ⟨past, system, locals, channels, row, run, ⟨_, rfl, by decide +kernel⟩,
    by decide +kernel, batches, classified, member, ?_, fun same => ?_⟩
  · rw [number]
    exact Shop.verified_closedBy verified
  · rw [same, whole] at size
    cases size

section Totals

variable {P : Platform} {first : Shared Db} {past : List Trade} {system : Trade}
  {serves : Call → Prop}

/-- The batch counts the payments of its day in the database and adds them up, in 64
bits. -/
def DayTotals (collate : String → String) (db : Db) (batch : ReconcileBatch) (day : Int) : Prop :=
  batch.totalCount = (db.paymentsOfDay collate batch.channel day).length ∧
    batch.totalAmountFen =
      wrap64 ((db.paymentsOfDay collate batch.channel day).map fun row => row.val.amountFen).sum

/-- The payments of a day: successful, of the channel, with a callback time in the day's
window. -/
theorem paymentsOfDay_mem {collate : String → String} {db : Db} {channel : String} {day : Int}
    {row : Row Payment} : row ∈ db.paymentsOfDay collate channel day ↔
      row ∈ db.payments ∧ collate row.val.channel = collate channel ∧
        row.val.status = .kSuccess ∧ BeijingTime.inWindow day row.val.callbackTime = true := by
  simp [Db.paymentsOfDay, List.mem_mergeSort, and_assoc]

/-- No payment is counted twice. -/
theorem paymentsOfDay_nodup {collate : String → String} {db : Db} (keys : Schema collate db)
    (channel : String) (day : Int) : (db.paymentsOfDay collate channel day).Nodup := by
  have rows : db.payments.Nodup := List.Nodup.of_map _ keys.paymentIds
  exact (List.mergeSort_perm _ _).nodup_iff.mpr (rows.filter _)

/-- A day whose payments only grow has the same totals exactly when it has the same
payments. -/
theorem dayTotals_iff {collate : String → String} {before after : Db} {batch : ReconcileBatch}
    {day : Int} (keysBefore : Schema collate before) (keysAfter : Schema collate after)
    (grown : before.payments ⊆ after.payments) (totals : DayTotals collate before batch day) :
    DayTotals collate after batch day ↔
      ∀ row ∈ after.paymentsOfDay collate batch.channel day, row ∈ before.payments := by
  have inside : before.paymentsOfDay collate batch.channel day ⊆
      after.paymentsOfDay collate batch.channel day := by
    intro row member
    obtain ⟨stored, selected⟩ := paymentsOfDay_mem.mp member
    exact paymentsOfDay_mem.mpr ⟨grown stored, selected⟩
  have covered := List.subperm_of_subset (paymentsOfDay_nodup keysBefore batch.channel day) inside
  obtain ⟨count, amount⟩ := totals
  constructor
  · rintro ⟨countAfter, -⟩ row member
    have same := covered.perm_of_length_le (by omega)
    exact (paymentsOfDay_mem.mp (same.mem_iff.mpr member)).1
  · intro nothingNew
    have back : after.paymentsOfDay collate batch.channel day ⊆
        before.paymentsOfDay collate batch.channel day := by
      intro row member
      exact paymentsOfDay_mem.mpr ⟨nothingNew row member, (paymentsOfDay_mem.mp member).2⟩
    have same := (covered.antisymm
      (List.subperm_of_subset (paymentsOfDay_nodup keysAfter batch.channel day) back)).symm
    rw [DayTotals, same.length_eq, (same.map _).sum_eq]
    exact ⟨count, amount⟩

/-- The totals of a batch are those of an earlier moment of the run, the snapshot of the call
that wrote it. They are those of the present exactly when every payment of the day that is
there now was there then: payments are only ever added. -/
theorem run_dayTotals (formed : WellFormed P.collate first)
    (noBatches : first.committed.batches = []) (noDiffs : first.committed.diffs = [])
    (run : Runs P (Admits fun _ => True) first past system) :
    ∀ batch ∈ system.shared.committed.batches, ∃ origin day,
      Reported P past system batch origin ∧
      BeijingTime.parseDateTime (batch.val.billDate ++ " 00:00:00") = some day ∧
      DayTotals P.collate origin.snapshot.shared.committed batch.val day ∧
      (DayTotals P.collate system.shared.committed batch.val day ↔
        ∀ row ∈ system.shared.committed.paymentsOfDay P.collate batch.val.channel day,
          row ∈ origin.snapshot.shared.committed.payments) := by
  intro batch member
  obtain ⟨origin, reported⟩ := run_reported formed noBatches noDiffs run batch member
  obtain ⟨day, dated, locals⟩ := reported.locals
  have channel : batch.val.channel = ReconcileService.kChannel := by rw [reported.totals]; rfl
  have totals : DayTotals P.collate origin.snapshot.shared.committed batch.val day := by
    have count := congrArg ReconcileBatch.totalCount reported.totals
    have amount := congrArg ReconcileBatch.totalAmountFen reported.totals
    simp only [ReconcileService.buildBatch, totalFen_eq, sideSum, locals] at count amount
    rw [DayTotals, channel]
    exact ⟨by simpa using count, by simpa [Function.comp_def] using amount⟩
  have early := run.past_reached _ reported.snapshot
  refine ⟨origin, day, reported, dated, totals, dayTotals_iff ?_ ?_ ?_ totals⟩
  · exact (reached_locking formed early).inv.1.schema
  · exact (reached_locking formed run.reached).inv.1.schema
  · exact (run_evolves formed run _ reported.snapshot).payments

namespace Shop

/-- The order of the day is still pending when the day is reconciled, with an empty
bill, and is paid afterwards. -/
def paidLate : Schedule :=
  .call (reconcile "") :: advances 0 "7003" 7 ++
    .call (callback "cb-00001" "T1") :: advances 1 "8001" 13

/-- The totals of the batches and the amounts of the payments of 13 September 2026. -/
def totals (system : Trade) : List (String × String × Int × Int) × List Int :=
  (system.shared.committed.batches.map fun row =>
      (row.val.billDate, row.val.channel, row.val.totalCount, row.val.totalAmountFen),
    (system.shared.committed.paymentsOfDay platform.collate "MOCK" 1789257600).map
      fun row => row.val.amountFen)

/-- The run in question. -/
theorem paidLate_runs : ∃ past system, Runs platform (Admits fun _ => True) ordered past system ∧
    totals system = ([("2026-09-13", "MOCK", 0, 0)], [3990]) := by
  have executed : (runFrom ordered (fun _ _ => true) paidLate).map totals =
      some ([("2026-09-13", "MOCK", 0, 0)], [3990]) := by decide +kernel
  obtain ⟨system, ran, shown⟩ := Option.map_eq_some_iff.mp executed
  obtain ⟨past, run⟩ := runFrom_runs ran
  exact ⟨past, system, run, shown⟩

end Shop

/-- A payment of the day commits after its reconciliation. The batch counts no payment of its
day, and the day has one. -/
theorem shop_paidLate : ∃ past system batch day,
    Runs Shop.platform (Admits fun _ => True) Shop.ordered past system ∧
      batch ∈ system.shared.committed.batches ∧ batch.val.channel = "MOCK" ∧
      BeijingTime.parseDateTime (batch.val.billDate ++ " 00:00:00") = some day ∧
      batch.val.totalCount ≠
        (system.shared.committed.paymentsOfDay Shop.platform.collate "MOCK" day).length ∧
      batch.val.totalAmountFen ≠
        ((system.shared.committed.paymentsOfDay Shop.platform.collate "MOCK" day).map
          fun row => row.val.amountFen).sum := by
  obtain ⟨past, system, run, shown⟩ := Shop.paidLate_runs
  obtain ⟨batches, payments⟩ := Prod.mk.inj shown
  obtain ⟨batch, rest, stored, batchTotals, -⟩ := List.map_eq_cons_iff.mp batches
  simp only [Prod.mk.injEq] at batchTotals
  obtain ⟨billDate, channel, count, amount⟩ := batchTotals
  refine ⟨past, system, batch, 1789257600, run, by simp [stored], channel, ?_, ?_, ?_⟩
  · rw [billDate]
    decide +kernel
  · have one := congrArg List.length payments
    rw [List.length_map] at one
    rw [count, one]
    decide
  · rw [amount, payments]
    decide

/-- The order of the day is paid before the day is reconciled, with an empty bill. -/
def Shop.paidEarly : Schedule :=
  .call (callback "cb-00001" "T1") :: advances 0 "8001" 13 ++
    .call (reconcile "") :: advances 1 "7003" 8

/-- The batch of a day with a payment has the totals of its snapshot, which counts it. -/
theorem shop_dayTotals : ∃ past system batch, ∃ (origin : Origin) (day : Int),
    Runs Shop.platform (Admits fun _ => True) Shop.ordered past system ∧
      batch ∈ system.shared.committed.batches ∧ batch.val.totalCount = 1 ∧
      batch.val.totalAmountFen = 3990 ∧ origin.snapshot ∈ past ∧
      DayTotals Shop.platform.collate origin.snapshot.shared.committed batch.val day := by
  have executed : (Shop.runFrom Shop.ordered (fun _ _ => true) Shop.paidEarly).map Shop.totals =
      some ([("2026-09-13", "MOCK", 1, 3990)], [3990]) := by decide +kernel
  obtain ⟨system, ran, shown⟩ := Option.map_eq_some_iff.mp executed
  obtain ⟨past, run⟩ := Shop.runFrom_runs ran
  obtain ⟨batch, rest, stored, counted, -⟩ := List.map_eq_cons_iff.mp (congrArg Prod.fst shown)
  simp only [Prod.mk.injEq] at counted
  have member : batch ∈ system.shared.committed.batches := by simp [stored]
  obtain ⟨origin, day, reported, -, totals, -⟩ :=
    run_dayTotals Shop.ordered_formed rfl rfl run batch member
  exact ⟨past, system, batch, origin, day, run, member, counted.2.2.1, counted.2.2.2,
    reported.snapshot, totals⟩

end Totals

end TradeReconcile
