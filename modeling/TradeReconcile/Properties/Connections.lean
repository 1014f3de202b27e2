import TradeReconcile.Services.Calls
import TradeReconcile.Transactions.Pool

/-!
# The connection pool under concurrent calls

`ReconcileService::run` opens its transaction and then asks `hasBatchForDate`, which
goes to the client and not to the transaction, for a connection of its own. As many
such calls as there are connections can each keep one and wait for another. No other
arrangement of calls is needed and none is worse: the pool can deadlock exactly if
there are at least as many workers as connections.
-/

namespace TradeReconcile

open Transactions

/-- Service calls on a number of workers, over a pool of connections. -/
abbrev PooledTrade := Pooled Call Stmt Resp Env Fault Answer Db Change Lock

/-- The states that calls of the services reach with so many connections and workers. -/
abbrev PoolReached (P : Platform) (connections workers : Nat) (first : Shared Db) :
    PooledTrade → Prop :=
  Transitions.Reached (Pooled.step (engine P.collate) (program P) connections workers)
    (fun _ _ => True) (.initial first)

/-- A reconciliation of a day without channel payments. -/
def emptyBill : Call := .reconcile "2025-10-09" (some "")

/-- That call once its transaction is open: it asks for the day's batch. -/
def askingForBatch (P : Platform) : Prog Answer :=
  match program P emptyBill with
  | .start k => k (.ok ())
  | other => other

/-- A reconciliation of an empty bill starts with a transaction, and in it asks whether the
date has a batch. -/
theorem emptyBill_starts (P : Platform) : ∃ k, program P emptyBill = .start k ∧
    k (.ok ()) = askingForBatch P := by
  have parsed : ReconcileService.parseBill "" = some [] := by decide
  simp only [askingForBatch, emptyBill, program, ReconcileService.run, parsed,
    Guarded.transaction, Program.bind]
  exact ⟨_, rfl, rfl⟩

/-- The question goes to the client. -/
theorem askingForBatch_wants (P : Platform) :
    (askingForBatch P).wants (engine P.collate) true = true := by
  have parsed : ReconcileService.parseBill "" = some [] := by decide
  simp only [askingForBatch, emptyBill, program, ReconcileService.run, parsed,
    Guarded.transaction, Program.bind]
  rfl

/-- A call that keeps a connection and waits for another one. -/
def waitingCall (P : Platform) : Active Call Stmt Resp Env Fault Answer Db Change Lock :=
  ⟨emptyBill, askingForBatch P, .idle⟩

/-- One more such call is made and opens its transaction, as long as there is a connection
left. It then holds this connection and waits for another one for its next request. -/
theorem waiting_step (P : Platform) {connections workers count : Nat} (shared : Shared Db)
    (enough : connections ≤ workers) (few : count < connections) {holders : List Nat}
    (held : holders.length = count) :
    Transitions.Reached (Pooled.step (engine P.collate) (program P) connections workers)
      (fun _ _ => True) ⟨⟨shared, List.replicate count (waitingCall P)⟩, holders⟩
      ⟨⟨shared, List.replicate (count + 1) (waitingCall P)⟩, holders.insert count⟩ := by
  obtain ⟨k, starts, asks⟩ := emptyBill_starts P
  let before : PooledTrade := ⟨⟨shared, List.replicate count (waitingCall P)⟩, holders⟩
  let called : PooledTrade :=
    ⟨⟨shared, List.replicate count (waitingCall P) ++ [⟨emptyBill, program P emptyBill, .idle⟩]⟩,
      holders⟩
  have free : before.busy < workers := by
    have most := List.countP_le_length (p := Pooled.runs before.system.calls)
      (l := List.range before.system.calls.length)
    simp only [before, List.length_range, List.length_replicate] at most
    unfold Pooled.busy
    simp only [before, List.length_replicate]
    omega
  have calling : before.step (engine P.collate) (program P) connections workers
      (.call emptyBill) = some called := by
    simp only [Pooled.step, free, if_true]
    rfl
  have present : called.system.calls[count]? = some ⟨emptyBill, program P emptyBill, .idle⟩ := by
    simp [called]
  have opening : called.step (engine P.collate) (program P) connections workers
      (.advance count ⟨none, 0⟩) =
      some ⟨⟨shared, List.replicate (count + 1) (waitingCall P)⟩, holders.insert count⟩ := by
    have served : called.served (engine P.collate) connections count (.start k) = true := by
      simp only [Pooled.served, called, held]
      simp [few]
    have grown : called.system.calls.set count (waitingCall P) =
        List.replicate (count + 1) (waitingCall P) := by
      simp [called, List.replicate_succ']
    simp only [Pooled.step, present, System.step, starts, advance, served, if_true,
      Option.map_some, asks]
    rw [← grown]
    rfl
  exact .step _ (.step _ .initial trivial calling) trivial opening

/-- Any number of such calls, up to the number of connections. -/
theorem waiting_reached (P : Platform) {connections workers : Nat} (first : Shared Db)
    (enough : connections ≤ workers) (count : Nat) (few : count ≤ connections) :
    ∃ holders : List Nat, holders.length = count ∧ (∀ caller ∈ holders, caller < count) ∧
      PoolReached P connections workers first
        ⟨⟨first, List.replicate count (waitingCall P)⟩, holders⟩ := by
  induction count with
  | zero => exact ⟨[], rfl, nofun, .initial⟩
  | succ count inductionHypothesis =>
    obtain ⟨holders, held, below, reached⟩ := inductionHypothesis (by omega)
    have fresh : count ∉ holders := fun member => Nat.lt_irrefl count (below count member)
    refine ⟨holders.insert count, ?_, ?_, reached.trans (waiting_step P first enough few held)⟩
    · rw [List.length_insert_of_not_mem fresh, held]
    · intro caller member
      rcases List.mem_insert_iff.mp member with rfl | old
      · exact Nat.lt_succ_self caller
      · exact Nat.lt_succ_of_lt (below caller old)

/-- With a worker for every connection a deadlock can be reached. -/
theorem deadlock_reached (P : Platform) {connections workers : Nat} (first : Shared Db)
    (enough : connections ≤ workers) :
    ∃ pooled, PoolReached P connections workers first pooled ∧
      pooled.Deadlocked (engine P.collate) connections := by
  obtain ⟨holders, held, below, reached⟩ :=
    waiting_reached P first enough connections (le_refl _)
  refine ⟨_, reached, held, fun caller holds => ⟨waitingCall P, ?_, askingForBatch_wants P⟩⟩
  simp [below caller holds]

/-- The pool can deadlock exactly if there is a worker for every connection, for any number of
either and any store. Left to right, as many reconciliations as there are connections each
hold one and wait for another; right to left, one connection is always free for the worker
that needs it. -/
theorem deadlockFree_iff (P : Platform) (connections workers : Nat) (first : Shared Db) :
    (∀ pooled, PoolReached P connections workers first pooled →
      ¬pooled.Deadlocked (engine P.collate) connections) ↔ workers < connections := by
  constructor
  · intro free
    by_contra enough
    obtain ⟨pooled, reached, deadlocked⟩ := deadlock_reached P first (Nat.le_of_not_lt enough)
    exact free pooled reached deadlocked
  · intro fewer pooled reached
    exact Pooled.reached_deadlockFree fewer reached

/-- With the configured four connections and eight workers, four reconciliations started
at the same time can block each other. -/
theorem configured_deadlocks : ∃ pooled, PoolReached Shop.platform 4 8 Shop.store pooled ∧
    pooled.Deadlocked (engine Shop.platform.collate) 4 :=
  deadlock_reached Shop.platform Shop.store (by decide)

end TradeReconcile
