import Mathlib.Data.List.Nodup
import TradeReconcile.Transactions.Program

/-!
# Programs over a pool of connections

Calls run on a fixed number of workers and share a fixed number of connections. A
transaction keeps the connection it was opened on until it is committed or rolled
back; a statement outside of transactions takes a connection for itself. A request that
needs a connection has no step while all of them are kept. A deadlock of the pool is a
state in which every connection is kept by a call that waits for a further one.
-/

namespace Transactions

variable {Db Change Lock Stmt : Type} {Resp : Stmt → Type} {Env Fault α Call : Type}

namespace Program

/-- The next request needs a connection of its own: it starts a transaction, runs on the
client, or has no connection to run on. -/
def wants (E : Engine Db Change Lock Stmt Resp Env Fault) (holding : Bool) :
    Program Stmt Resp Env Fault α → Bool
  | .start _ => true
  | .statement s _ => E.source s == .client || !holding
  | _ => false

/-- The program has not ended. -/
def running : Program Stmt Resp Env Fault α → Bool
  | .done _ => false
  | _ => true

/-- The callers that keep a connection after the next request of one of them. -/
def keeps (caller : Nat) (holders : List Nat) : Program Stmt Resp Env Fault α → List Nat
  | .start _ => holders.insert caller
  | .commit _ => holders.erase caller
  | .rollback _ => holders.erase caller
  | .release _ => holders.erase caller
  | _ => holders

/-- Only a call that is not done wants a connection. -/
theorem running_of_wants {E : Engine Db Change Lock Stmt Resp Env Fault} {holding : Bool}
    {program : Program Stmt Resp Env Fault α} (wants : program.wants E holding = true) :
    program.running = true := by
  cases program <;> first | rfl | cases wants

/-- No call is listed twice among the holders of a connection. -/
theorem keeps_nodup {caller : Nat} {holders : List Nat} (distinct : holders.Nodup)
    (program : Program Stmt Resp Env Fault α) : (program.keeps caller holders).Nodup := by
  cases program with
  | start => exact distinct.insert
  | commit | rollback | release => exact distinct.erase caller
  | done | ask | statement => exact distinct

end Program

/-- A system of calls, with the callers whose transactions keep a connection. -/
structure Pooled (Call Stmt : Type) (Resp : Stmt → Type) (Env Fault α Db Change Lock : Type) where
  system : System Call Stmt Resp Env Fault α Db Change Lock
  holders : List Nat

namespace Pooled

/-- No calls and no connection in use. -/
def initial (shared : Shared Db) : Pooled Call Stmt Resp Env Fault α Db Change Lock :=
  ⟨.initial shared, []⟩

/-- The call occupies a worker. -/
def runs (calls : List (Active Call Stmt Resp Env Fault α Db Change Lock)) (caller : Nat) : Bool :=
  calls[caller]?.any fun active => active.program.running

/-- The occupied workers. -/
def busy (pooled : Pooled Call Stmt Resp Env Fault α Db Change Lock) : Nat :=
  (List.range pooled.system.calls.length).countP (runs pooled.system.calls)

/-- The caller's next request finds a connection, if it needs one. -/
def served (E : Engine Db Change Lock Stmt Resp Env Fault) (connections : Nat)
    (pooled : Pooled Call Stmt Resp Env Fault α Db Change Lock) (caller : Nat)
    (program : Program Stmt Resp Env Fault α) : Bool :=
  !program.wants E (caller ∈ pooled.holders) || pooled.holders.length < connections

/-- One step. A call needs a worker, and a request that needs a connection an idle one;
a request that fails takes none. -/
def step [DecidableEq Lock] (E : Engine Db Change Lock Stmt Resp Env Fault)
    (program : Call → Program Stmt Resp Env Fault α) (connections workers : Nat)
    (pooled : Pooled Call Stmt Resp Env Fault α Db Change Lock) :
    Action Call Env Fault → Option (Pooled Call Stmt Resp Env Fault α Db Change Lock)
  | .call call =>
    if pooled.busy < workers then
      (pooled.system.step E program (.call call)).map fun next => ⟨next, pooled.holders⟩
    else none
  | .advance caller env =>
    match pooled.system.calls[caller]? with
    | none => none
    | some active =>
      if pooled.served E connections caller active.program then
        (pooled.system.step E program (.advance caller env)).map fun next =>
          ⟨next, active.program.keeps caller pooled.holders⟩
      else none
  | .interrupt caller fault =>
    (pooled.system.step E program (.interrupt caller fault)).map fun next =>
      ⟨next, pooled.holders⟩

/-- Every connection is kept by a call whose next request needs a further one. -/
def Deadlocked (E : Engine Db Change Lock Stmt Resp Env Fault) (connections : Nat)
    (pooled : Pooled Call Stmt Resp Env Fault α Db Change Lock) : Prop :=
  pooled.holders.length = connections ∧ ∀ caller ∈ pooled.holders,
    ∃ active, pooled.system.calls[caller]? = some active ∧ active.program.wants E true = true

/-- The workers bound the calls that run, and no call keeps two connections. -/
structure Bounded (workers : Nat) (pooled : Pooled Call Stmt Resp Env Fault α Db Change Lock) :
    Prop where
  busy_le : pooled.busy ≤ workers
  distinct : pooled.holders.Nodup

section Requests

variable {E : Engine Db Change Lock Stmt Resp Env Fault} {connections : Nat}
  {pooled next : Pooled Call Stmt Resp Env Fault α Db Change Lock}

/-- A request is made by a call that runs. -/
theorem advance_runs {held : Lock → Bool} {env : Env} {here there : Program Stmt Resp Env Fault α}
    {session after : Session Db Change Lock} {shared later : Shared Db}
    (ran : advance E held env here session shared = some (there, after, later)) :
    here.running = true := by
  cases here <;> first | rfl | cases ran

/-- Only a call that is not done fails. -/
theorem interrupt_runs {fault : Fault} {here there : Program Stmt Resp Env Fault α}
    {session after : Session Db Change Lock}
    (ran : interrupt E fault here session = some (there, after)) : here.running = true := by
  cases here <;> first | rfl | cases ran

/-- A call occupies a worker while its program is not done. -/
theorem runs_iff {calls : List (Active Call Stmt Resp Env Fault α Db Change Lock)} {caller : Nat} :
    runs calls caller = true ↔
      ∃ active, calls[caller]? = some active ∧ active.program.running = true :=
  Option.any_eq_true _ _

/-- Replacing a call that runs leaves no more calls running. -/
theorem runs_set {calls : List (Active Call Stmt Resp Env Fault α Db Change Lock)}
    {caller : Nat} {active moved : Active Call Stmt Resp Env Fault α Db Change Lock}
    (present : calls[caller]? = some active) (running : active.program.running = true)
    {other : Nat} (goes : runs (calls.set caller moved) other = true) : runs calls other = true := by
  obtain ⟨found, stored, still⟩ := runs_iff.mp goes
  rcases getElem?_set_cases stored with ⟨rfl, -⟩ | ⟨-, old⟩
  · exact runs_iff.mpr ⟨active, present, running⟩
  · exact runs_iff.mpr ⟨found, old, still⟩

/-- A step that replaces a call that runs. -/
theorem busy_set {caller : Nat} {active moved : Active Call Stmt Resp Env Fault α Db Change Lock}
    (present : pooled.system.calls[caller]? = some active)
    (running : active.program.running = true)
    (calls : next.system.calls = pooled.system.calls.set caller moved) :
    next.busy ≤ pooled.busy := by
  unfold busy
  rw [calls, List.length_set]
  exact List.countP_mono_left fun other _ goes => runs_set present running goes

/-- A deadlock occupies a worker for every connection. -/
theorem Deadlocked.connections_le (deadlocked : pooled.Deadlocked E connections)
    (distinct : pooled.holders.Nodup) : connections ≤ pooled.busy := by
  have waiting : pooled.holders ⊆
      (List.range pooled.system.calls.length).filter (runs pooled.system.calls) := by
    intro caller holds
    obtain ⟨active, present, wants⟩ := deadlocked.2 caller holds
    refine List.mem_filter.mpr ⟨List.mem_range.mpr (List.getElem?_eq_some_iff.mp present).1, ?_⟩
    exact runs_iff.mpr ⟨active, present, Program.running_of_wants wants⟩
  rw [← deadlocked.1, busy, List.countP_eq_length_filter]
  exact (List.subperm_of_subset distinct waiting).length_le

end Requests

variable [DecidableEq Lock] {E : Engine Db Change Lock Stmt Resp Env Fault}
  {program : Call → Program Stmt Resp Env Fault α} {connections workers : Nat}
  {pooled next : Pooled Call Stmt Resp Env Fault α Db Change Lock}

/-- In a deadlock no holder's request is served. -/
theorem Deadlocked.stuck (deadlocked : pooled.Deadlocked E connections) {caller : Nat}
    (holds : caller ∈ pooled.holders) (env : Env) :
    pooled.step E program connections workers (.advance caller env) = none := by
  obtain ⟨active, present, wants⟩ := deadlocked.2 caller holds
  have unserved : pooled.served E connections caller active.program = false := by
    simp [served, holds, wants, deadlocked.1]
  simp [step, present, unserved]

/-- No more calls run than there are workers. A call enters only when a worker is free and
occupies it until it has answered, whether or not it holds a connection meanwhile. -/
theorem step_bounded {action : Action Call Env Fault} (bounded : pooled.Bounded workers)
    (taken : pooled.step E program connections workers action = some next) :
    next.Bounded workers := by
  obtain ⟨busy_le, distinct⟩ := bounded
  cases action with
  | call call =>
    simp only [step] at taken
    split at taken
    · rename_i free
      cases taken
      refine ⟨?_, distinct⟩
      have same : ∀ caller ∈ List.range pooled.system.calls.length,
          runs (pooled.system.calls ++ [⟨call, program call, .idle⟩]) caller =
            runs pooled.system.calls caller := by
        intro caller inside
        rw [runs, List.getElem?_append_left (List.mem_range.mp inside), runs]
      have grown : (List.range pooled.system.calls.length).countP
          (runs (pooled.system.calls ++ [⟨call, program call, .idle⟩])) = pooled.busy :=
        List.countP_congr fun caller inside => by rw [same caller inside]
      have one := List.countP_le_length
        (p := runs (pooled.system.calls ++ [⟨call, program call, .idle⟩]))
        (l := [pooled.system.calls.length])
      simp only [busy, List.length_append, List.length_singleton, List.range_succ,
        List.countP_append] at grown one ⊢
      rw [grown]
      unfold busy at free
      omega
    · cases taken
  | advance caller env =>
    simp only [step] at taken
    split at taken
    · cases taken
    · rename_i active present
      split at taken
      · obtain ⟨system, moved, rfl⟩ := Option.map_eq_some_iff.mp taken
        refine ⟨?_, Program.keeps_nodup distinct _⟩
        simp only [System.step, present] at moved
        split at moved
        · cases moved
        · rename_i there session shared ran
          cases moved
          exact (busy_set present (advance_runs ran) rfl).trans busy_le
      · cases taken
  | interrupt caller fault =>
    simp only [step] at taken
    obtain ⟨system, moved, rfl⟩ := Option.map_eq_some_iff.mp taken
    refine ⟨?_, distinct⟩
    simp only [System.step] at moved
    split at moved
    · cases moved
    · rename_i active present
      split at moved
      · cases moved
      · rename_i there session ran
        cases moved
        exact (busy_set present (interrupt_runs ran) rfl).trans busy_le

/-- Fewer workers than connections: the pool does not deadlock. In a deadlock every
connection is kept by a call, each call keeps one at most, and no more calls run than there
are workers. -/
theorem reached_deadlockFree {first : Shared Db} (fewer : workers < connections)
    (reached : Transitions.Reached (step E program connections workers) (fun _ _ => True)
      (.initial first) pooled) : ¬pooled.Deadlocked E connections := by
  have bounded : pooled.Bounded workers := by
    refine reached.invariant ⟨Nat.zero_le _, List.nodup_nil⟩ ?_
    exact fun _ _ _ before _ taken => step_bounded before taken
  intro deadlocked
  have enough := deadlocked.connections_le bounded.distinct
  have few := bounded.busy_le
  omega

end Pooled

end Transactions
