import TradeReconcile.Messaging.MessageRelay
import TradeReconcile.Services.Reconcile

/-!
# Background tasks on the thread pool

Two timers start rounds: the message relay and the daily reconciliation. A timer
callback sets the task's `running_` flag and submits the round; the flag is cleared by
the last statement of the submitted function. The pool catches whatever leaves a
task, so an exception ends the round without that statement.
-/

namespace TradeReconcile

open Scripts Transactions

namespace ReconcileTask

def kChannel : String := "MOCK"

/-- The clock and the bill file, the query for the day's batch, and the requests of
the database program that `ReconcileService::run` is. -/
inductive Request where
  | todayBeijing
  | probe (billPath : String)
  | hasBatchForDate (billDate channel : String)
  | openBill (billPath : String)
  | ask
  | start
  | statement (s : Stmt)
  | commit
  | rollback
  | release

/-- What each call returns. -/
@[reducible] def Reply : Request → Type
  | .todayBeijing => String
  | .probe _ => Bool
  | .hasBatchForDate _ _ => Bool
  | .openBill _ => Option String
  | .ask => Env
  | .start => Unit
  | .statement s => Resp s
  | .commit => Unit
  | .rollback => Unit
  | .release => Unit

/-- A round of the task as code over these calls. -/
abbrev Check := Code Request Reply Fault

def request (r : Request) : Check (Reply r) := perform r

/-- A database program as code of the task. A failed request is an answer like any
other; what the program makes of it is in the program. -/
def ofProgram {α : Type} : Prog α →
    Script Request (fun r => Except Fault (Reply r)) (Except Fault α)
  | .done value => .done (.ok value)
  | .ask k => .call .ask (following fun env => ofProgram (k env))
  | .start k => .call .start fun reply => ofProgram (k reply)
  | .statement s k => .call (.statement s) fun reply => ofProgram (k reply)
  | .commit k => .call .commit fun reply => ofProgram (k reply)
  | .rollback k => .call .rollback (following fun _ => ofProgram k)
  | .release k => .call .release (following fun _ => ofProgram k)

/-- `service.run(billDate)`, which opens the bill a second time. -/
def runService (billDate billPath : String) : Check (Result Json) := do
  let bill : Option String ← request (.openBill billPath)
  ExceptT.mk (ofProgram (ReconcileService.run billDate bill))

/-- `checkAndRun`. The result of a run is only logged, so a failed run is tried again by the
next round. -/
def checkAndRun : Check Unit := do
  let billDate : String ← request .todayBeijing
  let billPath := "scripts/bills/bill_" ++ billDate ++ ".csv"
  if ← request (.probe billPath) then
    if ← request (.hasBatchForDate billDate kChannel) then
      return ()
    else
      let _ ← runService billDate billPath
      return ()
  else
    return ()

end ReconcileTask

/-- The tasks that timers start. -/
inductive Background where
  | messageRelay
  | reconcile
deriving DecidableEq, Repr

namespace Background

/-- The calls of each task. -/
@[reducible] def Request : Background → Type
  | .messageRelay => MessageRelayTask.Request
  | .reconcile => ReconcileTask.Request

/-- And what they return. -/
@[reducible] def Reply : (task : Background) → task.Request → Type
  | .messageRelay => MessageRelayTask.Reply
  | .reconcile => ReconcileTask.Reply

/-- What is left of a round. -/
abbrev Round (task : Background) : Type :=
  Script task.Request (fun r => Except Fault (task.Reply r)) (Except Fault Unit)

/-- The code of a round: what `runOnce` submits to the pool. -/
def round : (task : Background) → task.Round
  | .messageRelay => MessageRelayTask.relay
  | .reconcile => ReconcileTask.checkAndRun

/-- Database and queue calls may throw; the clock, the bill file and the end of a
transaction do not. -/
def mayThrow : (task : Background) → task.Request → Bool
  | .messageRelay, _ => true
  | .reconcile, .todayBeijing => false
  | .reconcile, .probe _ => false
  | .reconcile, .openBill _ => false
  | .reconcile, .ask => false
  | .reconcile, .rollback => false
  | .reconcile, .release => false
  | .reconcile, _ => true

/-- The calls outside of every try block. An exception from one of these leaves the round
before `running_` is cleared. -/
def uncaught : (task : Background) → task.Request → Bool
  | .messageRelay, .mqClient => true
  | .messageRelay, .scanPending _ => true
  | .messageRelay, _ => false
  | .reconcile, .hasBatchForDate _ _ => true
  | .reconcile, _ => false

end Background

/-- An element of `tasks_`: a round, or a function submitted by other code. -/
inductive Job where
  | round (task : Background)
  | other
deriving DecidableEq, Repr

/-- A thread of the pool. -/
inductive Worker where
  | waiting
  | executing (task : Background) (rest : task.Round)
  | other

namespace Worker

/-- What a worker does with the job it has taken. -/
def start : Job → Worker
  | .round task => .executing task task.round
  | .other => .other

/-- The worker is in a round of this task. -/
def executes (task : Background) : Worker → Bool
  | .executing current _ => decide (current = task)
  | _ => false

end Worker

/-- The flags of the tasks and the pool, which accepts tasks. -/
structure Pool where
  running : Background → Bool
  tasks : List Job
  workers : List Worker

namespace Pool

/-- The pool after its construction. -/
def initial (threadCount : Nat) : Pool :=
  ⟨fun _ => false, [], List.replicate threadCount .waiting⟩

/-- The rounds of a task that are queued or executing. -/
def rounds (pool : Pool) (task : Background) : Nat :=
  pool.tasks.count (.round task) + pool.workers.countP (Worker.executes task)

/-- The flag of a task. -/
def setRunning (pool : Pool) (task : Background) (value : Bool) : Pool :=
  { pool with running := Function.update pool.running task value }

/-- What a worker of the pool does. -/
def setWorker (pool : Pool) (index : Nat) (worker : Worker) : Pool :=
  { pool with workers := pool.workers.set index worker }

/-- A job at the end of the queue. -/
def submit (pool : Pool) (job : Job) : Pool := { pool with tasks := pool.tasks ++ [job] }

/-- The timer callback: skip when the flag is set, else set it and submit. -/
def runOnce (pool : Pool) (task : Background) : Pool :=
  if pool.running task then pool else (pool.setRunning task true).submit (.round task)

/-- The scheduler's choices. A worker performs its next call, with the reply that
the schedule provides, or ends its task. -/
inductive Action where
  | tick (task : Background)
  | submit
  | take (worker : Nat)
  | perform (worker : Nat)
      (reply : (task : Background) → (r : task.Request) → Except Fault (task.Reply r))

/-- The next step of a worker's task. A round that returned clears its flag; the
exception of one that threw is logged. -/
def work (pool : Pool) (index : Nat)
    (reply : (task : Background) → (r : task.Request) → Except Fault (task.Reply r)) :
    Worker → Option Pool
  | .waiting => none
  | .other => some (pool.setWorker index .waiting)
  | .executing task (.done (.ok ())) =>
    some ((pool.setRunning task false).setWorker index .waiting)
  | .executing _ (.done (.error _)) => some (pool.setWorker index .waiting)
  | .executing task (.call r k) =>
    if (reply task r).isOk || task.mayThrow r then
      some (pool.setWorker index (.executing task (k (reply task r))))
    else none

/-- The steps of the timers, the submitters and the workers. -/
def step (pool : Pool) : Action → Option Pool
  | .tick task => some (pool.runOnce task)
  | .submit => some (pool.submit .other)
  | .take index =>
    match pool.workers[index]?, pool.tasks with
    | some .waiting, job :: rest =>
      some ({ pool with tasks := rest }.setWorker index (.start job))
    | _, _ => none
  | .perform index reply => pool.workers[index]?.bind (pool.work index reply)

end Pool

end TradeReconcile
