import Mathlib.Logic.Relation
import TradeReconcile.Transitions

/-!
# The thread pool

A queue behind a mutex and a condition variable, a fixed number of workers, and a
destructor. Each section under the mutex is one step. A worker evaluates the wait's
predicate in such a section: it leaves its loop, takes the front task or blocks. A
notification wakes one blocked worker that the scheduler chooses, and any blocked worker
may wake without one. Tasks are functions that the pool only moves; every one that is
submitted gets a number, so that two submissions of one function are told apart.
-/

namespace TradeReconcile.ThreadPool

universe u
variable {Task : Type u}

/-- A submitted function. -/
structure Ticket (Task : Type u) where
  number : Nat
  task : Task

/-- Where a worker is in its loop: about to lock the mutex, blocked in the wait, in a
task, or out of the loop. -/
inductive Worker (Task : Type u) where
  | locking
  | waiting
  | running (ticket : Ticket Task)
  | returned

/-- How a task ends. -/
inductive Ending where
  | returned
  | stdException
  | otherException

/-- The members of the pool, with the threads as far as they have got. -/
structure Pool (Task : Type u) where
  tasks : List (Ticket Task)
  stopped : Bool
  threads : List (Worker Task)

/-- `submit` up to its notification. An empty function is refused without the lock, any other
once the pool is stopped; an accepted one joins the end of the queue. -/
def submit (number : Nat) (task : Option Task) (pool : Pool Task) : Bool × Pool Task :=
  match task with
  | none => (false, pool)
  | some task =>
    if pool.stopped then (false, pool)
    else (true, { pool with tasks := pool.tasks ++ [⟨number, task⟩] })

/-- A worker's section under the mutex: the wait's predicate `stopped_ || !tasks_.empty()`
fails and it blocks, or holds and it returns or takes the front task. -/
def workerLoop (pool : Pool Task) : Worker Task × List (Ticket Task) :=
  match pool.tasks with
  | [] => if pool.stopped then (.returned, []) else (.waiting, [])
  | ticket :: rest => (.running ticket, rest)

/-- The worker after its task. Both catch clauses log, and the loop goes on. -/
def afterTask : Ending → Worker Task
  | .returned => .locking
  | .stdException => .locking
  | .otherException => .locking

/-- How far the destructor has got: not called, `stopped_` set, all notified, all joined. -/
inductive Destructor where
  | notCalled
  | stopping
  | joining
  | joined
deriving DecidableEq

/-- The pool with the submissions that have not notified yet, and its past: how many
submissions there were, which of them returned true, which tasks were started and which
have ended. -/
structure State (Task : Type u) where
  pool : Pool Task
  notifications : Nat
  destructor : Destructor
  submissions : Nat
  accepted : List (Ticket Task)
  started : List (Ticket Task)
  finished : List (Ticket Task)

/-- The pool after its construction. -/
def initial (threadCount : Nat) : State Task where
  pool := ⟨[], false, List.replicate threadCount .locking⟩
  notifications := 0
  destructor := .notCalled
  submissions := 0
  accepted := []
  started := []
  finished := []

/-- The steps of submitters, workers and the destructor. -/
inductive Action (Task : Type u) where
  | submit (task : Option Task)
  | notifyOne (woken : Option Nat)
  | wakeUp (thread : Nat)
  | lock (thread : Nat)
  | endTask (thread : Nat) (ending : Ending)
  | stop
  | notifyAll
  | join

/-- Blocked in `cv_.wait`. -/
def isWaiting : Worker Task → Bool
  | .waiting => true
  | _ => false

/-- Out of its loop. -/
def isReturned : Worker Task → Bool
  | .returned => true
  | _ => false

/-- A notified worker contends for the lock again; notifying another one has no effect. -/
def wake : Worker Task → Worker Task
  | .waiting => .locking
  | worker => worker

/-- Where a thread of the pool is. -/
def State.setThread (state : State Task) (thread : Nat) (worker : Worker Task) : State Task :=
  { state with pool := { state.pool with threads := state.pool.threads.set thread worker } }

/-- The task that a worker has taken from the queue is started. -/
def State.begin (state : State Task) : Worker Task → State Task
  | .running ticket => { state with started := state.started ++ [ticket] }
  | _ => state

/-- One step. A call on a pool that is destroyed is none. Any worker may wake up without a
notification, and which one a notification wakes is open. -/
def step (state : State Task) : Action Task → Option (State Task)
  | .submit task =>
    if state.destructor = .joined then none
    else
      let (reply, pool) := submit state.submissions task state.pool
      let next := { state with pool := pool, submissions := state.submissions + 1 }
      if reply then
        some { next with
          notifications := state.notifications + 1
          accepted := state.accepted ++ (task.map (Ticket.mk state.submissions)).toList }
      else some next
  | .notifyOne woken =>
    if state.notifications = 0 then none
    else
      let next := { state with notifications := state.notifications - 1 }
      match woken with
      | some thread =>
        match state.pool.threads[thread]? with
        | some .waiting => some (next.setThread thread .locking)
        | _ => none
      | none => if state.pool.threads.any isWaiting then none else some next
  | .wakeUp thread =>
    match state.pool.threads[thread]? with
    | some .waiting => some (state.setThread thread .locking)
    | _ => none
  | .lock thread =>
    match state.pool.threads[thread]? with
    | some .locking =>
      let (worker, tasks) := workerLoop state.pool
      let next := { state with pool := { state.pool with tasks := tasks } }
      some ((next.setThread thread worker).begin worker)
    | _ => none
  | .endTask thread ending =>
    match state.pool.threads[thread]? with
    | some (.running ticket) =>
      let next := { state with finished := state.finished ++ [ticket] }
      some (next.setThread thread (afterTask ending))
    | _ => none
  | .stop =>
    if state.destructor = .notCalled then
      some { state with
        pool := { state.pool with stopped := true }
        destructor := .stopping }
    else none
  | .notifyAll =>
    if state.destructor = .stopping then
      some { state with
        pool := { state.pool with threads := state.pool.threads.map wake }
        destructor := .joining }
    else none
  | .join =>
    if state.destructor = .joining ∧ state.pool.threads.all isReturned then
      some { state with destructor := .joined }
    else none

end TradeReconcile.ThreadPool
