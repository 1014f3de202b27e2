import Mathlib.Algebra.BigOperators.Group.List.Basic
import Mathlib.Algebra.Ring.Nat
import Mathlib.Data.List.Nodup
import Mathlib.Data.List.Perm.Basic
import TradeReconcile.ThreadPool

/-!
# No task of the pool is lost

Started tasks followed by queued ones are the accepted tasks in the order of their
acceptance, and started tasks are the ended ones and those in workers. So no task is lost,
duplicated or overtaken, in whatever order submitters, workers and the destructor take
their steps. Workers leave their loop only when the pool is stopped and the queue empty:
the destructor does not return before the accepted tasks have ended, although its comment
says that it drops those that have not started. Nothing blocks on the way. Left to itself
the pool makes finitely many steps, and it stands still only when nothing is left to do.
-/

namespace TradeReconcile.ThreadPool

open Transitions

universe u
variable {Task : Type u}

/-- What a step does, with everything that its guard has found. The invariants are proved from
this and do not unfold the step. -/
inductive Effect (state : State Task) : Action Task → State Task → Prop where
  | refused {task : Option Task} :
      Effect state (.submit task) { state with submissions := state.submissions + 1 }
  | accepted {task : Task} (open_ : state.pool.stopped = false) (present : state.destructor ≠ .joined) :
      Effect state (.submit (some task))
        { state with
          pool := { state.pool with tasks := state.pool.tasks ++ [⟨state.submissions, task⟩] }
          submissions := state.submissions + 1
          notifications := state.notifications + 1
          accepted := state.accepted ++ [⟨state.submissions, task⟩] }
  | notified {left right : List (Worker Task)} {thread : Nat} {notifications : Nat}
      (counted : state.notifications = notifications + 1)
      (split : state.pool.threads = left ++ .waiting :: right) :
      Effect state (.notifyOne (some thread))
        { state with
          notifications := notifications
          pool := { state.pool with threads := left ++ .locking :: right } }
  | unheard {notifications : Nat} (counted : state.notifications = notifications + 1)
      (nobody : state.pool.threads.any isWaiting = false) :
      Effect state (.notifyOne none) { state with notifications := notifications }
  | woken {left right : List (Worker Task)} {thread : Nat}
      (split : state.pool.threads = left ++ .waiting :: right) :
      Effect state (.wakeUp thread)
        { state with pool := { state.pool with threads := left ++ .locking :: right } }
  | blocked {left right : List (Worker Task)} {thread : Nat}
      (split : state.pool.threads = left ++ .locking :: right)
      (empty : state.pool.tasks = []) (open_ : state.pool.stopped = false) :
      Effect state (.lock thread)
        { state with pool := { state.pool with threads := left ++ .waiting :: right } }
  | returned {left right : List (Worker Task)} {thread : Nat}
      (split : state.pool.threads = left ++ .locking :: right)
      (empty : state.pool.tasks = []) (stopped : state.pool.stopped = true) :
      Effect state (.lock thread)
        { state with pool := { state.pool with threads := left ++ .returned :: right } }
  | begun {left right : List (Worker Task)} {thread : Nat} {ticket : Ticket Task}
      {rest : List (Ticket Task)} (split : state.pool.threads = left ++ .locking :: right)
      (front : state.pool.tasks = ticket :: rest) :
      Effect state (.lock thread)
        { state with
          pool := { state.pool with tasks := rest, threads := left ++ .running ticket :: right }
          started := state.started ++ [ticket] }
  | ended {left right : List (Worker Task)} {thread : Nat} {ticket : Ticket Task} {ending : Ending}
      (split : state.pool.threads = left ++ .running ticket :: right) :
      Effect state (.endTask thread ending)
        { state with
          pool := { state.pool with threads := left ++ .locking :: right }
          finished := state.finished ++ [ticket] }
  | stopped (first : state.destructor = .notCalled) :
      Effect state .stop
        { state with pool := { state.pool with stopped := true }, destructor := .stopping }
  | notifiedAll (stopping : state.destructor = .stopping) :
      Effect state .notifyAll
        { state with
          pool := { state.pool with threads := state.pool.threads.map wake }
          destructor := .joining }
  | joined (joining : state.destructor = .joining)
      (all : state.pool.threads.all isReturned = true) :
      Effect state .join { state with destructor := .joined }

/-- The worker at a position, and what becomes of the others when it moves. -/
theorem split_set {threads : List (Worker Task)} {thread : Nat} {worker : Worker Task}
    (found : threads[thread]? = some worker) :
    ∃ left right, threads = left ++ worker :: right ∧
      ∀ next, threads.set thread next = left ++ next :: right := by
  obtain ⟨inside, rfl⟩ := List.getElem?_eq_some_iff.mp found
  refine ⟨threads.take thread, threads.drop (thread + 1), ?_, ?_⟩
  · simp
  · intro next
    rw [List.set_eq_take_append_cons_drop, if_pos inside]

section Effects

variable {state next : State Task}

/-- A submission is refused or its task joins the queue. -/
theorem submit_effect {task : Option Task} (taken : step state (.submit task) = some next) :
    Effect state (.submit task) next := by
  obtain ⟨⟨tasks, stopped, threads⟩, notifications, destructor, submissions, _, _, _⟩ := state
  simp only [step] at taken
  split at taken
  · cases taken
  · rename_i present
    cases task with
    | none =>
      obtain rfl := Option.some.inj taken
      exact .refused
    | some task =>
      cases stopped with
      | true =>
        obtain rfl := Option.some.inj taken
        exact .refused
      | false =>
        obtain rfl := Option.some.inj taken
        exact .accepted rfl present

/-- A notification reaches a waiting worker, or nobody because none waits. It is never kept
for a worker that comes to wait later, and the queue is what that worker looks at first. -/
theorem notifyOne_effect {woken : Option Nat} (taken : step state (.notifyOne woken) = some next) :
    Effect state (.notifyOne woken) next := by
  simp only [step] at taken
  split at taken
  · cases taken
  rename_i counted
  obtain ⟨others, count⟩ := Nat.exists_eq_succ_of_ne_zero counted
  rw [count] at taken
  cases woken with
  | none =>
    simp only at taken
    split at taken
    · cases taken
    · rename_i nobody
      obtain rfl := Option.some.inj taken
      exact .unheard count (by simpa using nobody)
  | some thread =>
    simp only at taken
    split at taken
    · rename_i found
      obtain ⟨left, right, split, moved⟩ := split_set found
      obtain rfl := Option.some.inj taken
      simp only [State.setThread, moved]
      exact .notified count split
    · cases taken

/-- A wake-up has a waiting worker contend for the lock. -/
theorem wakeUp_effect {thread : Nat} (taken : step state (.wakeUp thread) = some next) :
    Effect state (.wakeUp thread) next := by
  simp only [step] at taken
  split at taken
  · rename_i found
    obtain ⟨left, right, split, moved⟩ := split_set found
    obtain rfl := Option.some.inj taken
    simp only [State.setThread, moved]
    exact .woken split
  · cases taken

/-- A worker under the mutex takes the front task, blocks, or leaves its loop. -/
theorem lock_effect {thread : Nat} (taken : step state (.lock thread) = some next) :
    Effect state (.lock thread) next := by
  obtain ⟨⟨tasks, stopped, threads⟩, notifications, destructor, submissions, _, _, _⟩ := state
  simp only [step] at taken
  split at taken
  · rename_i found
    obtain ⟨left, right, split, moved⟩ := split_set found
    obtain rfl := Option.some.inj taken
    cases tasks with
    | nil =>
      cases stopped with
      | true =>
        simp only [workerLoop, if_true, State.setThread, moved, State.begin]
        exact .returned split rfl rfl
      | false =>
        simp only [workerLoop, Bool.false_eq_true, if_false, State.setThread, moved, State.begin]
        exact .blocked split rfl rfl
    | cons ticket rest =>
      simp only [workerLoop, State.setThread, moved, State.begin]
      exact .begun split rfl
  · cases taken

/-- The end of a task, however it ends, has its worker contend for the lock. -/
theorem endTask_effect {thread : Nat} {ending : Ending}
    (taken : step state (.endTask thread ending) = some next) :
    Effect state (.endTask thread ending) next := by
  simp only [step] at taken
  split at taken
  · rename_i ticket found
    obtain ⟨left, right, split, moved⟩ := split_set found
    obtain rfl := Option.some.inj taken
    have again : afterTask ending = (.locking : Worker Task) := by cases ending <;> rfl
    simp only [State.setThread, moved, again]
    exact .ended split
  · cases taken

/-- What every step does, by its action: one lemma for each of those that change a worker. -/
theorem step_effect {action : Action Task} (taken : step state action = some next) :
    Effect state action next := by
  cases action with
  | submit task => exact submit_effect taken
  | notifyOne woken => exact notifyOne_effect taken
  | wakeUp thread => exact wakeUp_effect taken
  | lock thread => exact lock_effect taken
  | endTask thread ending => exact endTask_effect taken
  | stop =>
    obtain ⟨first, same⟩ := Option.ite_none_right_eq_some.mp taken
    exact Option.some.inj same ▸ .stopped first
  | notifyAll =>
    obtain ⟨stopping, same⟩ := Option.ite_none_right_eq_some.mp taken
    exact Option.some.inj same ▸ .notifiedAll stopping
  | join =>
    obtain ⟨⟨joining, all⟩, same⟩ := Option.ite_none_right_eq_some.mp taken
    exact Option.some.inj same ▸ .joined joining all

end Effects

/-- The task that a worker executes. -/
def ticket? : Worker Task → Option (Ticket Task)
  | .running ticket => some ticket
  | _ => none

/-- The tasks in workers. -/
def running (threads : List (Worker Task)) : List (Ticket Task) := threads.filterMap ticket?

/-- The tasks in workers, with one worker looked at. -/
theorem running_middle (left right : List (Worker Task)) (worker : Worker Task) :
    running (left ++ worker :: right) = running left ++ ((ticket? worker).toList ++ running right) := by
  rw [running, List.filterMap_append, List.filterMap_cons]
  cases worker <;> rfl

/-- Every accepted task is in its place: queued in order, in one worker, or ended. Tickets
tell tasks apart that are equal. -/
structure Placed (state : State Task) : Prop where
  order : state.accepted = state.started ++ state.pool.tasks
  numbers : ∀ ticket ∈ state.accepted, ticket.number < state.submissions
  distinct : (state.accepted.map Ticket.number).Nodup
  finished : (state.finished ++ running state.pool.threads).Perm state.started

/-- Every effect leaves each accepted task in its place: queued, in a worker, or ended.
Tasks leave the queue at the front and join it at the end, so the order of acceptance is
kept too. -/
theorem Placed.step {state next : State Task} {action : Action Task} (placed : Placed state)
    (effect : Effect state action next) : Placed next := by
  obtain ⟨order, numbers, distinct, finished⟩ := placed
  cases effect with
  | refused => exact ⟨order, fun ticket member => Nat.lt_succ_of_lt (numbers ticket member), distinct, finished⟩
  | @accepted task _ _ =>
    constructor
    · simp [order]
    · intro ticket member
      obtain old | new := List.mem_append.mp member
      · exact Nat.lt_succ_of_lt (numbers ticket old)
      · obtain rfl := List.mem_singleton.mp new
        exact Nat.lt_succ_self _
    · rw [List.map_append]
      refine List.nodup_append.mpr ⟨distinct, by simp, ?_⟩
      intro number old _ new
      obtain ⟨ticket, member, rfl⟩ := List.mem_map.mp old
      obtain rfl := List.mem_singleton.mp new
      exact Nat.ne_of_lt (numbers ticket member)
    · exact finished
  | notified _ split | woken split | blocked split | returned split =>
    rw [split, running_middle] at finished
    refine ⟨order, numbers, distinct, ?_⟩
    rw [running_middle]
    exact finished
  | unheard | stopped | joined => exact ⟨order, numbers, distinct, finished⟩
  | @begun left right _ ticket rest split front =>
    rw [split, running_middle] at finished
    refine ⟨by simp [order, front], numbers, distinct, ?_⟩
    have taken : (state.finished ++ (running left ++ ([ticket] ++ running right))).Perm
        (ticket :: (state.finished ++ (running left ++ running right))) := by
      rw [← List.append_assoc, ← List.append_assoc state.finished]
      exact List.perm_middle
    rw [running_middle]
    exact taken.trans ((finished.cons ticket).trans (List.perm_append_singleton ticket state.started).symm)
  | @ended left right _ ticket _ split =>
    rw [split, running_middle] at finished
    refine ⟨order, numbers, distinct, ?_⟩
    have left' : (state.finished ++ ([ticket] ++ (running left ++ running right))).Perm
        (state.finished ++ (running left ++ ([ticket] ++ running right))) := by
      apply List.Perm.append_left
      exact (@List.perm_middle _ ticket (running left) (running right)).symm
    rw [running_middle, List.append_assoc]
    exact left'.trans finished
  | notifiedAll =>
    refine ⟨order, numbers, distinct, ?_⟩
    have same : running (state.pool.threads.map wake) = running state.pool.threads := by
      rw [running, List.filterMap_map]
      exact List.filterMap_congr fun worker _ => by cases worker <;> rfl
    exact same ▸ finished

/-- Where the workers may be. While tasks are queued somebody is about to look at the
queue, or a notification is under way. -/
structure Attended (state : State Task) : Prop where
  present : state.pool.threads ≠ []
  stopped : state.pool.stopped = true ↔ state.destructor ≠ .notCalled
  returned : ∀ worker ∈ state.pool.threads, isReturned worker = true →
    state.pool.stopped = true ∧ state.pool.tasks = []
  awake : state.pool.tasks ≠ [] → (∀ worker ∈ state.pool.threads, isWaiting worker = true) →
    0 < state.notifications ∨ state.destructor = .stopping
  notified : state.destructor = .joining ∨ state.destructor = .joined →
    ∀ worker ∈ state.pool.threads, isWaiting worker = false
  joined : state.destructor = .joined → ∀ worker ∈ state.pool.threads, isReturned worker = true

/-- A worker that has not left its loop moves. It leaves only a stopped pool without tasks
and blocks only in a pool without tasks that is not stopped. -/
theorem Attended.exchange {state next : State Task} {left right : List (Worker Task)}
    {old new : Worker Task} (attended : Attended state)
    (split : state.pool.threads = left ++ old :: right)
    (moved : next.pool.threads = left ++ new :: right)
    (stopped : next.pool.stopped = state.pool.stopped) (destructor : next.destructor = state.destructor)
    (drained : state.pool.tasks = [] → next.pool.tasks = []) (staying : isReturned old = false)
    (leaving : isReturned new = true → state.pool.stopped = true ∧ next.pool.tasks = [])
    (blocking : isWaiting new = true → state.pool.stopped = false ∧ next.pool.tasks = []) :
    Attended next := by
  have other : ∀ worker ∈ left ++ new :: right, worker = new ∨ worker ∈ state.pool.threads := by
    intro worker member
    rw [split]
    simp only [List.mem_append, List.mem_cons] at member ⊢
    tauto
  have here : old ∈ state.pool.threads := by simp [split]
  constructor
  · simp [moved]
  · rw [stopped, destructor]
    exact attended.stopped
  · intro worker member left
    rw [stopped]
    obtain rfl | before := other worker (moved ▸ member)
    · exact leaving left
    · obtain ⟨halted, empty⟩ := attended.returned worker before left
      exact ⟨halted, drained empty⟩
  · intro queued all
    have waits := all new (by simp [moved])
    exact absurd (blocking waits).2 queued
  · intro joining worker member
    rw [destructor] at joining
    obtain rfl | before := other worker (moved ▸ member)
    · by_contra waits
      have running := (blocking (by simpa using waits)).1
      have halted := attended.stopped.mpr (by
        obtain same | same := joining <;> simp [same])
      rw [running] at halted
      cases halted
    · exact attended.notified joining worker before
  · intro joined
    have left := attended.joined (destructor ▸ joined) old here
    rw [staying] at left
    cases left

/-- Every effect leaves a queued task attended: by a worker on its way to the queue, or by a
notification to come. -/
theorem Attended.step {state next : State Task} {action : Action Task} (attended : Attended state)
    (effect : Effect state action next) : Attended next := by
  cases effect with
  | refused => exact { attended with }
  | accepted open_ unjoined =>
    refine { attended with returned := ?_, awake := fun _ _ => .inl (Nat.succ_pos _) }
    intro worker member left
    have halted := (attended.returned worker member left).1
    rw [open_] at halted
    cases halted
  | notified _ split | woken split | ended split =>
    exact attended.exchange split rfl rfl rfl id rfl nofun nofun
  | unheard counted nobody =>
    refine { attended with awake := fun _ all => ?_ }
    obtain ⟨worker, rest, threads⟩ := List.exists_cons_of_ne_nil attended.present
    have waits := all worker (by simp [threads])
    rw [List.any_eq_false] at nobody
    exact absurd waits (nobody worker (by simp [threads]))
  | blocked split empty open_ =>
    exact attended.exchange split rfl rfl rfl id rfl nofun fun _ => ⟨open_, empty⟩
  | returned split empty halted =>
    exact attended.exchange split rfl rfl rfl id rfl (fun _ => ⟨halted, empty⟩) nofun
  | begun split front =>
    refine attended.exchange split rfl rfl rfl (fun empty => ?_) rfl nofun nofun
    rw [front] at empty
    cases empty
  | stopped first =>
    refine { attended with stopped := ?_, returned := ?_, awake := fun _ _ => .inr rfl, notified := ?_, joined := nofun }
    · simp
    · intro worker member left
      exact ⟨rfl, (attended.returned worker member left).2⟩
    · rintro (other | other) <;> cases other
  | notifiedAll stopping =>
    have woken : ∀ worker ∈ state.pool.threads.map wake, isWaiting worker = false := by
      intro worker member
      obtain ⟨before, -, rfl⟩ := List.mem_map.mp member
      cases before <;> rfl
    constructor
    · simpa using attended.present
    · have halted := attended.stopped.mpr (by simp [stopping])
      simp [halted]
    · intro worker member left
      obtain ⟨before, old, rfl⟩ := List.mem_map.mp member
      apply attended.returned before old
      cases before <;> first | rfl | cases left
    · intro _ all
      obtain ⟨worker, rest, threads⟩ := List.exists_cons_of_ne_nil attended.present
      have member : wake worker ∈ state.pool.threads.map wake := by simp [threads]
      have waits := all (wake worker) member
      rw [woken _ member] at waits
      cases waits
    · exact fun _ => woken
    · nofun
  | joined joining all =>
    have left : ∀ worker ∈ state.pool.threads, isReturned worker = true := List.all_eq_true.mp all
    refine { attended with stopped := ?_, awake := ?_, notified := fun _ => attended.notified (.inl joining), joined := fun _ => left }
    · have halted := attended.stopped.mpr (by simp [joining])
      simp [halted]
    · intro _ waiting
      obtain ⟨worker, rest, threads⟩ := List.exists_cons_of_ne_nil attended.present
      have waits := attended.notified (.inl joining) worker (by simp [threads])
      rw [waiting worker (by simp [threads])] at waits
      cases waits

/-- Every step, whoever takes it. -/
def Anything (_ : State Task) (_ : Action Task) : Prop := True

/-- By induction on the run, every accepted task is in its place. -/
theorem reached_placed {workers : Nat} {state : State Task}
    (reached : Reached step Anything (initial workers) state) : Placed state := by
  refine reached.invariant ?_ fun _ _ _ placed _ taken => placed.step (step_effect taken)
  have idle : ∀ count : Nat, running (List.replicate count (.locking : Worker Task)) = [] := by
    intro count
    induction count with
    | zero => rfl
    | succ count inductionHypothesis => exact inductionHypothesis
  exact ⟨rfl, by simp [initial], by simp [initial], by simp [initial, idle]⟩

/-- And it is attended to, with one worker at least. -/
theorem reached_attended {workers : Nat} (some : 1 ≤ workers) {state : State Task}
    (reached : Reached step Anything (initial workers) state) : Attended state := by
  refine reached.invariant ?_ fun _ _ _ attended _ taken => attended.step (step_effect taken)
  constructor
  · simp only [initial, ne_eq, List.replicate_eq_nil_iff]
    omega
  · simp [initial]
  · intro worker member left
    rw [List.eq_of_mem_replicate member] at left
    cases left
  · exact fun queued => absurd rfl queued
  · rintro (other | other) <;> cases other
  · nofun

/-- Once the pool is stopped it accepts nothing. -/
theorem step_closed {state next : State Task} {action : Action Task}
    (effect : Effect state action next) (halted : state.pool.stopped = true) :
    next.pool.stopped = true ∧ next.accepted = state.accepted := by
  cases effect with
  | accepted open_ _ =>
    rw [open_] at halted
    cases halted
  | stopped => exact ⟨rfl, rfl⟩
  | _ => exact ⟨halted, rfl⟩

/-- A stopped pool stays stopped and accepts nothing more. -/
theorem reached_closed {state later : State Task} (reached : Reached step Anything state later)
    (halted : state.pool.stopped = true) :
    later.pool.stopped = true ∧ later.accepted = state.accepted := by
  refine @Reached.invariant _ _ _ _ _
    (fun here => here.pool.stopped = true ∧ here.accepted = state.accepted) ⟨halted, rfl⟩ ?_ _ reached
  rintro here _ next ⟨stillHalted, same⟩ _ taken
  obtain ⟨nextHalted, nextSame⟩ := step_closed (step_effect taken) stillHalted
  exact ⟨nextHalted, nextSame.trans same⟩

/-! Left to itself, without submissions, wakings out of nothing and a call of the
destructor, the pool comes to rest. -/

/-- The steps that the pool takes by itself. -/
def Own (_ : State Task) : Action Task → Prop
  | .notifyOne _ | .lock _ | .endTask _ _ | .notifyAll | .join => True
  | .submit _ | .wakeUp _ | .stop => False

/-- The steps that a worker can take before it waits or returns. -/
def workerWork : Worker Task → Nat
  | .running _ => 2
  | .locking => 1
  | .waiting => 0
  | .returned => 0

/-- The steps of the destructor; its notification may wake every thread. -/
def destructorWork (threads : Nat) : Destructor → Nat
  | .stopping => threads + 2
  | .joining => 1
  | .notCalled => 0
  | .joined => 0

/-- A bound on the steps ahead: a queued task is taken and ended, a notification wakes a
worker that blocks again, the destructor wakes all. -/
def work (state : State Task) : Nat :=
  3 * state.pool.tasks.length + 2 * state.notifications +
    (state.pool.threads.map workerWork).sum +
    destructorWork state.pool.threads.length state.destructor

/-- A notification gives each thread one step more. -/
theorem wake_work (threads : List (Worker Task)) :
    ((threads.map wake).map workerWork).sum ≤ (threads.map workerWork).sum + threads.length := by
  induction threads with
  | nil => exact Nat.le_refl _
  | cons worker rest inductionHypothesis =>
    have one : workerWork (wake worker) ≤ workerWork worker + 1 := by
      cases worker <;> simp [wake, workerWork]
    simp only [List.map_cons, List.sum_cons, List.length_cons]
    omega

/-- Each step of the pool's own makes the work less, whatever the effect. Submissions and
spurious wakeups are not of this kind and may add to it. -/
theorem step_work {state next : State Task} {action : Action Task}
    (effect : Effect state action next) (own : Own state action) : work next < work state := by
  cases effect with
  | refused | accepted | woken | stopped => cases own
  | notified counted split =>
    simp [work, counted, split, workerWork]
    omega
  | unheard counted =>
    simp [work, counted]
  | blocked split | returned split =>
    simp [work, split, workerWork]
  | begun split front =>
    simp [work, split, front, workerWork]
    omega
  | ended split =>
    simp [work, split, workerWork]
  | notifiedAll stopping =>
    have woken := wake_work state.pool.threads
    simp only [work, stopping, destructorWork]
    omega
  | joined joining =>
    simp [work, joining, destructorWork]

/-- The run takes no more steps than there is work, so the pool's own steps come to rest. -/
theorem run_work {state last : State Task} {past : List (State Task)}
    (run : Run step Own state past last) : past.length + work last ≤ work state := by
  induction run with
  | initial => simp
  | step action _ own taken inductionHypothesis =>
    have less := step_work (step_effect taken) own
    rw [List.length_append, List.length_singleton]
    omega

/-- No own step is possible. -/
def Resting (state : State Task) : Prop :=
  ∀ action, Own state action → step state action = none

/-- At rest every worker waits or has returned. -/
theorem Resting.worker {state : State Task} (resting : Resting state) :
    ∀ worker ∈ state.pool.threads, isWaiting worker = true ∨ isReturned worker = true := by
  intro worker member
  obtain ⟨thread, found⟩ := List.getElem?_of_mem member
  cases worker with
  | waiting => exact .inl rfl
  | returned => exact .inr rfl
  | locking =>
    have stuck := resting (.lock thread) trivial
    simp [step, found] at stuck
  | running ticket =>
    have stuck := resting (.endTask thread .returned) trivial
    simp [step, found] at stuck

/-- At rest no notification is on its way. -/
theorem Resting.notifications {state : State Task} (resting : Resting state) :
    state.notifications = 0 := by
  by_contra pending
  by_cases some : state.pool.threads.any isWaiting = true
  · obtain ⟨worker, member, waits⟩ := List.any_eq_true.mp some
    obtain ⟨thread, found⟩ := List.getElem?_of_mem member
    cases worker with
    | waiting =>
      have stuck := resting (.notifyOne (.some thread)) trivial
      simp [step, pending, found] at stuck
    | locking | running | returned => cases waits
  · have stuck := resting (.notifyOne none) trivial
    simp only [step, if_neg pending, if_neg some] at stuck
    cases stuck

/-- A pool at rest has nothing left to do. If a task were queued, all workers would be waiting
with a notification still to come, and to give it is a step of the pool's own. -/
theorem Resting.done {state : State Task} (resting : Resting state) (attended : Attended state) :
    state.pool.tasks = [] ∧ running state.pool.threads = [] ∧
      (state.pool.stopped = true → state.destructor = .joined) := by
  have undisturbed : state.destructor ≠ .stopping := by
    intro stopping
    have stuck := resting .notifyAll trivial
    simp [step, stopping] at stuck
  have idle := resting.worker
  constructor
  · by_contra queued
    have waiting : ∀ worker ∈ state.pool.threads, isWaiting worker = true := by
      intro worker member
      obtain waits | left := idle worker member
      · exact waits
      · exact absurd (attended.returned worker member left).2 queued
    obtain pending | stopping := attended.awake queued waiting
    · exact Nat.ne_of_gt pending resting.notifications
    · exact undisturbed stopping
  constructor
  · refine List.filterMap_eq_nil_iff.mpr fun worker member => ?_
    obtain waits | left := idle worker member
    · cases worker <;> first | rfl | cases waits
    · cases worker <;> first | rfl | cases left
  · intro halted
    have called := attended.stopped.mp halted
    cases destructor : state.destructor with
    | notCalled => exact absurd destructor called
    | stopping => exact absurd destructor undisturbed
    | joined => rfl
    | joining =>
      have left : state.pool.threads.all isReturned = true := by
        refine List.all_eq_true.mpr fun worker member => ?_
        obtain waits | left := idle worker member
        · rw [attended.notified (.inl destructor) worker member] at waits
          cases waits
        · exact left
      have stuck := resting .join trivial
      rw [step, if_pos ⟨destructor, left⟩] at stuck
      cases stuck

/-- The pool neither loses nor duplicates a task. In every state that submitters, workers
and the destructor reach, in any order and whether tasks throw or not: the accepted tasks
are the started ones and, after them, the queued ones; started tasks have ended or are in a
worker; a worker has left its loop only if the pool is stopped and its queue empty; and a
stopped pool accepts nothing more. When the destructor has joined the workers, every
accepted task was started once and has ended. From every state the pool's own steps come
to rest with every accepted task ended, and with the destructor, if called, at its end. -/
theorem pool_keeps_tasks {workers : Nat} (some : 1 ≤ workers) {state : State Task}
    (reached : Reached step Anything (initial workers) state) :
    state.accepted = state.started ++ state.pool.tasks ∧
    (state.accepted.map Ticket.number).Nodup ∧
    (state.finished ++ running state.pool.threads).Perm state.started ∧
    (∀ worker ∈ state.pool.threads, isReturned worker = true →
      state.pool.stopped = true ∧ state.pool.tasks = []) ∧
    (∀ later, Reached step Anything state later → state.pool.stopped = true →
      later.accepted = state.accepted) ∧
    (state.destructor = .joined →
      state.started = state.accepted ∧ state.finished.Perm state.accepted) ∧
    ∀ past last, Run step Own state past last → past.length ≤ work state ∧
      (Resting last → last.started = last.accepted ∧ last.finished.Perm last.accepted ∧
        (last.pool.stopped = true → last.destructor = .joined)) := by
  have ended {state : State Task} (placed : Placed state) (empty : state.pool.tasks = [])
      (idle : running state.pool.threads = []) :
      state.started = state.accepted ∧ state.finished.Perm state.accepted := by
    have order := placed.order
    have finished := placed.finished
    rw [empty, List.append_nil] at order
    rw [idle, List.append_nil] at finished
    exact ⟨order.symm, order ▸ finished⟩
  have placed := reached_placed reached
  have attended := reached_attended some reached
  refine ⟨placed.order, placed.distinct, placed.finished, attended.returned, ?_, ?_, ?_⟩
  · exact fun later onward halted => (reached_closed onward halted).2
  · intro joined
    have left := attended.joined joined
    obtain ⟨worker, rest, threads⟩ := List.exists_cons_of_ne_nil attended.present
    have member : worker ∈ state.pool.threads := by simp [threads]
    apply ended placed (attended.returned worker member (left worker member)).2
    refine List.filterMap_eq_nil_iff.mpr fun worker member => ?_
    have returned := left worker member
    cases worker <;> first | rfl | cases returned
  · intro past last run
    have onward := reached.trans (run.reached.mono fun _ _ _ => trivial)
    have bounded := run_work run
    refine ⟨by omega, fun resting => ?_⟩
    obtain ⟨empty, idle, finished⟩ := resting.done (reached_attended some onward)
    obtain ⟨started, all⟩ := ended (reached_placed onward) empty idle
    exact ⟨started, all, finished⟩

/-- Two workers; the first blocks before there are tasks. The destructor starts when one
task has been started, which throws, and the other is queued. A third is refused. -/
def shutdown : List (Action String) :=
  [.lock 0, .submit (some "a"), .notifyOne (some 0), .submit (some "b"), .notifyOne none, .lock 1,
    .stop, .submit (some "c"), .notifyAll, .endTask 1 .stdException, .lock 1, .lock 0,
    .endTask 1 .returned, .lock 1, .join]

/-- The two tasks accepted before the destructor have been started and have ended, the first
one by an exception; the third is refused. -/
theorem shutdown_keeps_tasks : ∃ state : State String,
    Reached step Anything (initial 2) state ∧ state.destructor = .joined ∧
      state.accepted.map Ticket.task = ["a", "b"] ∧ state.started = state.accepted ∧
      state.finished.Perm state.accepted := by
  have ran : ((runWhere step (fun _ _ => true) (initial 2) shutdown).map fun state =>
      decide (state.destructor = .joined) && state.accepted.map Ticket.task == ["a", "b"]) =
        some true := by
    decide +kernel
  obtain ⟨state, ran, facts⟩ := Option.map_eq_some_iff.mp ran
  simp only [Bool.and_eq_true, decide_eq_true_eq, beq_iff_eq] at facts
  have reached : Reached step Anything (initial 2) state :=
    .of_runWhere (fun _ _ _ => trivial) .initial ran
  obtain ⟨-, -, -, -, -, joined, -⟩ := pool_keeps_tasks (by decide) reached
  exact ⟨state, reached, facts.1, facts.2, joined facts.1⟩

end TradeReconcile.ThreadPool
