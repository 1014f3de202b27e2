import TradeReconcile.Tasks
import TradeReconcile.Transitions

/-!
# Rounds of a background task

The flag of a task counts its rounds: it is set exactly while one round is queued or
executing. A round gives it back by returning, and a round returns unless one of the
few calls outside of every try block throws. After such an exception the flag stays
set with no round left to clear it, and no later tick starts the task again.
-/

namespace TradeReconcile

open Scripts Transactions

namespace Pool

/-- The flag, the rounds of a task and the effect of the next tick: what there is to say of a
task at one moment. -/
structure OneRound (pool : Pool) (task : Background) : Prop where
  flag : pool.running task = true ↔ pool.rounds task = 1
  apart : pool.rounds task ≤ 1
  starts : pool.rounds task = 0 → ∃ next, pool.step (.tick task) = some next ∧ next.rounds task = 1

/-- No call outside of every try block throws. All other calls may. -/
def ScansReturn (pool : Pool) : Action → Prop
  | .perform index reply => ∀ task r k, pool.workers[index]? = some (.executing task (.call r k)) →
    task.uncaught r = true → (reply task r).isOk = true
  | _ => True

/-! A round returns. -/

/-- Every call is permitted; exceptions come from calls that may throw and are
inside a try block. -/
def returning (task : Background) :
    Protocol task.Request (fun r => Except Fault (task.Reply r)) Unit where
  permits _ _ := True
  answers r reply := reply.isOk = true ∨ task.mayThrow r = true ∧ task.uncaught r = false
  after _ _ _ := ()

/-- The rest of a round ends without an exception. -/
def Returns (task : Background) (rest : task.Round) : Prop :=
  Script.Follows (returning task) (fun _ outcome => outcome.isOk = true) () rest

/-- A call whose exceptions do not occur. -/
theorem follows_request (task : Background) {α : Type} {r : task.Request}
    {next : task.Reply r → Code task.Request task.Reply Fault α}
    {accepted : Unit → Except Fault α → Prop}
    (quiet : task.mayThrow r = false ∨ task.uncaught r = true)
    (continues : ∀ value, Script.Follows (returning task) accepted () (next value)) :
    Script.Follows (returning task) accepted () (perform r >>= next : Code _ _ Fault α) := by
  apply follows_perform trivial
  · intro value _
    exact continues value
  · rintro fault (returned | ⟨throws, caught⟩)
    · cases returned
    · simp [throws, caught] at quiet

/-- The messages are relayed without an exception that gets out. The induction is on the
messages; the `catch` clause takes what each of them throws. -/
theorem relayEach_returns (messages : List LocalMessage) :
    Returns .messageRelay (MessageRelayTask.relayEach messages) := by
  induction messages with
  | nil => rfl
  | cons msg rest inductionHypothesis =>
    -- Whatever the message's calls did, the catch clause turns it into a return.
    apply follows_bind
    apply follows_tryCatch
    apply Script.follows_of_permits (fun _ _ => trivial)
    rintro _ (fault | value) <;> exact inductionHypothesis

/-- A relay round returns once its scan has. -/
theorem relay_returns : Returns .messageRelay MessageRelayTask.relay := by
  apply follows_request .messageRelay (.inr rfl)
  intro _
  apply follows_request .messageRelay (.inr rfl)
  exact relayEach_returns

/-- A database program handles its own failures. -/
theorem ofProgram_returns {α : Type} (program : Prog α) :
    Script.Follows (returning .reconcile) (fun _ outcome => outcome.isOk = true) ()
      (ReconcileTask.ofProgram program) := by
  induction program with
  | done value => rfl
  | ask k inductionHypothesis =>
    exact follows_request .reconcile (.inl rfl) inductionHypothesis
  | start k inductionHypothesis | statement s k inductionHypothesis | commit k inductionHypothesis =>
    exact ⟨trivial, fun reply _ => inductionHypothesis reply⟩
  | rollback k inductionHypothesis | release k inductionHypothesis =>
    exact follows_request .reconcile (.inl rfl) fun _ => inductionHypothesis

/-- A reconciliation round returns once its lookup has. -/
theorem checkAndRun_returns : Returns .reconcile ReconcileTask.checkAndRun := by
  apply follows_request .reconcile (.inl rfl)
  intro billDate
  apply follows_request .reconcile (.inl rfl)
  intro opened
  cases opened with
  | false => rfl
  | true =>
    apply follows_request .reconcile (.inr rfl)
    intro repeated
    cases repeated with
    | true => rfl
    | false =>
      apply follows_bind
      apply follows_request .reconcile (.inl rfl)
      intro bill
      apply (ofProgram_returns _).mono
      rintro _ (fault | result) returned
      · cases returned
      · rfl

/-- Every round returns, if what stands outside of its `try` block does. -/
theorem round_returns (task : Background) : Returns task task.round := by
  cases task with
  | messageRelay => exact relay_returns
  | reconcile => exact checkAndRun_returns

/-! The flag counts the rounds. -/

@[simp] theorem setWorker_running (pool : Pool) (index : Nat) (worker : Worker) :
    (pool.setWorker index worker).running = pool.running := rfl

@[simp] theorem setRunning_rounds (pool : Pool) (task : Background) (value : Bool) :
    (pool.setRunning task value).rounds = pool.rounds := rfl

@[simp] theorem waiting_executes (task : Background) : Worker.waiting.executes task = false := rfl

@[simp] theorem other_executes (task : Background) : Worker.other.executes task = false := rfl

@[simp] theorem executing_executes (current task : Background) (rest : current.Round) :
    (Worker.executing current rest).executes task = decide (current = task) := rfl

/-- A submitted job counts like the worker that will execute it. -/
theorem submit_rounds (pool : Pool) (job : Job) (task : Background) :
    (pool.submit job).rounds task =
      pool.rounds task + ((Worker.start job).executes task).toNat := by
  cases job with
  | round started =>
    by_cases same : started = task
    · subst started
      simp [rounds, submit, Worker.start]
      omega
    · simp [rounds, submit, Worker.start, same]
  | other => simp [rounds, submit, Worker.start]

/-- A round that is taken out of the queue counts in the worker from then on. -/
theorem dequeue_rounds {pool : Pool} {job : Job} {rest : List Job}
    (queued : pool.tasks = job :: rest) (task : Background) :
    pool.rounds task =
      { pool with tasks := rest }.rounds task + ((Worker.start job).executes task).toNat := by
  cases job with
  | round started =>
    by_cases same : started = task
    · subst started
      simp [rounds, queued, Worker.start]
      omega
    · simp [rounds, queued, Worker.start, same]
  | other => simp [rounds, queued, Worker.start]

/-- What a worker turns to changes the count of rounds by the difference. -/
theorem setWorker_rounds {p : Pool} {index : Nat} {old : Worker}
    (here : p.workers[index]? = some old) (worker : Worker) (task : Background) :
    (p.setWorker index worker).rounds task + (old.executes task).toNat =
      p.rounds task + (worker.executes task).toNat := by
  obtain ⟨bound, rfl⟩ := List.getElem?_eq_some_iff.mp here
  have counted := List.boole_getElem_le_countP (p := Worker.executes task) bound
  simp only [rounds, setWorker, List.countP_set bound]
  cases before : p.workers[index].executes task <;>
    cases after : worker.executes task <;>
    simp only [before, if_true, if_false, Bool.false_eq_true, Bool.toNat_true, Bool.toNat_false]
      at counted ⊢ <;>
    omega

/-- The invariant: the flags count, and every round in execution will return. A failing scan
breaks it: what it leaves behind is a flag without a round. -/
structure Orderly (pool : Pool) : Prop where
  counted : ∀ task, pool.rounds task = (pool.running task).toNat
  returns : ∀ task rest, Worker.executing task rest ∈ pool.workers → Returns task rest

/-- The invariant read off for one task: the flag is the number of rounds, so there is at most
one. -/
theorem Orderly.oneRound {pool : Pool} (orderly : pool.Orderly) (task : Background) :
    pool.OneRound task := by
  have counted := orderly.counted task
  refine ⟨?_, ?_, ?_⟩
  · cases running : pool.running task <;> simp [counted, running]
  · rw [counted]
    exact Bool.toNat_le _
  · intro free
    have stopped : pool.running task = false := by
      cases running : pool.running task
      · rfl
      · simp [running, free] at counted
    refine ⟨_, rfl, ?_⟩
    simp [runOnce, stopped, submit_rounds, free, Worker.start]

/-- No flags, no rounds. -/
theorem initial_orderly (threadCount : Nat) : (Pool.initial threadCount).Orderly := by
  constructor
  · intro task
    simp [rounds, initial, Worker.executes, List.countP_replicate]
  · intro task rest member
    cases List.eq_of_mem_replicate member

/-- A round in execution has its flag set. -/
theorem Orderly.executing_running {pool : Pool} {index : Nat} {task : Background}
    {rest : task.Round} (orderly : pool.Orderly)
    (here : pool.workers[index]? = some (.executing task rest)) : pool.running task = true := by
  have freed := setWorker_rounds here .waiting task
  have counted := orderly.counted task
  cases running : pool.running task with
  | true => rfl
  | false =>
    simp only [executing_executes, decide_true, Bool.toNat_true, counted, running] at freed
    simp at freed

/-- A tick sets the flag together with the round that it submits, or does nothing. -/
theorem runOnce_orderly {pool : Pool} (orderly : pool.Orderly) (task : Background) :
    (pool.runOnce task).Orderly := by
  unfold runOnce
  split
  · exact orderly
  · rename_i stopped
    refine ⟨?_, orderly.returns⟩
    intro other
    rw [submit_rounds, setRunning_rounds, orderly.counted]
    change _ = (Function.update pool.running task true other).toNat
    by_cases same : other = task
    · subst other
      simp [Worker.start, stopped]
    · have apart : task ≠ other := fun equal => same equal.symm
      simp [Worker.start, same, apart]

/-- A round that moves from the queue to a worker is still one round. -/
theorem take_orderly {pool : Pool} {index : Nat} {job : Job} {rest : List Job}
    (orderly : pool.Orderly) (here : pool.workers[index]? = some .waiting)
    (queued : pool.tasks = job :: rest) :
    ({ pool with tasks := rest }.setWorker index (.start job)).Orderly := by
  constructor
  · intro task
    have counted := orderly.counted task
    have moved := setWorker_rounds (p := { pool with tasks := rest }) here (.start job) task
    rw [dequeue_rounds queued, ← moved] at counted
    simpa using counted
  · intro task code member
    rcases List.mem_or_eq_of_mem_set member with old | new
    · exact orderly.returns task code old
    · cases job with
      | round started =>
        cases new
        exact round_returns task
      | other => cases new

/-- A worker that goes on with its round keeps the count. -/
theorem continue_orderly {pool : Pool} {index : Nat} {task : Background} {rest next : task.Round}
    (orderly : pool.Orderly) (here : pool.workers[index]? = some (.executing task rest))
    (returns : Returns task next) : (pool.setWorker index (.executing task next)).Orderly := by
  constructor
  · intro other
    have kept := setWorker_rounds here (.executing task next) other
    simp only [executing_executes, Nat.add_right_cancel_iff] at kept
    rw [kept, orderly.counted]
    rfl
  · intro other code member
    rcases List.mem_or_eq_of_mem_set member with old | new
    · exact orderly.returns other code old
    · cases new
      exact returns

/-- A worker whose task is over waits again, and the count goes down with the flag. -/
theorem release_orderly {pool after : Pool} {index : Nat} {worker : Worker}
    (orderly : pool.Orderly) (here : pool.workers[index]? = some worker)
    (tasks : after.tasks = pool.tasks) (workers : after.workers = pool.workers)
    (cleared : ∀ task, (after.running task).toNat + (worker.executes task).toNat =
      (pool.running task).toNat) : (after.setWorker index .waiting).Orderly := by
  constructor
  · intro task
    have freed := setWorker_rounds (p := after) (workers ▸ here) .waiting task
    have same : after.rounds task = pool.rounds task := by rw [rounds, tasks, workers, rounds]
    have counted := orderly.counted task
    have balance := cleared task
    simp only [waiting_executes, Bool.toNat_false] at freed
    rw [setWorker_running]
    omega
  · intro task rest member
    rcases List.mem_or_eq_of_mem_set member with old | new
    · exact orderly.returns task rest (workers ▸ old)
    · cases new

/-- One step of a worker. A round in execution does not end with an exception, by the
condition, so the flag is cleared whenever a round ends. -/
theorem work_orderly {pool next : Pool} {index : Nat} {worker : Worker}
    {reply : (task : Background) → (r : task.Request) → Except Fault (task.Reply r)}
    (orderly : pool.Orderly) (here : pool.workers[index]? = some worker)
    (scans : pool.ScansReturn (.perform index reply))
    (worked : pool.work index reply worker = some next) : next.Orderly := by
  cases worker with
  | waiting => cases worked
  | other =>
    cases worked
    exact release_orderly orderly here rfl rfl fun task => by simp
  | executing task rest =>
    have returns := orderly.returns task rest (List.mem_of_getElem? here)
    cases rest with
    | done outcome =>
      cases outcome with
      | error fault => cases returns
      | ok value =>
        cases worked
        refine release_orderly orderly here rfl rfl fun other => ?_
        change (Function.update pool.running task false other).toNat + _ = _
        by_cases same : other = task
        · subst other
          simp [orderly.executing_running here]
        · have apart : task ≠ other := fun equal => same equal.symm
          simp [same, apart]
    | call r k =>
      simp only [work] at worked
      split at worked
      · rename_i occurs
        cases worked
        refine continue_orderly orderly here (returns.2 (reply task r) ?_)
        cases scanned : task.uncaught r with
        | true => exact .inl (scans task r k here scanned)
        | false => simpa [returning, scanned] using occurs
      · cases worked

/-- Every action keeps flags and rounds in step. Only the end of a round is of interest: the
flag goes down with it unless an exception gets out. -/
theorem step_orderly {pool next : Pool} {action : Action} (orderly : pool.Orderly)
    (scans : pool.ScansReturn action) (taken : pool.step action = some next) : next.Orderly := by
  cases action with
  | tick task =>
    cases taken
    exact runOnce_orderly orderly task
  | submit =>
    cases taken
    refine ⟨?_, orderly.returns⟩
    intro task
    rw [submit_rounds, orderly.counted]
    rfl
  | take index =>
    simp only [step] at taken
    split at taken
    · rename_i here queued
      cases taken
      exact take_orderly orderly here queued
    · cases taken
  | perform index reply =>
    obtain ⟨worker, here, worked⟩ := Option.bind_eq_some_iff.mp taken
    exact work_orderly orderly here scans worked

/-- In every run in which the calls outside of the try blocks return, whatever the others do,
a task's flag is set exactly while one of its rounds is queued or executing, rounds never
overlap, and a tick that finds none starts one. The number of workers and the order in which
they take work are arbitrary. -/
theorem reached_oneRound {threadCount : Nat} {pool : Pool}
    (reached : Transitions.Reached step ScansReturn (initial threadCount) pool)
    (task : Background) : pool.OneRound task :=
  (reached.invariant (initial_orderly threadCount) fun _ _ _ orderly scans taken =>
    step_orderly orderly scans taken).oneRound task

/-- The flag is set, and nothing is left that could clear it. -/
def Disabled (pool : Pool) (task : Background) : Prop :=
  pool.running task = true ∧ pool.rounds task = 0

/-- An exception that leaves a round disables its task. -/
theorem thrown_disabled {pool next : Pool} {index : Nat} {task : Background} {fault : Fault}
    {reply : (task : Background) → (r : task.Request) → Except Fault (task.Reply r)}
    (one : pool.OneRound task)
    (here : pool.workers[index]? = some (.executing task (.done (.error fault))))
    (taken : pool.step (.perform index reply) = some next) : next.Disabled task := by
  simp only [step, here, Option.bind_some, work, Option.some.injEq] at taken
  subst taken
  have freed := setWorker_rounds here .waiting task
  simp only [executing_executes, decide_true, Bool.toNat_true, waiting_executes,
    Bool.toNat_false] at freed
  have apart := one.apart
  constructor
  · rw [setWorker_running]
    exact one.flag.mpr (by omega)
  · omega

/-- A disabled task stays disabled: its ticks do nothing, and other rounds do not
touch its flag. -/
theorem step_disabled {pool next : Pool} {action : Action} {task : Background}
    (disabled : pool.Disabled task) (taken : pool.step action = some next) :
    next.Disabled task := by
  obtain ⟨running, none⟩ := disabled
  cases action with
  | tick ticked =>
    cases taken
    unfold runOnce
    split
    · exact ⟨running, none⟩
    · rename_i stopped
      have apart : ticked ≠ task := by
        rintro rfl
        exact stopped running
      constructor
      · change Function.update pool.running ticked true task = true
        rw [Function.update_of_ne apart.symm]
        exact running
      · simp [submit_rounds, Worker.start, none, apart]
  | submit =>
    cases taken
    exact ⟨running, by simp [submit_rounds, Worker.start, none]⟩
  | take index =>
    simp only [step] at taken
    split at taken
    · rename_i job rest here queued
      cases taken
      have moved := setWorker_rounds (p := { pool with tasks := rest }) here (.start job) task
      rw [← dequeue_rounds queued, none] at moved
      exact ⟨running, by simpa using moved⟩
    · cases taken
  | perform index reply =>
    obtain ⟨worker, here, worked⟩ := Option.bind_eq_some_iff.mp taken
    have idle : worker.executes task = false := by
      have freed := setWorker_rounds here .waiting task
      cases executes : worker.executes task with
      | false => rfl
      | true => simp [executes, none] at freed
    have replaced (after : Worker) (same : after.executes task = worker.executes task) :
        (pool.setWorker index after).rounds task = 0 := by
      have kept := setWorker_rounds here after task
      rw [same, idle, none] at kept
      exact kept
    cases worker with
    | waiting => cases worked
    | other =>
      cases worked
      exact ⟨running, replaced _ rfl⟩
    | executing current rest =>
      have apart : current ≠ task := by simpa using idle
      have waits := replaced .waiting idle.symm
      cases rest with
      | done outcome =>
        cases outcome with
        | error fault =>
          cases worked
          exact ⟨running, waits⟩
        | ok value =>
          cases worked
          refine ⟨?_, waits⟩
          change Function.update pool.running current false task = true
          rw [Function.update_of_ne apart.symm]
          exact running
      | call r k =>
        simp only [work] at worked
        split at worked
        · cases worked
          exact ⟨running, replaced _ rfl⟩
        · cases worked

/-- Once disabled, a task never runs again, whatever happens afterwards. Nobody else takes the
flag down. -/
theorem reached_disabled {first pool : Pool} {task : Background} (disabled : first.Disabled task)
    (reached : Transitions.Reached step (fun _ _ => True) first pool) : pool.Disabled task := by
  induction reached with
  | initial => exact disabled
  | step action _ _ taken inductionHypothesis => exact step_disabled inductionHypothesis taken

/-- `ScansReturn` as a test. -/
def scansReturn (pool : Pool) : Action → Bool
  | .perform index reply => match pool.workers[index]? with
    | some (.executing task (.call r _)) => !task.uncaught r || (reply task r).isOk
    | _ => true
  | _ => true

/-- The decidable form of the condition. -/
theorem scansReturn_sound {pool : Pool} {action : Action}
    (passed : pool.scansReturn action = true) : pool.ScansReturn action := by
  cases action with
  | perform index reply =>
    intro task r k here uncaught
    simpa [scansReturn, here, uncaught] using passed
  | tick | submit | take => trivial

/-- An outbox row, and replies under which the scan finds it and every other call
fails. -/
def pendingMessage : LocalMessage :=
  ⟨"m1", "ORDER_PAID", "7001", "trade.exchange", "order.paid", "", .kPending, 0, ""⟩

/-- A world in which the scan works and nothing else. -/
def onlyScans : (task : Background) → (r : task.Request) → Except Fault (task.Reply r)
  | .messageRelay, .mqClient => .ok ()
  | .messageRelay, .scanPending _ => .ok [pendingMessage]
  | _, _ => .error .db

/-- A relay round whose publish throws still ends with the flag down, and the next tick starts
another one. -/
theorem publish_oneRound : ∃ pool,
    Transitions.Reached step ScansReturn (initial 8) pool ∧ pool.running .messageRelay = true ∧
      pool.OneRound .messageRelay ∧ pool.OneRound .reconcile := by
  have ran : ((Transitions.runWhere step scansReturn (initial 8)
      ([.tick .messageRelay, .submit, .take 0, .tick .messageRelay] ++
        List.replicate 4 (.perform 0 onlyScans) ++ [.tick .messageRelay])).map
        fun pool => pool.running .messageRelay) = some true := by
    decide +kernel
  obtain ⟨pool, last, running⟩ := Option.map_eq_some_iff.mp ran
  have reached := Transitions.Reached.of_runWhere (fun _ _ => scansReturn_sound) .initial last
  exact ⟨pool, reached, running, reached_oneRound reached .messageRelay,
    reached_oneRound reached .reconcile⟩

/-- Replies under which the scan itself fails. -/
def noScans : (task : Background) → (r : task.Request) → Except Fault (task.Reply r)
  | .messageRelay, .mqClient => .ok ()
  | _, _ => .error .db

/-- The first scan of the relay fails: the flag stays set though no round is queued or
executing. -/
theorem scan_disables : ∃ pool,
    Transitions.Reached step (fun _ _ => True) (initial 8) pool ∧
      ¬pool.OneRound .messageRelay := by
  have ran : ((Transitions.runWhere step (fun _ _ => true) (initial 8)
      ([.tick .messageRelay, .take 0] ++ List.replicate 3 (.perform 0 noScans))).map
        fun pool => (pool.running .messageRelay, pool.rounds .messageRelay)) = some (true, 0) := by
    decide +kernel
  obtain ⟨pool, last, state⟩ := Option.map_eq_some_iff.mp ran
  obtain ⟨running, none⟩ : pool.running .messageRelay = true ∧ pool.rounds .messageRelay = 0 := by
    simpa using state
  refine ⟨pool, .of_runWhere (fun _ _ _ => trivial) .initial last, fun one => ?_⟩
  have counted := one.flag.mp running
  omega

end Pool

end TradeReconcile
