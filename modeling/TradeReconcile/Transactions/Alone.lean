import TradeReconcile.Transactions.History

/-!
# Programs that run alone

Without other sessions no lock is held and nothing moves between two requests, so every
request has its reply at once. `Achieves` is the weakest condition under which a program
that runs alone ends with its postcondition, whatever the environment answers within what
is expected of it. Requests may be allowed to fail. Without failures the condition is one
of total correctness: every stream of expected answers carries the program to its end.
-/

namespace Transactions

variable {Db Change Lock Stmt : Type} {Resp : Stmt → Type} {Env Fault α β : Type}

/-- The reply to a statement of a session that is alone, and what it leaves. No lock of
another session has to be waited for. -/
def answered (E : Engine Db Change Lock Stmt Resp Env Fault) (env : Env) (s : Stmt)
    (session : Session Db Change Lock) (shared : Shared Db) :
    Except Fault (Resp s) × Session Db Change Lock × Shared Db :=
  match E.source s with
  | .snapshot =>
    let base := session.snapshot.getD shared.committed
    match E.run s shared.counter env (E.overlay base session.own) with
    | .error fault => (.error fault, session.cleared, shared)
    | .ok (reply, _) => (.ok reply, { session with snapshot := some base }, shared)
  | .current =>
    let view := E.overlay shared.committed session.own
    match E.run s shared.counter env view with
    | .error fault => (.error fault, session.cleared, shared)
    | .ok (reply, changes) =>
      (.ok reply,
        { session with
          own := session.own ++ changes
          locks := session.locks ++ E.locks s shared.counter view },
        shared.tick)
  | .client =>
    match E.run s shared.counter env shared.committed with
    | .error fault => (.error fault, session, shared)
    | .ok (reply, _) => (.ok reply, session, shared)

/-- The session after a statement that failed. -/
def failed (E : Engine Db Change Lock Stmt Resp Env Fault) (s : Stmt)
    (session : Session Db Change Lock) : Session Db Change Lock :=
  match E.source s with
  | .client => session
  | _ => session.cleared

variable {E : Engine Db Change Lock Stmt Resp Env Fault}

/-- A statement of a call alone meets no foreign lock, so it is answered. -/
theorem advance_answered (env : Env) (s : Stmt)
    (k : Except Fault (Resp s) → Program Stmt Resp Env Fault α) (session : Session Db Change Lock)
    (shared : Shared Db) :
    advance E (fun _ => false) env (.statement s k) session shared =
      some (k (answered E env s session shared).1, (answered E env s session shared).2.1,
        (answered E env s session shared).2.2) := by
  have free : ∀ wanted : List Lock, (wanted.any fun _ => false) = false := by simp
  unfold answered
  cases source : E.source s with
  | snapshot =>
    simp only [advance, source]
    cases E.run s shared.counter env
      (E.overlay (session.snapshot.getD shared.committed) session.own) <;> rfl
  | current =>
    simp only [advance, source, free, Bool.false_eq_true, if_false]
    cases E.run s shared.counter env (E.overlay shared.committed session.own) <;> rfl
  | client =>
    simp only [advance, source]
    cases E.run s shared.counter env shared.committed <;> rfl

/-- A failing statement continues the call with the fault. -/
theorem interrupt_failed (fault : Fault) (s : Stmt)
    (k : Except Fault (Resp s) → Program Stmt Resp Env Fault α)
    (session : Session Db Change Lock) :
    interrupt E fault (.statement s k) session =
      some (k (.error fault), failed E s session) := by
  unfold failed
  cases source : E.source s <;> simp only [interrupt, source]

/-- The program that runs alone ends with the postcondition. Requests fail only where
faults are allowed, and the environment answers as expected. -/
def Achieves (E : Engine Db Change Lock Stmt Resp Env Fault) (faults : Prop) (expects : Env → Prop)
    (post : α → Session Db Change Lock → Shared Db → Prop) :
    Program Stmt Resp Env Fault α → Session Db Change Lock → Shared Db → Prop
  | .done value, session, shared => post value session shared
  | .ask k, session, shared =>
    ∀ env, expects env → Achieves E faults expects post (k env) session shared
  | .start k, session, shared =>
    (faults → ∀ fault, Achieves E faults expects post (k (.error fault)) session shared) ∧
      Achieves E faults expects post (k (.ok ())) session.cleared shared
  | .statement s k, session, shared =>
    (faults → ∀ fault,
        Achieves E faults expects post (k (.error fault)) (failed E s session) shared) ∧
      ∀ env, expects env →
        Achieves E faults expects post (k (answered E env s session shared).1)
          (answered E env s session shared).2.1 (answered E env s session shared).2.2
  | .commit k, session, shared =>
    (faults → ∀ fault, Achieves E faults expects post (k (.error fault)) session.cleared shared) ∧
      Achieves E faults expects post (k (.ok ())) (E.publish session shared).1
        (E.publish session shared).2
  | .rollback k, session, shared => Achieves E faults expects post k session.cleared shared
  | .release k, session, shared =>
    Achieves E faults expects post k (E.publish session shared).1 (E.publish session shared).2

section Rules

variable {faults : Prop} {expects : Env → Prop} {session : Session Db Change Lock}
  {shared : Shared Db}

/-- What always holds is achieved. -/
theorem achieves_of_forall {post : α → Session Db Change Lock → Shared Db → Prop}
    (always : ∀ value session shared, post value session shared)
    (program : Program Stmt Resp Env Fault α) (session : Session Db Change Lock)
    (shared : Shared Db) : Achieves E faults expects post program session shared := by
  induction program generalizing session shared with
  | done value => exact always value session shared
  | ask k inductionHypothesis => exact fun env _ => inductionHypothesis env session shared
  | start k inductionHypothesis =>
    exact ⟨fun _ fault => inductionHypothesis _ session shared,
      inductionHypothesis _ session.cleared shared⟩
  | statement s k inductionHypothesis =>
    exact ⟨fun _ fault => inductionHypothesis _ _ shared, fun env _ => inductionHypothesis _ _ _⟩
  | commit k inductionHypothesis =>
    exact ⟨fun _ fault => inductionHypothesis _ _ shared, inductionHypothesis _ _ _⟩
  | rollback k inductionHypothesis => exact inductionHypothesis session.cleared shared
  | release k inductionHypothesis => exact inductionHypothesis _ _

/-- What a program achieves is enough for what follows it. -/
theorem Achieves.andThen {post : α → Session Db Change Lock → Shared Db → Prop}
    {final : β → Session Db Change Lock → Shared Db → Prop}
    {program : Program Stmt Resp Env Fault α} {next : α → Program Stmt Resp Env Fault β}
    (achieves : Achieves E faults expects post program session shared)
    (continues : ∀ value session shared, post value session shared →
      Achieves E faults expects final (next value) session shared) :
    Achieves E faults expects final (program.bind next) session shared := by
  induction program generalizing session shared with
  | done value => exact continues value session shared achieves
  | ask k inductionHypothesis =>
    exact fun env expected => inductionHypothesis env (achieves env expected)
  | start k inductionHypothesis | commit k inductionHypothesis =>
    exact ⟨fun allowed fault => inductionHypothesis _ (achieves.1 allowed fault),
      inductionHypothesis _ achieves.2⟩
  | statement s k inductionHypothesis =>
    exact ⟨fun allowed fault => inductionHypothesis _ (achieves.1 allowed fault),
      fun env expected => inductionHypothesis _ (achieves.2 env expected)⟩
  | rollback k inductionHypothesis | release k inductionHypothesis =>
    exact inductionHypothesis achieves

/-- What is achieved may be weakened. -/
theorem Achieves.mono {post weaker : α → Session Db Change Lock → Shared Db → Prop}
    {program : Program Stmt Resp Env Fault α}
    (achieves : Achieves E faults expects post program session shared)
    (implies : ∀ value session shared, post value session shared → weaker value session shared) :
    Achieves E faults expects weaker program session shared := by
  rw [← program.bind_done]
  exact achieves.andThen implies

/-- Sequential composition. -/
theorem Achieves.bind {post : β → Session Db Change Lock → Shared Db → Prop}
    {program : Program Stmt Resp Env Fault α} {next : α → Program Stmt Resp Env Fault β}
    (achieves : Achieves E faults expects (fun value session shared =>
      Achieves E faults expects post (next value) session shared) program session shared) :
    Achieves E faults expects post (program.bind next) session shared :=
  achieves.andThen fun _ _ _ continues => continues

end Rules

section Adequacy

variable {post : α → Session Db Change Lock → Shared Db → Prop}
  {program : Program Stmt Resp Env Fault α} {session : Session Db Change Lock}
  {shared : Shared Db}

/-- A successful request of a program that runs alone. What was achieved before is achieved by
what remains, from the session and the store after the request. -/
theorem Achieves.advanced {faults : Prop} {expects : Env → Prop} {env : Env}
    {next : Program Stmt Resp Env Fault α} {after : Session Db Change Lock} {now : Shared Db}
    (achieves : Achieves E faults expects post program session shared) (expected : expects env)
    (taken : advance E (fun _ => false) env program session shared = some (next, after, now)) :
    Achieves E faults expects post next after now := by
  cases program with
  | done value => simp [advance] at taken
  | statement s k =>
    rw [advance_answered] at taken
    simp only [Option.some.injEq, Prod.mk.injEq] at taken
    obtain ⟨rfl, rfl, rfl⟩ := taken
    exact achieves.2 env expected
  | ask k =>
    simp only [advance, Option.some.injEq, Prod.mk.injEq] at taken
    obtain ⟨rfl, rfl, rfl⟩ := taken
    exact achieves env expected
  | start k | commit k =>
    simp only [advance, Option.some.injEq, Prod.mk.injEq] at taken
    obtain ⟨rfl, rfl, rfl⟩ := taken
    exact achieves.2
  | rollback k | release k =>
    simp only [advance, Option.some.injEq, Prod.mk.injEq] at taken
    obtain ⟨rfl, rfl, rfl⟩ := taken
    exact achieves

/-- A failed request of a program that runs alone. -/
theorem Achieves.interrupted {expects : Env → Prop} {fault : Fault}
    {next : Program Stmt Resp Env Fault α} {after : Session Db Change Lock}
    (achieves : Achieves E True expects post program session shared)
    (taken : interrupt E fault program session = some (next, after)) :
    Achieves E True expects post next after shared := by
  cases program with
  | statement s k =>
    rw [interrupt_failed] at taken
    simp only [Option.some.injEq, Prod.mk.injEq] at taken
    obtain ⟨rfl, rfl⟩ := taken
    exact achieves.1 trivial fault
  | start k | commit k =>
    simp only [interrupt, Option.some.injEq, Prod.mk.injEq] at taken
    obtain ⟨rfl, rfl⟩ := taken
    exact achieves.1 trivial fault
  | done | ask | rollback | release => simp [interrupt] at taken

/-- Whatever ends alone, with any failures, ends with what is achieved under faults. -/
theorem achieves_solo {value : α} {after : Session Db Change Lock} {now : Shared Db}
    (achieves : Achieves E True (fun _ => True) post program session shared)
    (solo : Solo E program session shared (.done value) after now) : post value after now := by
  have along : ∀ {here : Program Stmt Resp Env Fault α} {mine : Session Db Change Lock}
      {later : Shared Db}, Solo E program session shared here mine later →
      Achieves E True (fun _ => True) post here mine later := by
    intro here mine later solo
    induction solo with
    | entered => exact achieves
    | advanced env _ taken inductionHypothesis => exact inductionHypothesis.advanced trivial taken
    | interrupted fault _ taken inductionHypothesis => exact inductionHypothesis.interrupted taken
  exact along solo

/-- A stream of answers carries the program to an end with the postcondition. -/
def Carried (E : Engine Db Change Lock Stmt Resp Env Fault)
    (post : α → Session Db Change Lock → Shared Db → Prop) (envs : Nat → Env)
    (program : Program Stmt Resp Env Fault α) (session : Session Db Change Lock)
    (shared : Shared Db) : Prop :=
  ∃ steps value after now,
    soloRun E ((List.range steps).map fun index => .ok (envs index)) program session shared =
      some (.done value, after, now) ∧ post value after now

/-- The first answer moves the program on, and the others carry it to the end. -/
theorem carried_succ {envs : Nat → Env} {next : Program Stmt Resp Env Fault α}
    {after : Session Db Change Lock} {now : Shared Db}
    (taken : advance E (fun _ => false) (envs 0) program session shared = some (next, after, now))
    (rest : Carried E post (fun index => envs (index + 1)) next after now) :
    Carried E post envs program session shared := by
  obtain ⟨steps, value, last, later, ran, ended⟩ := rest
  refine ⟨steps + 1, value, last, later, ?_, ended⟩
  simp only [List.range_succ_eq_map, List.map_cons, List.map_map, soloRun, taken]
  exact ran

/-- Every stream of expected answers carries the program to its end, which is as
achieved. -/
theorem achieves_run {expects : Env → Prop}
    (achieves : Achieves E False expects post program session shared) (envs : Nat → Env)
    (expected : ∀ index, expects (envs index)) : Carried E post envs program session shared := by
  induction program generalizing session shared envs with
  | done value => exact ⟨0, value, session, shared, rfl, achieves⟩
  | ask k inductionHypothesis =>
    have rest := inductionHypothesis (envs 0) (achieves (envs 0) (expected 0))
      (fun index => envs (index + 1)) fun index => expected (index + 1)
    exact carried_succ rfl rest
  | statement s k inductionHypothesis =>
    have rest := inductionHypothesis _ (achieves.2 (envs 0) (expected 0))
      (fun index => envs (index + 1)) fun index => expected (index + 1)
    exact carried_succ (advance_answered (envs 0) s k session shared) rest
  | start k inductionHypothesis | commit k inductionHypothesis =>
    have rest := inductionHypothesis _ achieves.2
      (fun index => envs (index + 1)) fun index => expected (index + 1)
    exact carried_succ rfl rest
  | rollback k inductionHypothesis | release k inductionHypothesis =>
    have rest := inductionHypothesis achieves
      (fun index => envs (index + 1)) fun index => expected (index + 1)
    exact carried_succ rfl rest

end Adequacy

end Transactions
