import TradeReconcile.Transactions.Program

/-!
# Reasoning about one call under interference

A discipline states an invariant of the shared store, what a running call may
assume of the steps taken by the others, and when two calls are far enough apart
for a publication of the first to respect the assumptions of the second. `Safe`
is the weakest condition under which a program keeps the discipline at each of
its own requests, whatever the others do between two requests, and answers with
its postcondition. If every admitted call starts safe, then every reachable
system satisfies the invariant and every finished call its postcondition.

The rule is for arbitrary engines and programs. Locks are held exclusively by
construction of the step function, and the system-level theorem proves it; a
discipline adds only what its own programs rely on.
-/

namespace Transactions

variable {Call Db Change Lock Stmt : Type} {Resp : Stmt → Type} {Env Fault α : Type}

/-- Shared invariant, guaranteed publications, tolerated interference, expected
answers of the environment and separation of two calls. -/
structure Discipline (Call Db Change Lock Env : Type) where
  Inv : Shared Db → Prop
  Guar : Call → Session Db Change Lock → Db → Db → Prop
  Rely : Call → Session Db Change Lock → Shared Db → Shared Db → Prop
  Answers : Call → Session Db Change Lock → Shared Db → Env → Prop
  Apart : Call → Session Db Change Lock → Call → Session Db Change Lock → Prop
  refl : ∀ call session shared, Rely call session shared shared
  trans : ∀ call session first second third, Rely call session first second →
    Rely call session second third → Rely call session first third
  tick : ∀ call session shared, Inv shared →
    Inv shared.tick ∧ Rely call session shared shared.tick

/-- Publishing the session's images is a guaranteed step of its call, keeps the
invariant and disturbs no call that is apart from this one. -/
structure Discipline.Published (D : Discipline Call Db Change Lock Env)
    (E : Engine Db Change Lock Stmt Resp Env Fault) (call : Call)
    (session : Session Db Change Lock) (shared : Shared Db) : Prop where
  guar : session.own ≠ [] →
    D.Guar call session shared.committed (E.publish session shared).2.committed
  inv : D.Inv (E.publish session shared).2
  others : ∀ other held, D.Apart call session other held →
    D.Rely other held shared (E.publish session shared).2

/-- The program keeps the discipline from here on. Each request is judged at
every store that tolerated interference may have produced meanwhile. -/
def Safe (D : Discipline Call Db Change Lock Env) (E : Engine Db Change Lock Stmt Resp Env Fault)
    (call : Call) (post : α → Session Db Change Lock → Shared Db → Prop) :
    Program Stmt Resp Env Fault α → Session Db Change Lock → Shared Db → Prop
  | .done value, session, shared =>
    ∀ now, D.Rely call session shared now → D.Inv now → post value session now
  | .ask k, session, shared =>
    ∀ now, D.Rely call session shared now → D.Inv now →
      ∀ env, D.Answers call session now env → Safe D E call post (k env) session now
  | .start k, session, shared =>
    ∀ now, D.Rely call session shared now → D.Inv now →
      (∀ fault, Safe D E call post (k (.error fault)) session now) ∧
        Safe D E call post (k (.ok ())) session.cleared now
  | .statement s k, session, shared =>
    ∀ now, D.Rely call session shared now → D.Inv now →
      match E.source s with
      | .snapshot =>
        (∀ fault, Safe D E call post (k (.error fault)) session.cleared now) ∧
          ∀ env reply changes,
            E.run s now.counter env
              (E.overlay (session.snapshot.getD now.committed) session.own) =
                .ok (reply, changes) →
            Safe D E call post (k (.ok reply))
              { session with snapshot := some (session.snapshot.getD now.committed) } now
      | .current =>
        (∀ fault, Safe D E call post (k (.error fault)) session.cleared now) ∧
          ∀ env reply changes,
            E.run s now.counter env (E.overlay now.committed session.own) =
              .ok (reply, changes) →
            Safe D E call post (k (.ok reply))
              { session with
                own := session.own ++ changes
                locks := session.locks ++
                  E.locks s now.counter (E.overlay now.committed session.own) } now.tick
      | .client =>
        (∀ fault, Safe D E call post (k (.error fault)) session now) ∧
          ∀ env reply changes,
            E.run s now.counter env now.committed = .ok (reply, changes) →
            Safe D E call post (k (.ok reply)) session now
  | .commit k, session, shared =>
    ∀ now, D.Rely call session shared now → D.Inv now →
      (∀ fault, Safe D E call post (k (.error fault)) session.cleared now) ∧
        D.Published E call session now ∧
        Safe D E call post (k (.ok ())) (E.publish session now).1 (E.publish session now).2
  | .rollback k, session, shared =>
    ∀ now, D.Rely call session shared now → D.Inv now →
      Safe D E call post k session.cleared now
  | .release k, session, shared =>
    ∀ now, D.Rely call session shared now → D.Inv now →
      D.Published E call session now ∧
        Safe D E call post k (E.publish session now).1 (E.publish session now).2

section Rules

variable {D : Discipline Call Db Change Lock Env} {E : Engine Db Change Lock Stmt Resp Env Fault}
variable {call : Call} {post : α → Session Db Change Lock → Shared Db → Prop}

/-- Tolerated interference keeps a safe program safe. -/
theorem Safe.interfered {program : Program Stmt Resp Env Fault α}
    {session : Session Db Change Lock} {shared now : Shared Db}
    (safe : Safe D E call post program session shared)
    (moved : D.Rely call session shared now) : Safe D E call post program session now := by
  cases program <;>
    exact fun later further holds =>
      safe later (D.trans call session shared now later moved further) holds

/-- A weaker postcondition. The induction is on the program, under which the safety of every
continuation is weakened. -/
theorem safe_mono {weaker : α → Session Db Change Lock → Shared Db → Prop}
    {program : Program Stmt Resp Env Fault α} {session : Session Db Change Lock}
    {shared : Shared Db} (safe : Safe D E call post program session shared)
    (implies : ∀ value session shared, post value session shared → weaker value session shared) :
    Safe D E call weaker program session shared := by
  induction program generalizing session shared with
  | done value => exact fun now moved holds => implies value session now (safe now moved holds)
  | ask k inductionHypothesis =>
    exact fun now moved holds env expected =>
      inductionHypothesis env (safe now moved holds env expected)
  | start k inductionHypothesis =>
    intro now moved holds
    obtain ⟨failed, started⟩ := safe now moved holds
    exact ⟨fun fault => inductionHypothesis _ (failed fault), inductionHypothesis _ started⟩
  | statement s k inductionHypothesis =>
    intro now moved holds
    have here := safe now moved holds
    cases source : E.source s <;> simp only [source] at here ⊢ <;>
      exact ⟨fun fault => inductionHypothesis _ (here.1 fault),
        fun env reply changes ran => inductionHypothesis _ (here.2 env reply changes ran)⟩
  | commit k inductionHypothesis =>
    intro now moved holds
    obtain ⟨failed, published, rest⟩ := safe now moved holds
    exact ⟨fun fault => inductionHypothesis _ (failed fault), published,
      inductionHypothesis _ rest⟩
  | rollback k inductionHypothesis =>
    exact fun now moved holds => inductionHypothesis (safe now moved holds)
  | release k inductionHypothesis =>
    intro now moved holds
    obtain ⟨published, rest⟩ := safe now moved holds
    exact ⟨published, inductionHypothesis rest⟩

/-- Sequential composition: the first program's postcondition is that the second
is safe. -/
theorem Safe.bind {β : Type} {post : β → Session Db Change Lock → Shared Db → Prop}
    {program : Program Stmt Resp Env Fault α} {next : α → Program Stmt Resp Env Fault β}
    {session : Session Db Change Lock} {shared : Shared Db}
    (safe : Safe D E call (fun value session shared =>
      Safe D E call post (next value) session shared) program session shared)
    (holds : D.Inv shared) :
    Safe D E call post (program.bind next) session shared := by
  induction program generalizing session shared with
  | done value => exact safe shared (D.refl call session shared) holds
  | ask k inductionHypothesis =>
    intro now moved holds env expected
    exact inductionHypothesis env (safe now moved holds env expected) holds
  | start k inductionHypothesis =>
    intro now moved holds
    obtain ⟨failed, started⟩ := safe now moved holds
    exact ⟨fun fault => inductionHypothesis _ (failed fault) holds,
      inductionHypothesis _ started holds⟩
  | statement s k inductionHypothesis =>
    intro now moved holds
    have here := safe now moved holds
    have ticked : D.Inv now.tick := (D.tick call session now holds).1
    cases source : E.source s with
    | snapshot =>
      simp only [source] at here ⊢
      exact ⟨fun fault => inductionHypothesis _ (here.1 fault) holds,
        fun env reply changes ran => inductionHypothesis _ (here.2 env reply changes ran) holds⟩
    | current =>
      simp only [source] at here ⊢
      exact ⟨fun fault => inductionHypothesis _ (here.1 fault) holds,
        fun env reply changes ran => inductionHypothesis _ (here.2 env reply changes ran) ticked⟩
    | client =>
      simp only [source] at here ⊢
      exact ⟨fun fault => inductionHypothesis _ (here.1 fault) holds,
        fun env reply changes ran => inductionHypothesis _ (here.2 env reply changes ran) holds⟩
  | commit k inductionHypothesis =>
    intro now moved holds
    obtain ⟨failed, published, rest⟩ := safe now moved holds
    exact ⟨fun fault => inductionHypothesis _ (failed fault) holds, published,
      inductionHypothesis _ rest published.inv⟩
  | rollback k inductionHypothesis =>
    intro now moved holds
    exact inductionHypothesis (safe now moved holds) holds
  | release k inductionHypothesis =>
    intro now moved holds
    obtain ⟨published, rest⟩ := safe now moved holds
    exact ⟨published, inductionHypothesis rest published.inv⟩

/-- A session without images publishes nothing, so its end disturbs nobody. -/
theorem published_empty {session : Session Db Change Lock} {shared : Shared Db}
    (empty : session.own = []) (holds : D.Inv shared) : D.Published E call session shared := by
  have same : (E.publish session shared).2 = shared := by simp [Engine.publish, empty]
  refine ⟨fun written => absurd empty written, by rw [same]; exact holds, fun other held _ => ?_⟩
  rw [same]
  exact D.refl other held shared

end Rules

/-- The next request asks the environment. -/
def asks : Program Stmt Resp Env Fault α → Bool
  | .ask _ => true
  | _ => false

/-- The next request would change the committed database: it is a commit, and there is
something to commit. -/
def publishes (program : Program Stmt Resp Env Fault α) (session : Session Db Change Lock) : Bool :=
  match program with
  | .commit _ => !session.own.isEmpty
  | .release _ => !session.own.isEmpty
  | _ => false

/-- Who publishes has written something. -/
theorem publishes_own {program : Program Stmt Resp Env Fault α} {session : Session Db Change Lock}
    (publishing : publishes program session = true) : session.own ≠ [] := by
  cases program with
  | commit k | release k => simpa [publishes] using publishing
  | done | ask | start | statement | rollback => cases publishing

/-- What the discipline establishes of a whole system: the invariant of the store, a safe
continuation for every call, a history of publications that were all permitted, and no lock
held twice. -/
structure Sound (D : Discipline Call Db Change Lock Env)
    (E : Engine Db Change Lock Stmt Resp Env Fault)
    (post : Call → α → Session Db Change Lock → Shared Db → Prop)
    (system : System Call Stmt Resp Env Fault α Db Change Lock) : Prop where
  inv : D.Inv system.shared
  safe : ∀ (caller : Nat) active, system.calls[caller]? = some active →
    Safe D E active.call (post active.call) active.program active.session system.shared
  history : ∀ (caller : Nat) active, system.calls[caller]? = some active →
    ∀ pair ∈ active.session.published, ∃ held, D.Guar active.call held pair.1 pair.2
  exclusive : ∀ (left right : Nat) one two, left ≠ right → system.calls[left]? = some one →
    system.calls[right]? = some two → one.session.locks.Disjoint two.session.locks

section Soundness

variable {D : Discipline Call Db Change Lock Env} {E : Engine Db Change Lock Stmt Resp Env Fault}

/-- What a single step does to its own call and to the shared store: the call
stays safe, the invariant holds, the new locks were free, and the store changes
only by handing out a row number or by publishing. -/
structure Stepped (D : Discipline Call Db Change Lock Env)
    (E : Engine Db Change Lock Stmt Resp Env Fault) (held : Lock → Bool) (call : Call)
    (post : α → Session Db Change Lock → Shared Db → Prop)
    (program : Program Stmt Resp Env Fault α) (session : Session Db Change Lock)
    (shared : Shared Db) (next : Program Stmt Resp Env Fault α)
    (after : Session Db Change Lock) (now : Shared Db) : Prop where
  inv : D.Inv now
  safe : Safe D E call post next after now
  fresh : ∀ lock ∈ after.locks, lock ∈ session.locks ∨ held lock = false
  history : ∀ pair ∈ after.published,
    pair ∈ session.published ∨ ∃ held, D.Guar call held pair.1 pair.2
  others : (∀ other held, D.Rely other held shared now) ∨
    (publishes program session = true ∧
      ∀ other held, D.Apart call session other held → D.Rely other held shared now)

/-- Publishing leaves no lock behind. -/
theorem publish_locks (session : Session Db Change Lock) (shared : Shared Db) :
    (E.publish session shared).1.locks = [] := by
  unfold Engine.publish
  split <;> rfl

/-- A publication enters the history as a guaranteed step. -/
theorem published_history {call : Call} {session : Session Db Change Lock} {shared : Shared Db}
    (published : D.Published E call session shared) :
    ∀ pair ∈ (E.publish session shared).1.published,
      pair ∈ session.published ∨ ∃ held, D.Guar call held pair.1 pair.2 := by
  intro pair member
  cases own : session.own with
  | nil =>
    simp only [Engine.publish, own] at member
    exact .inl member
  | cons change rest =>
    have guar := published.guar (by simp [own])
    simp only [Engine.publish, own, List.mem_append, List.mem_singleton] at member guar
    rcases member with old | rfl
    · exact .inl old
    · exact .inr ⟨session, guar⟩

/-- The publication of a safe session, seen by the others. -/
theorem published_others {call : Call} {program : Program Stmt Resp Env Fault α}
    {session : Session Db Change Lock} {shared : Shared Db}
    (published : D.Published E call session shared)
    (publishing : publishes program session =
      !session.own.isEmpty) :
    (∀ other held, D.Rely other held shared (E.publish session shared).2) ∨
      (publishes program session = true ∧
        ∀ other held, D.Apart call session other held →
          D.Rely other held shared (E.publish session shared).2) := by
  by_cases empty : session.own = []
  · left
    intro other held
    simp only [Engine.publish, empty]
    exact D.refl other held shared
  · right
    exact ⟨by simpa [publishing] using empty, published.others⟩

/-- A safe program stays safe across each of its own successful requests. The cases are the
requests; a statement that has to wait for a lock does not advance, so its locks are free
here. -/
theorem advance_stepped (held : Lock → Bool) (env : Env) (call : Call)
    (post : α → Session Db Change Lock → Shared Db → Prop)
    {program next : Program Stmt Resp Env Fault α} {session after : Session Db Change Lock}
    {shared now : Shared Db} (holds : D.Inv shared)
    (safe : Safe D E call post program session shared)
    (expected : asks program = true → D.Answers call session shared env)
    (taken : advance E held env program session shared = some (next, after, now)) :
    Stepped D E held call post program session shared next after now := by
  have unmoved : ∀ other (session : Session Db Change Lock), D.Rely other session shared shared :=
    fun other session => D.refl other session shared
  have here := D.refl call session shared
  have kept : ∀ pair ∈ session.published,
      pair ∈ session.published ∨ ∃ held, D.Guar call held pair.1 pair.2 :=
    fun pair member => .inl member
  have noLocks : ∀ lock ∈ session.cleared.locks, lock ∈ session.locks ∨ held lock = false := by
    simp
  cases program with
  | done value => simp [advance] at taken
  | ask k =>
    simp only [advance, Option.some.injEq, Prod.mk.injEq] at taken
    obtain ⟨rfl, rfl, rfl⟩ := taken
    exact ⟨holds, safe shared here holds env (expected rfl), fun lock member => .inl member, kept, .inl unmoved⟩
  | start k =>
    simp only [advance, Option.some.injEq, Prod.mk.injEq] at taken
    obtain ⟨rfl, rfl, rfl⟩ := taken
    exact ⟨holds, (safe shared here holds).2, noLocks, kept, .inl unmoved⟩
  | statement s k =>
    have step := safe shared here holds
    cases source : E.source s with
    | snapshot =>
      simp only [advance, source] at taken step
      split at taken
      · simp only [Option.some.injEq, Prod.mk.injEq] at taken
        obtain ⟨rfl, rfl, rfl⟩ := taken
        exact ⟨holds, step.1 _, noLocks, kept, .inl unmoved⟩
      · rename_i reply changes ran
        simp only [Option.some.injEq, Prod.mk.injEq] at taken
        obtain ⟨rfl, rfl, rfl⟩ := taken
        exact ⟨holds, step.2 env reply changes ran, fun lock member => .inl member, kept, .inl unmoved⟩
    | current =>
      simp only [advance, source] at taken step
      split at taken
      · simp at taken
      · rename_i free
        split at taken
        · simp only [Option.some.injEq, Prod.mk.injEq] at taken
          obtain ⟨rfl, rfl, rfl⟩ := taken
          exact ⟨holds, step.1 _, noLocks, kept, .inl unmoved⟩
        · rename_i reply changes ran
          simp only [Option.some.injEq, Prod.mk.injEq] at taken
          obtain ⟨rfl, rfl, rfl⟩ := taken
          refine ⟨(D.tick call session shared holds).1, step.2 env reply changes ran, ?_, kept,
            .inl fun other session => (D.tick other session shared holds).2⟩
          intro lock member
          rcases List.mem_append.mp member with old | new
          · exact .inl old
          · right
            simp only [List.any_eq_true, not_exists, not_and, Bool.not_eq_true] at free
            exact free lock new
    | client =>
      simp only [advance, source] at taken step
      split at taken
      · simp only [Option.some.injEq, Prod.mk.injEq] at taken
        obtain ⟨rfl, rfl, rfl⟩ := taken
        exact ⟨holds, step.1 _, fun lock member => .inl member, kept, .inl unmoved⟩
      · rename_i reply changes ran
        simp only [Option.some.injEq, Prod.mk.injEq] at taken
        obtain ⟨rfl, rfl, rfl⟩ := taken
        exact ⟨holds, step.2 env reply changes ran, fun lock member => .inl member, kept, .inl unmoved⟩
  | commit k =>
    obtain ⟨_, published, rest⟩ := safe shared here holds
    simp only [advance, Option.some.injEq, Prod.mk.injEq] at taken
    obtain ⟨rfl, rfl, rfl⟩ := taken
    exact ⟨published.inv, rest, by simp [publish_locks], published_history published,
      published_others published rfl⟩
  | rollback k =>
    simp only [advance, Option.some.injEq, Prod.mk.injEq] at taken
    obtain ⟨rfl, rfl, rfl⟩ := taken
    exact ⟨holds, safe shared here holds, noLocks, kept, .inl unmoved⟩
  | release k =>
    obtain ⟨published, rest⟩ := safe shared here holds
    simp only [advance, Option.some.injEq, Prod.mk.injEq] at taken
    obtain ⟨rfl, rfl, rfl⟩ := taken
    exact ⟨published.inv, rest, by simp [publish_locks], published_history published,
      published_others published rfl⟩

/-- A failed request leaves the store alone and the program safe. Whether it ends the
transaction depends on the fault, and the program is safe either way. -/
theorem interrupt_stepped (held : Lock → Bool) (fault : Fault) (call : Call)
    (post : α → Session Db Change Lock → Shared Db → Prop)
    {program next : Program Stmt Resp Env Fault α} {session after : Session Db Change Lock}
    {shared : Shared Db} (holds : D.Inv shared)
    (safe : Safe D E call post program session shared)
    (taken : interrupt E fault program session = some (next, after)) :
    Stepped D E held call post program session shared next after shared := by
  have unmoved : ∀ other (session : Session Db Change Lock), D.Rely other session shared shared :=
    fun other session => D.refl other session shared
  have here := D.refl call session shared
  have kept : ∀ pair ∈ session.published,
      pair ∈ session.published ∨ ∃ held, D.Guar call held pair.1 pair.2 :=
    fun pair member => .inl member
  cases program with
  | start k =>
    simp only [interrupt, Option.some.injEq, Prod.mk.injEq] at taken
    obtain ⟨rfl, rfl⟩ := taken
    exact ⟨holds, (safe shared here holds).1 fault, fun lock member => .inl member, kept, .inl unmoved⟩
  | statement s k =>
    have step := safe shared here holds
    cases source : E.source s <;>
      simp only [interrupt, source, Option.some.injEq, Prod.mk.injEq] at taken step <;>
      obtain ⟨rfl, rfl⟩ := taken
    · exact ⟨holds, step.1 fault, by simp, kept, .inl unmoved⟩
    · exact ⟨holds, step.1 fault, by simp, kept, .inl unmoved⟩
    · exact ⟨holds, step.1 fault, fun lock member => .inl member, kept, .inl unmoved⟩
  | commit k =>
    simp only [interrupt, Option.some.injEq, Prod.mk.injEq] at taken
    obtain ⟨rfl, rfl⟩ := taken
    exact ⟨holds, (safe shared here holds).1 fault, by simp, kept, .inl unmoved⟩
  | done | ask | rollback | release => simp [interrupt] at taken

/-- A safe call about to publish may do so. -/
theorem Safe.published {call : Call} {post : α → Session Db Change Lock → Shared Db → Prop}
    {program : Program Stmt Resp Env Fault α} {session : Session Db Change Lock}
    {shared : Shared Db} (safe : Safe D E call post program session shared)
    (holds : D.Inv shared) (publishing : publishes program session = true) :
    D.Published E call session shared := by
  have here := D.refl call session shared
  cases program with
  | commit k => exact (safe shared here holds).2.1
  | release k => exact (safe shared here holds).1
  | done | ask | start | statement | rollback => cases publishing

variable [DecidableEq Lock]

/-- The scheduler's test for a free lock, in terms of the other calls. -/
theorem heldByOther_false {system : System Call Stmt Resp Env Fault α Db Change Lock}
    {caller : Nat} {lock : Lock} (free : system.heldByOther caller lock = false) (other : Nat)
    (active : Active Call Stmt Resp Env Fault α Db Change Lock) (distinct : other ≠ caller)
    (present : system.calls[other]? = some active) : lock ∉ active.session.locks := by
  intro member
  have inside : other < system.calls.length := (List.getElem?_eq_some_iff.mp present).1
  have found : system.heldByOther caller lock = true := by
    simp only [System.heldByOther, List.any_eq_true, List.mem_range, Bool.and_eq_true, bne_iff_ne]
    exact ⟨other, inside, distinct, by simp [present, member]⟩
  simp [free] at found

/-- One call's step keeps the whole system sound, provided that the other calls
tolerate what it did to the store. -/
theorem stepped_sound {post : Call → α → Session Db Change Lock → Shared Db → Prop}
    {system : System Call Stmt Resp Env Fault α Db Change Lock} (sound : Sound D E post system)
    {caller : Nat} {active : Active Call Stmt Resp Env Fault α Db Change Lock}
    (present : system.calls[caller]? = some active)
    {next : Program Stmt Resp Env Fault α} {after : Session Db Change Lock} {now : Shared Db}
    (stepped : Stepped D E (system.heldByOther caller) active.call (post active.call)
      active.program active.session system.shared next after now)
    (tolerated : ∀ (other : Nat) running, other ≠ caller → system.calls[other]? = some running →
      D.Rely running.call running.session system.shared now) :
    Sound D E post ⟨now, system.calls.set caller ⟨active.call, next, after⟩⟩ := by
  -- A new lock was free, an old one was already exclusive.
  have separate : ∀ (other : Nat) running, other ≠ caller →
      system.calls[other]? = some running → after.locks.Disjoint running.session.locks := by
    intro other running distinct stored lock mine theirs
    rcases stepped.fresh lock mine with old | free
    · exact sound.exclusive caller other active running (Ne.symm distinct) present stored old theirs
    · exact heldByOther_false free other running distinct stored theirs
  refine ⟨stepped.inv, ?_, ?_, ?_⟩
  · intro index found stored
    rcases getElem?_set_cases stored with ⟨rfl, rfl⟩ | ⟨distinct, stored⟩
    · exact stepped.safe
    · exact (sound.safe index found stored).interfered (tolerated index found distinct stored)
  · intro index found stored pair member
    rcases getElem?_set_cases stored with ⟨rfl, rfl⟩ | ⟨distinct, stored⟩
    · rcases stepped.history pair member with old | guaranteed
      · exact sound.history index active present pair old
      · exact guaranteed
    · exact sound.history index found stored pair member
  · intro left right one two distinct first second
    rcases getElem?_set_cases first with ⟨leftSame, rfl⟩ | ⟨leftOther, first⟩
    · rcases getElem?_set_cases second with ⟨rightSame, rfl⟩ | ⟨rightOther, second⟩
      · exact absurd (leftSame.trans rightSame.symm) distinct
      · exact separate right two rightOther second
    · rcases getElem?_set_cases second with ⟨rightSame, rfl⟩ | ⟨rightOther, second⟩
      · exact fun lock theirs mine => separate left one leftOther first mine theirs
      · exact sound.exclusive left right one two distinct first second

/-- Every reachable system is sound when each admitted call starts safe, the
environment answers as expected and each admitted publication is apart from the
other calls.

Proof: induction over the schedule. A new call is safe by assumption and holds
no lock. A step of one call keeps it safe by definition, and the others are kept
safe by the interference the step is allowed to cause. -/
theorem reached_sound {program : Call → Program Stmt Resp Env Fault α}
    {admits : System Call Stmt Resp Env Fault α Db Change Lock → Action Call Env Fault → Prop}
    {post : Call → α → Session Db Change Lock → Shared Db → Prop} {first : Shared Db}
    (started : D.Inv first)
    (entry : ∀ system call shared, admits system (.call call) → D.Inv shared →
      Safe D E call (post call) (program call) .idle shared)
    (asked : ∀ (system : System Call Stmt Resp Env Fault α Db Change Lock) (caller : Nat) env active,
      admits system (.advance caller env) → system.calls[caller]? = some active →
      asks active.program = true → D.Answers active.call active.session system.shared env)
    (apart : ∀ (system : System Call Stmt Resp Env Fault α Db Change Lock) (caller : Nat) env
      active, admits system (.advance caller env) → system.calls[caller]? = some active →
      publishes active.program active.session = true → ∀ (other : Nat) running, other ≠ caller →
      system.calls[other]? = some running →
      active.session.locks.Disjoint running.session.locks →
        D.Apart active.call active.session running.call running.session)
    {system : System Call Stmt Resp Env Fault α Db Change Lock}
    (reached : System.Reached E program admits first system) : Sound D E post system := by
  induction reached with
  | initial =>
    exact ⟨started, by simp [System.initial], by simp [System.initial], by simp [System.initial]⟩
  | @step system next action before admitted taken sound =>
    rcases System.step_cases taken with ⟨request, rfl, rfl⟩ |
      ⟨caller, env, active, moved, after, now, rfl, present, ran, rfl⟩ |
      ⟨caller, fault, active, moved, after, rfl, present, ran, rfl⟩
    · refine ⟨sound.inv, ?_, ?_, ?_⟩
      · intro index found stored
        rcases getElem?_snoc_cases stored with old | rfl
        · exact sound.safe index found old
        · exact entry system request system.shared admitted sound.inv
      · intro index found stored pair member
        rcases getElem?_snoc_cases stored with old | rfl
        · exact sound.history index found old pair member
        · simp [Session.idle] at member
      · intro left right one two distinct first second
        rcases getElem?_snoc_cases first with old | rfl
        · rcases getElem?_snoc_cases second with older | rfl
          · exact sound.exclusive left right one two distinct old older
          · simp [Session.idle]
        · simp [Session.idle]
    · have stepped := advance_stepped (system.heldByOther caller) env _ _ sound.inv
        (sound.safe caller active present) (asked system caller env active admitted present) ran
      apply stepped_sound sound present stepped
      intro other running distinct stored
      rcases stepped.others with unmoved | ⟨publishing, tolerated⟩
      · exact unmoved running.call running.session
      · exact tolerated running.call running.session
          (apart system caller env active admitted present publishing other running distinct
            stored (sound.exclusive caller other active running (Ne.symm distinct) present stored))
    · exact stepped_sound sound present (interrupt_stepped (system.heldByOther caller) fault _ _
        sound.inv (sound.safe caller active present) ran)
        fun other running _ _ => D.refl running.call running.session system.shared

end Soundness

end Transactions
