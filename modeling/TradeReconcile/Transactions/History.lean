import TradeReconcile.Transactions.Interference

/-!
# What a run leaves behind

The history of publications is exact: the committed database changes only by
publications, and each of them is recorded in the connection that made it. A snapshot
is the committed database of an earlier moment. A call
that runs alone therefore leaves the store where its own history ends, and in a
concurrent run whatever is new in the store was published by one of the calls.
Locks are confined to what a call's program can ask for.
-/

namespace Transactions

variable {Call Db Change Lock Stmt : Type} {Resp : Stmt → Type} {Env Fault α : Type}
variable {E : Engine Db Change Lock Stmt Resp Env Fault}

section Effects

variable {program next : Program Stmt Resp Env Fault α} {session after : Session Db Change Lock}
  {shared now : Shared Db}

/-- A session notes what it publishes: the databases before and after. -/
theorem publish_recorded {session : Session Db Change Lock} {shared : Shared Db}
    (written : session.own ≠ []) :
    (E.publish session shared).1.published =
      session.published ++ [(shared.committed, (E.publish session shared).2.committed)] := by
  cases own : session.own with
  | nil => exact absurd own written
  | cons change rest => simp [Engine.publish, own]

/-- A publication is recorded, and nothing is recorded without one. The history is kept beside
the system; no step reads it. -/
theorem publish_effect (session : Session Db Change Lock) (shared : Shared Db) :
    ((E.publish session shared).1.published = session.published ∧
        (E.publish session shared).2.committed = shared.committed) ∨
      (E.publish session shared).1.published =
        session.published ++ [(shared.committed, (E.publish session shared).2.committed)] := by
  by_cases empty : session.own = []
  · left
    simp [Engine.publish, empty]
  · exact .inr (publish_recorded empty)

/-- What follows a request that may publish, once it has succeeded. -/
def Program.resumed : Program Stmt Resp Env Fault α → Option (Program Stmt Resp Env Fault α)
  | .commit k => some (k (.ok ()))
  | .release k => some k
  | _ => none

/-- A request that publishes makes the session's images visible and does nothing
else. Every other request leaves the committed database and the history alone. -/
theorem advance_published {held : Lock → Bool} {env : Env}
    (taken : advance E held env program session shared = some (next, after, now)) :
    (publishes program session = true ∧ program.resumed = some next ∧
        E.publish session shared = (after, now)) ∨
      (after.published = session.published ∧ now.committed = shared.committed) := by
  cases program with
  | done value => simp [advance] at taken
  | ask k | start k | rollback k =>
    simp only [advance, Option.some.injEq, Prod.mk.injEq] at taken
    obtain ⟨_, rfl, rfl⟩ := taken
    exact .inr ⟨rfl, rfl⟩
  | statement s k =>
    right
    cases source : E.source s <;> simp only [advance, source] at taken <;>
      split at taken <;> try split at taken
    all_goals
      first
      | simp only [Option.some.injEq, Prod.mk.injEq] at taken
        obtain ⟨_, rfl, rfl⟩ := taken
        exact ⟨rfl, rfl⟩
      | simp at taken
  | commit k | release k =>
    simp only [advance, Option.some.injEq, Prod.mk.injEq] at taken
    obtain ⟨rfl, rfl, rfl⟩ := taken
    by_cases empty : session.own = []
    · right
      have unwritten : E.publish session shared = (session.cleared, shared) := by
        simp [Engine.publish, empty]
      rw [unwritten]
      exact ⟨rfl, rfl⟩
    · left
      exact ⟨by simpa [publishes] using empty, rfl, rfl⟩

/-- A successful request either changes neither the committed database nor the
history, or it extends the history by the change it makes. -/
theorem advance_effect {held : Lock → Bool} {env : Env}
    (taken : advance E held env program session shared = some (next, after, now)) :
    (after.published = session.published ∧ now.committed = shared.committed) ∨
      after.published = session.published ++ [(shared.committed, now.committed)] := by
  rcases advance_published taken with ⟨-, -, published⟩ | still
  · have effect := publish_effect (E := E) session shared
    rwa [published] at effect
  · exact .inl still

/-- A failed request is not recorded. -/
theorem interrupt_effect {fault : Fault}
    (taken : interrupt E fault program session = some (next, after)) :
    after.published = session.published := by
  cases program with
  | start k | commit k =>
    simp only [interrupt, Option.some.injEq, Prod.mk.injEq] at taken
    obtain ⟨_, rfl⟩ := taken
    rfl
  | statement s k =>
    cases source : E.source s <;>
      simp only [interrupt, source, Option.some.injEq, Prod.mk.injEq] at taken <;>
      obtain ⟨_, rfl⟩ := taken <;> rfl
  | done | ask | rollback | release => simp [interrupt] at taken

end Effects

section Steps

variable [DecidableEq Lock] {program : Call → Program Stmt Resp Env Fault α}
  {system next : System Call Stmt Resp Env Fault α Db Change Lock} {action : Action Call Env Fault}

/-- One step of the scheduler: a call starts, a call publishes, or a call moves on
with its history and the committed database unchanged. -/
theorem System.step_effect (taken : system.step E program action = some next) :
    (∃ call, action = .call call ∧
      next = { system with calls := system.calls ++ [⟨call, program call, .idle⟩] }) ∨
    (∃ (caller : Nat) (active : Active Call Stmt Resp Env Fault α Db Change Lock)
        (rest : Program Stmt Resp Env Fault α),
      system.calls[caller]? = some active ∧ publishes active.program active.session = true ∧
      active.program.resumed = some rest ∧
      next = ⟨(E.publish active.session system.shared).2,
        system.calls.set caller
          ⟨active.call, rest, (E.publish active.session system.shared).1⟩⟩) ∨
    (∃ (caller : Nat) (active moved : Active Call Stmt Resp Env Fault α Db Change Lock),
      system.calls[caller]? = some active ∧ (∀ value, active.program ≠ .done value) ∧
      moved.call = active.call ∧ moved.session.published = active.session.published ∧
      next.shared.committed = system.shared.committed ∧
      next.calls = system.calls.set caller moved) := by
  rcases System.step_cases taken with started |
    ⟨caller, env, active, moved, session, shared, -, stored, ran, rfl⟩ |
    ⟨caller, fault, active, moved, session, -, stored, ran, rfl⟩
  · exact .inl started
  · rcases advance_published ran with ⟨publishing, resumed, published⟩ | ⟨history, store⟩
    · right; left
      exact ⟨caller, active, moved, stored, publishing, resumed, by rw [published]⟩
    · right; right
      refine ⟨caller, active, ⟨active.call, moved, session⟩, stored, fun value ended => ?_, rfl,
        history, store, rfl⟩
      simp [ended, advance] at ran
  · right; right
    refine ⟨caller, active, ⟨active.call, moved, session⟩, stored, fun value ended => ?_, rfl,
      interrupt_effect ran, rfl, rfl⟩
    simp [ended, interrupt] at ran

/-- A step leaves every call what it is with all it has published, and a finished
call as it is. -/
theorem System.step_kept (taken : system.step E program action = some next) {caller : Nat}
    {active : Active Call Stmt Resp Env Fault α Db Change Lock}
    (present : system.calls[caller]? = some active) :
    ∃ later, next.calls[caller]? = some later ∧ later.call = active.call ∧
      active.session.published ⊆ later.session.published ∧
      ∀ value, active.program = .done value → later = active := by
  have inside := (List.getElem?_eq_some_iff.mp present).1
  -- Only the call that takes the step is replaced, and it has not finished.
  have replaced : ∀ (changed : Nat) (old new : Active Call Stmt Resp Env Fault α Db Change Lock),
      system.calls[changed]? = some old → new.call = old.call →
      old.session.published ⊆ new.session.published → (∀ value, old.program ≠ .done value) →
      ∃ later, (system.calls.set changed new)[caller]? = some later ∧ later.call = active.call ∧
        active.session.published ⊆ later.session.published ∧
        ∀ value, active.program = .done value → later = active := by
    intro changed old new stored sameCall grows running
    by_cases same : changed = caller
    · subst same
      obtain rfl : old = active := Option.some.inj (stored.symm.trans present)
      exact ⟨new, List.getElem?_set_self inside, sameCall, grows,
        fun value ended => absurd ended (running value)⟩
    · exact ⟨active, by rwa [List.getElem?_set_ne same], rfl, List.Subset.refl _, fun _ _ => rfl⟩
  rcases System.step_effect taken with ⟨request, -, rfl⟩ |
    ⟨changed, old, rest, stored, publishing, -, rfl⟩ |
    ⟨changed, old, moved, stored, running, sameCall, history, -, calls⟩
  · exact ⟨active, by rwa [List.getElem?_append_left inside], rfl, List.Subset.refl _,
      fun _ _ => rfl⟩
  · refine replaced changed old _ stored rfl ?_ fun value ended => ?_
    · rcases publish_effect (E := E) old.session system.shared with ⟨history, -⟩ | history <;>
        simp [history]
    · simp [publishes, ended] at publishing
  · rw [calls]
    exact replaced changed old moved stored sameCall (by simp [history]) running

end Steps

section Continuations

/-- One program is what follows a request of another, whichever way the request was
answered. -/
inductive Program.Continues :
    Program Stmt Resp Env Fault α → Program Stmt Resp Env Fault α → Prop where
  | ask {k : Env → Program Stmt Resp Env Fault α} (env : Env) : Continues (.ask k) (k env)
  | start {k : Except Fault Unit → Program Stmt Resp Env Fault α} (reply : Except Fault Unit) :
      Continues (.start k) (k reply)
  | statement {s : Stmt} {k : Except Fault (Resp s) → Program Stmt Resp Env Fault α}
      (reply : Except Fault (Resp s)) : Continues (.statement s k) (k reply)
  | commit {k : Except Fault Unit → Program Stmt Resp Env Fault α} (reply : Except Fault Unit) :
      Continues (.commit k) (k reply)
  | rollback {next : Program Stmt Resp Env Fault α} : Continues (.rollback next) next
  | release {next : Program Stmt Resp Env Fault α} : Continues (.release next) next

variable {program next : Program Stmt Resp Env Fault α} {session after : Session Db Change Lock}
  {shared now : Shared Db}

/-- A turn of a call leads to a continuation of its program. -/
theorem advance_continues {held : Lock → Bool} {env : Env}
    (taken : advance E held env program session shared = some (next, after, now)) :
    program.Continues next := by
  cases program with
  | done value => simp [advance] at taken
  | ask k | start k | rollback k | commit k | release k =>
    simp only [advance, Option.some.injEq, Prod.mk.injEq] at taken
    obtain ⟨rfl, _⟩ := taken
    constructor
  | statement s k =>
    cases source : E.source s <;> simp only [advance, source] at taken <;>
      split at taken <;> try split at taken
    all_goals
      first
      | simp only [Option.some.injEq, Prod.mk.injEq] at taken
        obtain ⟨rfl, _⟩ := taken
        constructor
      | simp at taken

/-- So does a failure. -/
theorem interrupt_continues {fault : Fault}
    (taken : interrupt E fault program session = some (next, after)) : program.Continues next := by
  cases program with
  | start k | commit k =>
    simp only [interrupt, Option.some.injEq, Prod.mk.injEq] at taken
    obtain ⟨rfl, _⟩ := taken
    constructor
  | statement s k =>
    cases source : E.source s <;>
      simp only [interrupt, source, Option.some.injEq, Prod.mk.injEq] at taken <;>
      obtain ⟨rfl, _⟩ := taken <;> constructor
  | done | ask | rollback | release => simp [interrupt] at taken

/-- What holds of every call's program and is inherited by what follows a request
holds of the programs throughout every run. -/
theorem reached_programs [DecidableEq Lock] {program : Call → Program Stmt Resp Env Fault α}
    {admits : System Call Stmt Resp Env Fault α Db Change Lock → Action Call Env Fault → Prop}
    {first : Shared Db} {system : System Call Stmt Resp Env Fault α Db Change Lock}
    (holds : Call → Program Stmt Resp Env Fault α → Prop)
    (started : ∀ call, holds call (program call))
    (inherited : ∀ call here next, holds call here → here.Continues next → holds call next)
    (reached : System.Reached E program admits first system) :
    ∀ (caller : Nat) active, system.calls[caller]? = some active →
      holds active.call active.program := by
  induction reached with
  | initial => simp [System.initial]
  | @step system next action _ _ taken inductionHypothesis =>
    rcases System.step_cases taken with ⟨request, rfl, rfl⟩ |
      ⟨caller, env, active, moved, session, shared, rfl, stored, ran, rfl⟩ |
      ⟨caller, fault, active, moved, session, rfl, stored, ran, rfl⟩
    · intro index found present
      rcases getElem?_snoc_cases present with old | rfl
      · exact inductionHypothesis index found old
      · exact started request
    · intro index found present
      rcases getElem?_set_cases present with ⟨rfl, rfl⟩ | ⟨_, old⟩
      · exact inherited _ _ _ (inductionHypothesis index active stored) (advance_continues ran)
      · exact inductionHypothesis index found old
    · intro index found present
      rcases getElem?_set_cases present with ⟨rfl, rfl⟩ | ⟨_, old⟩
      · exact inherited _ _ _ (inductionHypothesis index active stored) (interrupt_continues ran)
      · exact inductionHypothesis index found old

/-- A program whose publication is its last request, so that having published means having
ended. -/
def Program.EndsPublished : Program Stmt Resp Env Fault α → Prop
  | .done _ => True
  | .ask k => ∀ env, (k env).EndsPublished
  | .start k => ∀ reply, (k reply).EndsPublished
  | .statement _ k => ∀ reply, (k reply).EndsPublished
  | .commit k => (∃ value, k (.ok ()) = .done value) ∧ ∀ reply, (k reply).EndsPublished
  | .rollback k => k.EndsPublished
  | .release k => ∃ value, k = .done value

/-- Where every end comes after a commit, it does so in every continuation. -/
theorem Program.EndsPublished.continues (ends : program.EndsPublished)
    (continues : program.Continues next) : next.EndsPublished := by
  cases continues with
  | ask env => exact ends env
  | start reply | statement reply => exact ends reply
  | commit reply => exact ends.2 reply
  | rollback => exact ends
  | release =>
    obtain ⟨value, rfl⟩ := ends
    trivial

/-- After the commit nothing is left to do but to end. -/
theorem Program.EndsPublished.resumed (ends : program.EndsPublished)
    (resumes : program.resumed = some next) : ∃ value, next = .done value := by
  cases program with
  | commit k =>
    cases resumes
    exact ends.1
  | release k =>
    cases resumes
    exact ends
  | done | ask | start | statement | rollback => cases resumes

section Ending

variable [DecidableEq Lock] {program : Call → Program Stmt Resp Env Fault α}
  {admits : System Call Stmt Resp Env Fault α Db Change Lock → Action Call Env Fault → Prop}
  {first : Shared Db} {system : System Call Stmt Resp Env Fault α Db Change Lock}
  {closing : Call → Prop}

/-- The calls of a kind keep the property in every reached system, by induction on the run. -/
theorem reached_ends (ends : ∀ call, closing call → (program call).EndsPublished)
    (reached : System.Reached E program admits first system) :
    ∀ (caller : Nat) active, system.calls[caller]? = some active → closing active.call →
      active.program.EndsPublished :=
  reached_programs (fun call here => closing call → here.EndsPublished) ends
    (fun _ _ _ holds continues closes => (holds closes).continues continues) reached

/-- A call whose publication is its last request has published nothing or finished. So whoever
reads the answer knows what was published. -/
theorem reached_endsPublished (ends : ∀ call, closing call → (program call).EndsPublished)
    (reached : System.Reached E program admits first system) :
    ∀ (caller : Nat) active, system.calls[caller]? = some active → closing active.call →
      active.session.published = [] ∨ ∃ value, active.program = .done value := by
  induction reached with
  | initial => simp [System.initial]
  | @step system next action before _ taken inductionHypothesis =>
    have programs := reached_ends ends before
    rcases System.step_effect taken with ⟨request, -, rfl⟩ |
      ⟨caller, active, rest, stored, publishing, resumed, rfl⟩ |
      ⟨caller, active, moved, stored, running, sameCall, history, -, calls⟩
    · intro index found present closes
      rcases getElem?_snoc_cases present with old | rfl
      · exact inductionHypothesis index found old closes
      · exact .inl rfl
    · intro index found present closes
      rcases getElem?_set_cases present with ⟨rfl, rfl⟩ | ⟨_, old⟩
      · exact .inr ((programs index active stored closes).resumed resumed)
      · exact inductionHypothesis index found old closes
    · intro index found present closes
      rw [calls] at present
      rcases getElem?_set_cases present with ⟨rfl, rfl⟩ | ⟨_, old⟩
      · rw [sameCall] at closes
        rw [history]
        exact .inl ((inductionHypothesis index active stored closes).resolve_right
          (not_exists.mpr running))
      · exact inductionHypothesis index found old closes

end Ending

end Continuations

section Snapshots

variable {program next : Program Stmt Resp Env Fault α} {session after : Session Db Change Lock}
  {shared now : Shared Db} {seen : Db}

/-- A snapshot is kept until it is dropped, and a new one is the committed database of the
very step that opens it. This ties what a transaction reads to a moment of the run. -/
theorem advance_snapshot {held : Lock → Bool} {env : Env}
    (taken : advance E held env program session shared = some (next, after, now))
    (opened : after.snapshot = some seen) :
    session.snapshot = some seen ∨ shared.committed = seen := by
  cases program with
  | done value => simp [advance] at taken
  | ask k | start k | rollback k =>
    simp only [advance, Option.some.injEq, Prod.mk.injEq] at taken
    obtain ⟨_, rfl, rfl⟩ := taken
    first
    | exact .inl opened
    | simp at opened
  | statement s k =>
    cases source : E.source s with
    | snapshot =>
      simp only [advance, source] at taken
      split at taken <;> simp only [Option.some.injEq, Prod.mk.injEq] at taken <;>
        obtain ⟨_, rfl, rfl⟩ := taken
      · simp at opened
      · have base : session.snapshot.getD shared.committed = seen := Option.some.inj opened
        cases old : session.snapshot with
        | none => exact .inr (by simpa [old] using base)
        | some first => exact .inl (by simpa [old] using base)
    | current =>
      simp only [advance, source] at taken
      split at taken
      · simp at taken
      split at taken <;> simp only [Option.some.injEq, Prod.mk.injEq] at taken <;>
        obtain ⟨_, rfl, rfl⟩ := taken
      · simp at opened
      · exact .inl opened
    | client =>
      simp only [advance, source] at taken
      split at taken <;> simp only [Option.some.injEq, Prod.mk.injEq] at taken <;>
        obtain ⟨_, rfl, rfl⟩ := taken <;> exact .inl opened
  | commit k | release k =>
    simp only [advance, Option.some.injEq, Prod.mk.injEq] at taken
    obtain ⟨_, rfl, _⟩ := taken
    have closed : (E.publish session shared).1.snapshot = none := by
      unfold Engine.publish
      split <;> rfl
    rw [closed] at opened
    cases opened

/-- A failed request opens no snapshot. -/
theorem interrupt_snapshot {fault : Fault}
    (taken : interrupt E fault program session = some (next, after))
    (opened : after.snapshot = some seen) : session.snapshot = some seen := by
  cases program with
  | start k | commit k =>
    simp only [interrupt, Option.some.injEq, Prod.mk.injEq] at taken
    obtain ⟨_, rfl⟩ := taken
    first
    | exact opened
    | simp at opened
  | statement s k =>
    cases source : E.source s <;>
      simp only [interrupt, source, Option.some.injEq, Prod.mk.injEq] at taken <;>
      obtain ⟨_, rfl⟩ := taken
    · simp at opened
    · simp at opened
    · exact opened
  | done | ask | rollback | release => simp [interrupt] at taken

/-- After a step, a snapshot is one that its call held before, or the database that was
committed when the step was taken. -/
theorem System.step_snapshot [DecidableEq Lock] {program : Call → Program Stmt Resp Env Fault α}
    {system next : System Call Stmt Resp Env Fault α Db Change Lock} {action : Action Call Env Fault}
    (taken : system.step E program action = some next) {caller : Nat}
    {active : Active Call Stmt Resp Env Fault α Db Change Lock}
    (present : next.calls[caller]? = some active) (opened : active.session.snapshot = some seen) :
    (∃ old, system.calls[caller]? = some old ∧ old.session.snapshot = some seen) ∨
      system.shared.committed = seen := by
  rcases System.step_cases taken with ⟨request, rfl, rfl⟩ |
    ⟨mover, env, old, moved, session, shared, rfl, stored, ran, rfl⟩ |
    ⟨mover, fault, old, moved, session, rfl, stored, ran, rfl⟩
  · rcases getElem?_snoc_cases present with before | rfl
    · exact .inl ⟨active, before, opened⟩
    · simp [Session.idle] at opened
  · rcases getElem?_set_cases present with ⟨rfl, rfl⟩ | ⟨_, before⟩
    · rcases advance_snapshot ran opened with kept | fresh
      · exact .inl ⟨old, stored, kept⟩
      · exact .inr fresh
    · exact .inl ⟨active, before, opened⟩
  · rcases getElem?_set_cases present with ⟨rfl, rfl⟩ | ⟨_, before⟩
    · exact .inl ⟨old, stored, interrupt_snapshot ran opened⟩
    · exact .inl ⟨active, before, opened⟩

/-- The snapshot of a call was the committed database at an earlier moment of the
same run. -/
theorem run_snapshot [DecidableEq Lock] {program : Call → Program Stmt Resp Env Fault α}
    {admits : System Call Stmt Resp Env Fault α Db Change Lock → Action Call Env Fault → Prop}
    {first : System Call Stmt Resp Env Fault α Db Change Lock}
    {past : List (System Call Stmt Resp Env Fault α Db Change Lock)}
    {system : System Call Stmt Resp Env Fault α Db Change Lock}
    (none : first.calls = [])
    (run : Transitions.Run (System.step E program) admits first past system) :
    ∀ (caller : Nat) active seen, system.calls[caller]? = some active →
      active.session.snapshot = some seen → ∃ earlier ∈ past, earlier.shared.committed = seen := by
  induction run with
  | initial => simp [none]
  | @step past system next action _ _ taken inductionHypothesis =>
    intro caller active seen present opened
    rcases System.step_snapshot taken present opened with ⟨old, stored, kept⟩ | fresh
    · obtain ⟨earlier, member, same⟩ := inductionHypothesis caller old seen stored kept
      exact ⟨earlier, List.mem_append_left _ member, same⟩
    · exact ⟨system, by simp, fresh⟩

end Snapshots

/-- A call running with the store to itself, with any environment answers and any
of its requests failing. -/
inductive Solo (E : Engine Db Change Lock Stmt Resp Env Fault)
    (program : Program Stmt Resp Env Fault α) (session : Session Db Change Lock)
    (shared : Shared Db) :
    Program Stmt Resp Env Fault α → Session Db Change Lock → Shared Db → Prop where
  | entered : Solo E program session shared program session shared
  | advanced {here next : Program Stmt Resp Env Fault α} {mine after : Session Db Change Lock}
      {now later : Shared Db} (env : Env) (before : Solo E program session shared here mine now)
      (taken : advance E (fun _ => false) env here mine now = some (next, after, later)) :
      Solo E program session shared next after later
  | interrupted {here next : Program Stmt Resp Env Fault α}
      {mine after : Session Db Change Lock} {now : Shared Db} (fault : Fault)
      (before : Solo E program session shared here mine now)
      (taken : interrupt E fault here mine = some (next, after)) :
      Solo E program session shared next after now

/-- Run a program alone on chosen environment answers and faults. It is the computable form,
from which runs on fixed inputs are evaluated. -/
def soloRun (E : Engine Db Change Lock Stmt Resp Env Fault) :
    List (Except Fault Env) → Program Stmt Resp Env Fault α → Session Db Change Lock → Shared Db →
      Option (Program Stmt Resp Env Fault α × Session Db Change Lock × Shared Db)
  | [], program, session, shared => some (program, session, shared)
  | .ok env :: rest, program, session, shared =>
    (advance E (fun _ => false) env program session shared).bind fun (next, after, now) =>
      soloRun E rest next after now
  | .error fault :: rest, program, session, shared =>
    (interrupt E fault program session).bind fun (next, after) => soloRun E rest next after shared

/-- A computed run of one call is one of the relation. -/
theorem Solo.of_soloRun {program : Program Stmt Resp Env Fault α} {session : Session Db Change Lock}
    {shared : Shared Db} {choices : List (Except Fault Env)} :
    ∀ {here last : Program Stmt Resp Env Fault α} {mine after : Session Db Change Lock}
      {now later : Shared Db}, Solo E program session shared here mine now →
      soloRun E choices here mine now = some (last, after, later) →
      Solo E program session shared last after later := by
  induction choices with
  | nil =>
    intro here last mine after now later before ran
    cases ran
    exact before
  | cons choice rest inductionHypothesis =>
    intro here last mine after now later before ran
    cases choice with
    | ok env =>
      obtain ⟨⟨next, session, store⟩, taken, others⟩ := Option.bind_eq_some_iff.mp ran
      exact inductionHypothesis (.advanced env before taken) others
    | error fault =>
      obtain ⟨⟨next, session⟩, taken, others⟩ := Option.bind_eq_some_iff.mp ran
      exact inductionHypothesis (.interrupted fault before taken) others

/-- A finished program takes no further answers. -/
theorem soloRun_done {value : α} {session after : Session Db Change Lock} {shared now : Shared Db}
    {program : Program Stmt Resp Env Fault α} {choices : List (Except Fault Env)}
    (ran : soloRun E choices (.done value) session shared = some (program, after, now)) :
    choices = [] := by
  cases choices with
  | nil => rfl
  | cons choice rest => cases choice <;> simp [soloRun, advance, interrupt] at ran

/-- A call's run on two lists of choices is the one on the first, continued on the second. -/
theorem soloRun_append (left right : List (Except Fault Env)) (program : Program Stmt Resp Env Fault α)
    (session : Session Db Change Lock) (shared : Shared Db) :
    soloRun E (left ++ right) program session shared =
      (soloRun E left program session shared).bind fun (next, after, now) =>
        soloRun E right next after now := by
  induction left generalizing program session shared with
  | nil => rfl
  | cons choice rest inductionHypothesis =>
    cases choice with
    | ok env =>
      simp only [List.cons_append, soloRun, inductionHypothesis]
      cases advance E (fun _ => false) env program session shared <;> rfl
    | error fault =>
      simp only [List.cons_append, soloRun, inductionHypothesis]
      cases interrupt E fault program session <;> rfl

/-- A history of publications that leads from one committed database to another
with nothing in between. -/
def Linked : Db → List (Db × Db) → Db → Prop
  | first, [], last => first = last
  | first, (before, after) :: rest, last => first = before ∧ Linked after rest last

/-- A further publication extends the history at its end. -/
theorem linked_snoc {first last after : Db} {history : List (Db × Db)}
    (linked : Linked first history last) : Linked first (history ++ [(last, after)]) after := by
  induction history generalizing first with
  | nil => exact ⟨linked, rfl⟩
  | cons entry rest inductionHypothesis => exact ⟨linked.1, inductionHypothesis linked.2⟩

section Alone

variable {D : Discipline Call Db Change Lock Env}
variable {call : Call} {post : α → Session Db Change Lock → Shared Db → Prop}

/-- A safe call that expects nothing of its environment stays safe when it runs
alone. -/
theorem solo_safe (expected : ∀ session shared env, D.Answers call session shared env)
    {program here : Program Stmt Resp Env Fault α}
    {session mine : Session Db Change Lock} {shared now : Shared Db} (holds : D.Inv shared)
    (safe : Safe D E call post program session shared)
    (solo : Solo E program session shared here mine now) :
    D.Inv now ∧ Safe D E call post here mine now := by
  induction solo with
  | entered => exact ⟨holds, safe⟩
  | advanced env _ taken inductionHypothesis =>
    have stepped := advance_stepped (fun _ => false) env call post inductionHypothesis.1
      inductionHypothesis.2 (fun _ => expected _ _ env) taken
    exact ⟨stepped.inv, stepped.safe⟩
  | interrupted fault _ taken inductionHypothesis =>
    have stepped := interrupt_stepped (fun _ => false) fault call post inductionHypothesis.1
      inductionHypothesis.2 taken
    exact ⟨stepped.inv, stepped.safe⟩

/-- Alone, the committed database changes only by the session's own publications,
which its history records without a gap. -/
theorem solo_linked {program here : Program Stmt Resp Env Fault α}
    {session mine : Session Db Change Lock} {shared now : Shared Db} {first : Db}
    (linked : Linked first session.published shared.committed)
    (solo : Solo E program session shared here mine now) :
    Linked first mine.published now.committed := by
  induction solo with
  | entered => exact linked
  | advanced env _ taken inductionHypothesis =>
    rcases advance_effect taken with ⟨sameHistory, sameStore⟩ | recorded
    · rwa [sameHistory, sameStore]
    · rw [recorded]
      exact linked_snoc inductionHypothesis
  | interrupted fault _ taken inductionHypothesis =>
    rwa [interrupt_effect taken]

end Alone

section Runs

variable [DecidableEq Lock] {program : Call → Program Stmt Resp Env Fault α}
  {admits : System Call Stmt Resp Env Fault α Db Change Lock → Action Call Env Fault → Prop}
  {first : Shared Db} {system : System Call Stmt Resp Env Fault α Db Change Lock}

/-- Whatever holds of the committed database and did not hold at first was made
true by a publication that some call's history records.

Proof: induction over the schedule. Histories only grow, so an earlier record is
still there; and if the property is new, the step that made it true published. -/
theorem reached_published (reached : System.Reached E program admits first system)
    (holds : Db → Prop) (absent : ¬holds first.committed)
    (present : holds system.shared.committed) :
    ∃ (caller : Nat) (active : Active Call Stmt Resp Env Fault α Db Change Lock) (before after : Db),
      system.calls[caller]? = some active ∧ (before, after) ∈ active.session.published ∧
        ¬holds before ∧ holds after := by
  induction reached with
  | initial => exact absurd present absent
  | @step system next action _ _ taken inductionHypothesis =>
    -- A record of the old system is found in the new one.
    have carried : ∀ (changed : Nat) (old new : Active Call Stmt Resp Env Fault α Db Change Lock),
        system.calls[changed]? = some old → old.session.published ⊆ new.session.published →
        holds system.shared.committed → ∃ (caller : Nat) (active : _) (before after : Db),
          (system.calls.set changed new)[caller]? = some active ∧
            (before, after) ∈ active.session.published ∧ ¬holds before ∧ holds after := by
      intro changed old new stored grows now
      obtain ⟨caller, active, before, after, found, member, wasNot, is⟩ := inductionHypothesis now
      by_cases same : changed = caller
      · subst same
        obtain rfl : old = active := Option.some.inj (stored.symm.trans found)
        have inside := (List.getElem?_eq_some_iff.mp stored).1
        exact ⟨changed, new, before, after, List.getElem?_set_self inside, grows member, wasNot, is⟩
      · exact ⟨caller, active, before, after, by rwa [List.getElem?_set_ne same], member, wasNot, is⟩
    rcases System.step_cases taken with ⟨request, rfl, rfl⟩ |
      ⟨caller, env, active, moved, session, shared, rfl, stored, ran, rfl⟩ |
      ⟨caller, fault, active, moved, session, rfl, stored, ran, rfl⟩
    · obtain ⟨caller, active, before, after, found, facts⟩ := inductionHypothesis present
      have inside := (List.getElem?_eq_some_iff.mp found).1
      exact ⟨caller, active, before, after, by rwa [List.getElem?_append_left inside], facts⟩
    · rcases advance_effect ran with ⟨sameHistory, sameStore⟩ | recorded
      · exact carried caller active ⟨active.call, moved, session⟩ stored
          (by rw [sameHistory]; exact List.Subset.refl _) (sameStore ▸ present)
      · by_cases earlier : holds system.shared.committed
        · exact carried caller active ⟨active.call, moved, session⟩ stored
            (by rw [recorded]; exact List.subset_append_left _ _) earlier
        · have inside := (List.getElem?_eq_some_iff.mp stored).1
          exact ⟨caller, ⟨active.call, moved, session⟩, system.shared.committed, shared.committed,
            List.getElem?_set_self inside, by simp [recorded], earlier, present⟩
    · exact carried caller active ⟨active.call, moved, session⟩ stored
        (by rw [interrupt_effect ran]; exact List.Subset.refl _) present

end Runs

/-- A condition on every statement that the program can come to and on what follows it,
whatever the replies before it were. -/
def Program.Everywhere
    (holds : (s : Stmt) → (Except Fault (Resp s) → Program Stmt Resp Env Fault α) → Prop) :
    Program Stmt Resp Env Fault α → Prop
  | .done _ => True
  | .ask k => ∀ env, (k env).Everywhere holds
  | .start k => ∀ reply, (k reply).Everywhere holds
  | .statement s k => holds s k ∧ ∀ reply, (k reply).Everywhere holds
  | .commit k => ∀ reply, (k reply).Everywhere holds
  | .rollback k => k.Everywhere holds
  | .release k => k.Everywhere holds

/-- The rule for sequences. What follows a statement of the first program goes on with
the second one, and the condition has to carry over to that. -/
theorem Program.Everywhere.bind {β : Type}
    {holds : (s : Stmt) → (Except Fault (Resp s) → Program Stmt Resp Env Fault α) → Prop}
    {last : (s : Stmt) → (Except Fault (Resp s) → Program Stmt Resp Env Fault β) → Prop}
    {program : Program Stmt Resp Env Fault α} {next : α → Program Stmt Resp Env Fault β}
    (first : program.Everywhere holds)
    (carried : ∀ s k, holds s k → last s fun reply => (k reply).bind next)
    (rest : ∀ value, (next value).Everywhere last) : (program.bind next).Everywhere last := by
  induction program with
  | done value => exact rest value
  | ask k inductionHypothesis => exact fun env => inductionHypothesis env (first env)
  | start k inductionHypothesis | commit k inductionHypothesis =>
    exact fun reply => inductionHypothesis reply (first reply)
  | statement s k inductionHypothesis =>
    exact ⟨carried s k first.1, fun reply => inductionHypothesis reply (first.2 reply)⟩
  | rollback k inductionHypothesis | release k inductionHypothesis =>
    exact inductionHypothesis first

/-- What holds of every statement of a program holds of every statement of its
continuations. -/
theorem Program.Everywhere.continues
    {holds : (s : Stmt) → (Except Fault (Resp s) → Program Stmt Resp Env Fault α) → Prop}
    {program next : Program Stmt Resp Env Fault α} (everywhere : program.Everywhere holds)
    (continues : program.Continues next) : next.Everywhere holds := by
  cases continues with
  | ask env => exact everywhere env
  | start reply | commit reply => exact everywhere reply
  | statement reply => exact everywhere.2 reply
  | rollback | release => exact everywhere

/-- Every lock that a locking statement of the program may take is allowed. -/
def Program.Confined (E : Engine Db Change Lock Stmt Resp Env Fault) (allowed : Lock → Prop)
    (program : Program Stmt Resp Env Fault α) : Prop :=
  program.Everywhere fun s _ => ∀ number db, ∀ lock ∈ E.locks s number db, allowed lock

section Confinement

variable {allowed : Lock → Prop} {program next : Program Stmt Resp Env Fault α}
  {session after : Session Db Change Lock} {shared now : Shared Db}

/-- A request of a confined program takes only allowed locks. The locks of a statement are
those of the rows it writes or looks for, and they are added to what the session holds
already. -/
theorem advance_confined {held : Lock → Bool} {env : Env} (confined : program.Confined E allowed)
    (locks : ∀ lock ∈ session.locks, allowed lock)
    (taken : advance E held env program session shared = some (next, after, now)) :
    next.Confined E allowed ∧ ∀ lock ∈ after.locks, allowed lock := by
  have none : ∀ lock ∈ session.cleared.locks, allowed lock := by simp
  cases program with
  | done value => simp [advance] at taken
  | ask k =>
    simp only [advance, Option.some.injEq, Prod.mk.injEq] at taken
    obtain ⟨rfl, rfl, rfl⟩ := taken
    exact ⟨confined env, locks⟩
  | start k =>
    simp only [advance, Option.some.injEq, Prod.mk.injEq] at taken
    obtain ⟨rfl, rfl, rfl⟩ := taken
    exact ⟨confined _, none⟩
  | statement s k =>
    cases source : E.source s with
    | snapshot =>
      simp only [advance, source] at taken
      split at taken <;> simp only [Option.some.injEq, Prod.mk.injEq] at taken <;>
        obtain ⟨rfl, rfl, rfl⟩ := taken
      · exact ⟨confined.2 _, none⟩
      · exact ⟨confined.2 _, locks⟩
    | current =>
      simp only [advance, source] at taken
      split at taken
      · simp at taken
      split at taken <;> simp only [Option.some.injEq, Prod.mk.injEq] at taken <;>
        obtain ⟨rfl, rfl, rfl⟩ := taken
      · exact ⟨confined.2 _, none⟩
      · refine ⟨confined.2 _, fun lock member => ?_⟩
        rcases List.mem_append.mp member with old | new
        · exact locks lock old
        · exact confined.1 _ _ lock new
    | client =>
      simp only [advance, source] at taken
      split at taken <;> simp only [Option.some.injEq, Prod.mk.injEq] at taken <;>
        obtain ⟨rfl, rfl, rfl⟩ := taken
      · exact ⟨confined.2 _, locks⟩
      · exact ⟨confined.2 _, locks⟩
  | commit k =>
    simp only [advance, Option.some.injEq, Prod.mk.injEq] at taken
    obtain ⟨rfl, rfl, rfl⟩ := taken
    exact ⟨confined _, by simp [publish_locks]⟩
  | rollback k =>
    simp only [advance, Option.some.injEq, Prod.mk.injEq] at taken
    obtain ⟨rfl, rfl, rfl⟩ := taken
    exact ⟨confined, none⟩
  | release k =>
    simp only [advance, Option.some.injEq, Prod.mk.injEq] at taken
    obtain ⟨rfl, rfl, rfl⟩ := taken
    exact ⟨confined, by simp [publish_locks]⟩

/-- A failed request takes no lock. -/
theorem interrupt_confined {fault : Fault} (confined : program.Confined E allowed)
    (locks : ∀ lock ∈ session.locks, allowed lock)
    (taken : interrupt E fault program session = some (next, after)) :
    next.Confined E allowed ∧ ∀ lock ∈ after.locks, allowed lock := by
  cases program with
  | start k =>
    simp only [interrupt, Option.some.injEq, Prod.mk.injEq] at taken
    obtain ⟨rfl, rfl⟩ := taken
    exact ⟨confined _, locks⟩
  | statement s k =>
    cases source : E.source s <;>
      simp only [interrupt, source, Option.some.injEq, Prod.mk.injEq] at taken <;>
      obtain ⟨rfl, rfl⟩ := taken
    · exact ⟨confined.2 _, by simp⟩
    · exact ⟨confined.2 _, by simp⟩
    · exact ⟨confined.2 _, locks⟩
  | commit k =>
    simp only [interrupt, Option.some.injEq, Prod.mk.injEq] at taken
    obtain ⟨rfl, rfl⟩ := taken
    exact ⟨confined _, by simp⟩
  | done | ask | rollback | release => simp [interrupt] at taken

end Confinement

/-- In every run, a call holds only locks its program is confined to. This bounds what a call
can keep from others without looking at its statements again. -/
theorem reached_confined [DecidableEq Lock] {program : Call → Program Stmt Resp Env Fault α}
    {admits : System Call Stmt Resp Env Fault α Db Change Lock → Action Call Env Fault → Prop}
    {allowed : Call → Lock → Prop} {first : Shared Db}
    {system : System Call Stmt Resp Env Fault α Db Change Lock}
    (confined : ∀ system call, admits system (.call call) →
      (program call).Confined E (allowed call))
    (reached : System.Reached E program admits first system) :
    ∀ (caller : Nat) active, system.calls[caller]? = some active →
      active.program.Confined E (allowed active.call) ∧
        ∀ lock ∈ active.session.locks, allowed active.call lock := by
  induction reached with
  | initial => simp [System.initial]
  | @step system next action _ admitted taken inductionHypothesis =>
    rcases System.step_cases taken with ⟨request, rfl, rfl⟩ |
      ⟨caller, env, active, moved, session, shared, rfl, stored, ran, rfl⟩ |
      ⟨caller, fault, active, moved, session, rfl, stored, ran, rfl⟩
    · intro index found present
      rcases getElem?_snoc_cases present with old | rfl
      · exact inductionHypothesis index found old
      · exact ⟨confined system request admitted, by simp [Session.idle]⟩
    · intro index found present
      rcases getElem?_set_cases present with ⟨rfl, rfl⟩ | ⟨_, old⟩
      · obtain ⟨here, locks⟩ := inductionHypothesis index active stored
        exact advance_confined here locks ran
      · exact inductionHypothesis index found old
    · intro index found present
      rcases getElem?_set_cases present with ⟨rfl, rfl⟩ | ⟨_, old⟩
      · obtain ⟨here, locks⟩ := inductionHypothesis index active stored
        exact interrupt_confined here locks ran
      · exact inductionHypothesis index found old

end Transactions
