import TradeReconcile.Transactions.History

/-!
# Calls that nothing can turn aside

The rest of a call may consist of reads from its snapshot that the engine can always
answer. Such a call waits for no lock and reads nothing that another call can change, so
only a failing request can turn it aside. In every run in which none of its requests
fails it keeps to this path, whatever the other calls do meanwhile, and it ends with one
of the values that the path leads to. That it ever ends is not claimed.
-/

namespace Transactions

variable {Call Db Change Lock Stmt : Type} {Resp : Stmt → Type} {Env Fault α β : Type}
variable {E : Engine Db Change Lock Stmt Resp Env Fault}

/-- A read from the snapshot that has an answer in every database. No response of the
engine undoes the transaction of a call that makes it. -/
structure Engine.Reads (E : Engine Db Change Lock Stmt Resp Env Fault) (s : Stmt) : Prop where
  source : E.source s = .snapshot
  answered : ∀ number env db, ∃ reply changes, E.run s number env db = .ok (reply, changes)

/-- The rest of a call only reads, leaves its transaction and ends with a value that is
good. Nothing is said about what follows a failing read. -/
def Program.Calm (E : Engine Db Change Lock Stmt Resp Env Fault) (good : α → Prop) :
    Program Stmt Resp Env Fault α → Prop
  | .done value => good value
  | .statement s k => E.Reads s ∧ ∀ reply, (k (.ok reply)).Calm E good
  | .rollback k => k.Calm E good
  | .release k => k.Calm E good
  | .ask _ | .start _ | .commit _ => False

section Calm

variable {good : α → Prop} {final : β → Prop} {program next : Program Stmt Resp Env Fault α}
  {session after : Session Db Change Lock} {shared now : Shared Db}

/-- The rule for sequences: every good value of the first program is followed by a calm
one. -/
theorem Program.Calm.bind {rest : α → Program Stmt Resp Env Fault β} (calm : program.Calm E good)
    (follows : ∀ value, good value → (rest value).Calm E final) :
    (program.bind rest).Calm E final := by
  induction program with
  | done value => exact follows value calm
  | statement s k inductionHypothesis =>
    exact ⟨calm.1, fun reply => inductionHypothesis (.ok reply) (calm.2 reply)⟩
  | rollback k inductionHypothesis | release k inductionHypothesis =>
    exact inductionHypothesis calm
  | ask | start | commit => exact calm.elim

/-- A successful request of a calm program leaves a calm program. The engine cannot
refuse its reads, so the failing branch is never taken. -/
theorem advance_calm {held : Lock → Bool} {env : Env} (calm : program.Calm E good)
    (taken : advance E held env program session shared = some (next, after, now)) :
    next.Calm E good := by
  cases program with
  | done value => simp [advance] at taken
  | statement s k =>
    obtain ⟨reads, rest⟩ := calm
    obtain ⟨reply, changes, ran⟩ := reads.answered shared.counter env
      (E.overlay (session.snapshot.getD shared.committed) session.own)
    simp only [advance, reads.source, ran, Option.some.injEq, Prod.mk.injEq] at taken
    obtain ⟨rfl, -⟩ := taken
    exact rest reply
  | rollback k | release k =>
    simp only [advance, Option.some.injEq, Prod.mk.injEq] at taken
    obtain ⟨rfl, -⟩ := taken
    exact calm
  | ask | start | commit => exact calm.elim

end Calm

section Runs

variable [DecidableEq Lock] {program : Call → Program Stmt Resp Env Fault α}
  {admits : System Call Stmt Resp Env Fault α Db Change Lock → Action Call Env Fault → Prop}
  {first system : System Call Stmt Resp Env Fault α Db Change Lock} {caller : Nat}
  {good : α → Prop}

/-- Steps that let no request of the given call fail. All other calls may fail, and may take
their steps in between. -/
def Uninterrupted
    (admits : System Call Stmt Resp Env Fault α Db Change Lock → Action Call Env Fault → Prop)
    (caller : Nat) (system : System Call Stmt Resp Env Fault α Db Change Lock)
    (action : Action Call Env Fault) : Prop :=
  admits system action ∧ ∀ fault, action ≠ .interrupt caller fault

/-- The rest of the given call is calm. -/
def System.CalmAt (E : Engine Db Change Lock Stmt Resp Env Fault) (good : α → Prop) (caller : Nat)
    (system : System Call Stmt Resp Env Fault α Db Change Lock) : Prop :=
  ∃ active, system.calls[caller]? = some active ∧ active.program.Calm E good

/-- A calm call stays calm in every run that does not interrupt it.

Proof: induction over the run. Its own requests succeed and leave it calm, and a step of
another call does not touch its program. -/
theorem reached_calm (calm : first.CalmAt E good caller)
    (reached : Transitions.Reached (System.step E program) (Uninterrupted admits caller) first
      system) : system.CalmAt E good caller := by
  refine reached.invariant calm ?_
  rintro state action next ⟨active, present, steady⟩ admitted taken
  have inside := (List.getElem?_eq_some_iff.mp present).1
  rcases System.step_cases taken with ⟨request, rfl, rfl⟩ |
    ⟨mover, env, moving, moved, session, shared, rfl, stored, ran, rfl⟩ |
    ⟨mover, fault, moving, moved, session, rfl, stored, ran, rfl⟩
  · exact ⟨active, by rwa [List.getElem?_append_left inside], steady⟩
  · by_cases same : mover = caller
    · subst same
      obtain rfl : moving = active := Option.some.inj (stored.symm.trans present)
      exact ⟨_, List.getElem?_set_self inside, advance_calm steady ran⟩
    · exact ⟨active, by rwa [List.getElem?_set_ne same], steady⟩
  · have other : mover ≠ caller := fun same => admitted.2 fault (by rw [same])
    exact ⟨active, by rwa [List.getElem?_set_ne other], steady⟩

/-- If it has ended, a calm call has ended with a good value, whatever turns others have taken
meanwhile and whatever its own reads have told it. -/
theorem reached_good (calm : first.CalmAt E good caller)
    (reached : Transitions.Reached (System.step E program) (Uninterrupted admits caller) first
      system)
    {call : Call} {value : α} {session : Session Db Change Lock}
    (ended : system.calls[caller]? = some ⟨call, .done value, session⟩) : good value := by
  obtain ⟨active, present, steady⟩ := reached_calm calm reached
  obtain rfl := Option.some.inj (present.symm.trans ended)
  exact steady

end Runs

end Transactions
