import TradeReconcile.Store

/-!
# Transaction guard and exception translation

Code under a live `TransactionGuard` is a database program that threads the
guard's `finished_` flag and keeps it when an exception passes through. Leaving
the scope runs the guard's destructor, which rolls back unless the commit went
through, and then the driver's, which commits whatever is still pending.
-/

namespace TradeReconcile

open Transactions

/-- Database programs of this application. -/
abbrev Prog := Program Stmt Resp Env Fault

/-- What a service's catch clauses distinguish. -/
inductive Exn where
  | biz : ErrCode → String → Exn
  | fault : Fault → Exn

/-- Code inside the guard's scope. -/
def Guarded (α : Type) : Type := Bool → Prog (Except Exn α × Bool)

namespace Guarded

variable {α β : Type}

/-- Continue with the value, or let the exception pass. -/
def following (next : α → Guarded β) : Except Exn α × Bool → Prog (Except Exn β × Bool)
  | (.ok value, finished) => next value finished
  | (.error exn, finished) => .done (.error exn, finished)

instance : Monad Guarded where
  pure value := fun finished => .done (.ok value, finished)
  bind first next := fun finished => (first finished).bind (following next)

/-- An exception or a value passes through two continuations in turn. -/
theorem following_bind {γ : Type} (next : α → Guarded β) (last : β → Guarded γ)
    (outcome : Except Exn α × Bool) :
    (following next outcome).bind (following last) =
      following (fun value finished => (next value finished).bind (following last)) outcome := by
  obtain ⟨_ | _, finished⟩ := outcome <;> rfl

instance : LawfulMonad Guarded := LawfulMonad.mk' Guarded
  (by
    intro α code
    funext finished
    have passed : following (fun value finished => .done (.ok value, finished)) =
        (Program.done : Except Exn α × Bool → _) := by
      funext outcome
      obtain ⟨_ | _, finished⟩ := outcome <;> rfl
    change (code finished).bind (following fun value finished => .done (.ok value, finished)) = _
    rw [passed, Program.bind_done])
  (by intros; rfl)
  (by
    intro α β γ code next last
    funext finished
    change ((code finished).bind (following next)).bind (following last) = _
    rw [Program.bind_bind, funext (following_bind next last)]
    rfl)

/-- `throw`. -/
def raise (exn : Exn) : Guarded α := fun finished => .done (.error exn, finished)

/-- `throw common::BizException(...)`. -/
def bizException (code : ErrCode) (message : String) : Guarded α := raise (.biz code message)

/-- Nothing runs after an exception. -/
@[simp] theorem raise_bind (exn : Exn) (next : α → Guarded β) : (raise exn >>= next) = raise exn :=
  rfl

@[simp] theorem bizException_bind (code : ErrCode) (message : String) (next : α → Guarded β) :
    (bizException code message >>= next) = bizException code message := rfl

/-- `execSqlSync`: the result, or the driver's exception. -/
def execSqlSync (s : Stmt) : Guarded (Resp s) := fun finished =>
  .statement s fun
    | .ok reply => .done (.ok reply, finished)
    | .error fault => .done (.error (.fault fault), finished)

/-- `IdGenerator::nextId()`, which throws when the clock moved backwards. -/
def nextId : Guarded String := fun finished =>
  .ask fun env => match env.nextId with
    | some id => .done (.ok id, finished)
    | none => .done (.error (.fault .std), finished)

/-- A reading of the system clock. -/
def clock : Guarded Int := fun finished => .ask fun env => .done (.ok env.clock, finished)

/-- A standard library call that may throw. -/
def orThrow : Option α → Guarded α
  | some value => pure value
  | none => raise (.fault .std)

/-- `TransactionGuard::commit()`: a second commit is a logic error. -/
def commit : Guarded Unit := fun finished =>
  if finished then .done (.error (.fault .std), finished)
  else .commit fun
    | .ok () => .done (.ok (), true)
    | .error fault => .done (.error (.fault fault), finished)

/-- End of the scope: `~TransactionGuard()` and then `~Transaction()`. -/
def leave (outcome : Except Exn α × Bool) : Prog (Except Exn α) :=
  if outcome.2 then .release (.done outcome.1) else .rollback (.release (.done outcome.1))

/-- `TransactionGuard txGuard(beginTransaction())` and the code under it. -/
def transaction (body : Guarded α) : Prog (Except Exn α) :=
  .start fun
    | .error fault => .done (.error (.fault fault))
    | .ok () => (body false).bind leave

end Guarded

/-- The three catch clauses of a service: its own exceptions become their code and text, those
of the driver an error of the database, any other an internal error. -/
def catchAll {α : Type} (requestId : String) : Except Exn (Result α) → Result α
  | .ok result => result
  | .error (.biz code message) => Result.fail code message requestId
  | .error (.fault .db) => Result.fail .kDbError ErrCode.kDbError.toMessage requestId
  | .error (.fault .std) => Result.fail .kInternalError ErrCode.kInternalError.toMessage requestId

/-- Third-party functions and configuration the services use: the collation of the database,
the digest with its secret, the JSON writer and the addresses of messages. -/
structure Platform where
  collate : String → String
  hmacSha256Hex : String → String → String
  writeString : Json → String
  toStyledString : Json → String
  secret : String
  exchange : Option String
  routingKeyNotify : Option String

end TradeReconcile
