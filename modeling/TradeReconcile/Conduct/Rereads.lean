import TradeReconcile.Transactions.Undisturbed
import TradeReconcile.Conduct.Calls

/-!
# A callback whose order is decided

Once its update of the order has found no pending row, nothing is left of a callback but
one re-read of the order and the end of the transaction. The re-read waits for nobody
and cannot fail by itself. From there on only a failing request can keep the callback
from one of two answers, whatever the other calls do: success, or that the order
cannot be paid.
-/

namespace TradeReconcile

open Transactions

namespace PaymentService

section Rereads

variable {α β : Type} {P : Platform}

/-- After an update of the order that changed no row the call is calm, and its outcome is
good. Nothing is said about what follows another statement. -/
def Rereads (P : Platform) (good : α → Prop) :
    (s : Stmt) → (Except Fault (Resp s) → Prog α) → Prop
  | .orderMarkPaid _, k => (k (.ok 0)).Calm (engine P.collate) good
  | _, _ => True

/-- The condition carries over to a sequence whose second part keeps good outcomes calm. -/
theorem Rereads.bind {good : α → Prop} {final : β → Prop} {rest : α → Prog β}
    (follows : ∀ value, good value → (rest value).Calm (engine P.collate) final) {s : Stmt}
    {k : Except Fault (Resp s) → Prog α} (rereads : Rereads P good s k) :
    Rereads P final s fun reply => (k reply).bind rest := by
  cases s with
  | orderMarkPaid => exact Program.Calm.bind rereads follows
  | _ => trivial

/-- Statements other than the update of an order. -/
def Unmarking (s : Stmt) : Prop := ∀ orderNo, s ≠ .orderMarkPaid orderNo

/-- The condition is on one update only, and other statements meet it. -/
theorem Unmarking.rereads {good : α → Prop} {s : Stmt} (other : Unmarking s)
    (k : Except Fault (Resp s) → Prog α) : Rereads P good s k := by
  cases s with
  | orderMarkPaid orderNo => exact absurd rfl (other orderNo)
  | _ => trivial

/-- Code without an update of an order, followed by code with the condition. -/
theorem unmarking_bind {good : Except Exn β × Bool → Prop} {code : Guarded α}
    {next : α → Guarded β} (first : Guarded.Everywhere Unmarking code)
    (rest : ∀ value finished, (next value finished).Everywhere (Rereads P good)) (finished : Bool) :
    ((code >>= next) finished).Everywhere (Rereads P good) := by
  refine (first finished).bind (fun s k other => other.rereads _) ?_
  rintro ⟨_ | value, later⟩
  · trivial
  · exact rest value later

/-- Code without an update of an order has the condition. -/
theorem unmarked {good : Except Exn α × Bool → Prop} {code : Guarded α}
    (other : Guarded.Everywhere Unmarking code) (finished : Bool) :
    (code finished).Everywhere (Rereads P good) := by
  have whole : ((code finished).bind .done).Everywhere (Rereads P good) :=
    (other finished).bind (fun s k unmarking => unmarking.rereads _) fun value => trivial
  rwa [Program.bind_done] at whole

/-- The check of the order updates nothing. -/
theorem checkOrder_unmarking (req : PaymentCallbackReq) :
    Guarded.Everywhere Unmarking (checkOrder req) := by
  apply Guarded.bind_everywhere (Guarded.exec_everywhere (by simp [Unmarking]))
  rintro (_ | order)
  · exact Guarded.raise_everywhere _
  simp only
  split
  · exact Guarded.raise_everywhere _
  · split
    · exact Guarded.raise_everywhere _
    · exact Guarded.pure_everywhere _

/-- Recording the payment inserts and reads. -/
theorem recordPayment_unmarking (req : PaymentCallbackReq) (rawBody : String) (amountFen : Int) :
    Guarded.Everywhere Unmarking (recordPayment req rawBody amountFen) := by
  refine Guarded.bind_everywhere Guarded.nextId_everywhere fun paymentNo => ?_
  refine Guarded.bind_everywhere (Guarded.orThrow_everywhere _) fun callbackTime => ?_
  refine Guarded.bind_everywhere (Guarded.exec_everywhere (by simp [Unmarking])) fun affected => ?_
  split
  · exact Guarded.pure_everywhere _
  apply Guarded.bind_everywhere (Guarded.exec_everywhere (by simp [Unmarking]))
  rintro (_ | existing)
  · exact Guarded.raise_everywhere _
  simp only
  split
  · exact Guarded.pure_everywhere _
  · exact Guarded.raise_everywhere _

/-- The remaining steps of a callback that has marked its order. -/
theorem settled_unmarking (P : Platform) (req : PaymentCallbackReq) (order : Order)
    (amountFen : Int) : Guarded.Everywhere Unmarking (do
      debitAccount req order amountFen
      writeMessage P req order
      Guarded.commit
      return processed req) := by
  refine Guarded.bind_everywhere ?_ fun _ => ?_
  · apply Guarded.bind_everywhere (Guarded.exec_everywhere (by simp [Unmarking]))
    rintro (_ | account)
    · exact Guarded.raise_everywhere _
    refine Guarded.bind_everywhere (Guarded.exec_everywhere (by simp [Unmarking]))
      fun deducted => ?_
    split
    · exact Guarded.raise_everywhere _
    refine Guarded.bind_everywhere (Guarded.exec_everywhere (by simp [Unmarking])) fun reread => ?_
    refine Guarded.bind_everywhere (Guarded.orThrow_everywhere _) fun after => ?_
    exact Guarded.bind_everywhere (Guarded.exec_everywhere (by simp [Unmarking]))
      fun _ => Guarded.pure_everywhere _
  · refine Guarded.bind_everywhere ?_ fun _ =>
      Guarded.bind_everywhere Guarded.commit_everywhere fun _ => Guarded.pure_everywhere _
    refine Guarded.bind_everywhere Guarded.nextId_everywhere fun messageId => ?_
    exact Guarded.bind_everywhere (Guarded.exec_everywhere (by simp [Unmarking]))
      fun _ => Guarded.pure_everywhere _

/-- Codes of a callback that found its order decided. -/
def Decided (result : Result Json) : Prop :=
  result.code = ErrCode.kSuccess.toInt ∨ result.code = ErrCode.kOrderStatusInvalid.toInt

/-- The reply to a callback whose update has changed no row. -/
def DecidedAnswer (answer : Answer) : Prop := ∃ result, answer = .reply result ∧ Decided result

/-- The lookup of an order is a plain read of the snapshot. -/
theorem orderGetByOrderNo_reads (orderNo : String) :
    (engine P.collate).Reads (.orderGetByOrderNo orderNo) where
  source := rfl
  answered _ _ _ := ⟨_, _, rfl⟩

/-- The update of the order and what follows it. A reply of this step is returned as it
is, and an order that was pending is settled without another update. -/
theorem settleOrder_rereads {req : PaymentCallbackReq}
    {next : Option (Result Json) → Guarded (Result Json)}
    (returned : ∀ reply, next (some reply) = pure reply)
    (other : Guarded.Everywhere Unmarking (next none)) (finished : Bool) :
    ((settleOrder req >>= next) finished).Everywhere
      (Rereads P fun outcome => Decided (catchAll req.requestId outcome.1)) := by
  refine ⟨⟨orderGetByOrderNo_reads _, ?_⟩, ?_⟩
  · rintro (_ | current)
    · exact .inr rfl
    by_cases paid : current.status = .kPaid
    · simp only [Program.bind, Guarded.following, paid, if_true]
      change Program.Calm _ _ (next (some (replayed req)) finished)
      rw [returned]
      exact .inl rfl
    · simp only [Program.bind, Guarded.following, paid, if_false]
      exact .inr rfl
  · rintro (fault | affected)
    · trivial
    by_cases changed : affected ≠ 0
    · simp only [Program.bind, Guarded.following]
      rw [if_pos changed]
      exact unmarked other finished
    · simp only [Program.bind, Guarded.following]
      rw [if_neg changed]
      refine ⟨trivial, ?_⟩
      rintro (fault | _ | current)
      · trivial
      · trivial
      by_cases paid : current.status = .kPaid
      · simp only [Program.bind, Guarded.following, paid, if_true]
        change Program.Everywhere _ (next (some (replayed req)) finished)
        rw [returned]
        trivial
      · simp only [Program.bind, Guarded.following, paid, if_false]
        trivial

/-- The body of a callback, and with it the whole call. -/
theorem handleCallbackBody_rereads (P : Platform) (req : PaymentCallbackReq) (rawBody : String)
    (finished : Bool) : (handleCallbackBody P req rawBody finished).Everywhere
      (Rereads P fun outcome => Decided (catchAll req.requestId outcome.1)) := by
  refine unmarking_bind (checkOrder_unmarking req) ?_ finished
  rintro ⟨order, amountFen⟩
  refine unmarking_bind (recordPayment_unmarking req rawBody amountFen) ?_
  rintro (_ | reply)
  · exact settleOrder_rereads (fun _ => rfl) (settled_unmarking P req order amountFen)
  · exact fun _ => trivial

/-- In every callback, an update of the order that changes no row leaves nothing but the
re-read, with success or the refusal of the order as its answer. -/
theorem handleCallback_rereads (P : Platform) (req : PaymentCallbackReq) (rawBody : String) :
    (program P (.handleCallback req rawBody)).Everywhere
      (Rereads P DecidedAnswer) := by
  let outcomes (outcome : Except Exn (Result Json)) : Prop :=
    Decided (catchAll req.requestId outcome)
  -- Leaving the transaction keeps the outcome, and answering translates it.
  have left : ∀ outcome : Except Exn (Result Json) × Bool, outcomes outcome.1 →
      (Guarded.leave outcome).Calm (engine P.collate) outcomes := by
    rintro ⟨outcome, _ | _⟩ ended <;> exact ended
  have answered : ∀ outcome, outcomes outcome →
      (Program.done (.reply (catchAll req.requestId outcome)) : Prog Answer).Calm
        (engine P.collate) DecidedAnswer :=
    fun outcome ended => ⟨_, rfl, ended⟩
  have transacted : (Guarded.transaction (handleCallbackBody P req rawBody)).Everywhere
      (Rereads P outcomes) := by
    rintro (fault | ⟨⟩)
    · trivial
    refine (handleCallbackBody_rereads P req rawBody false).bind (fun _ _ => Rereads.bind left) ?_
    rintro ⟨outcome, _ | _⟩ <;> trivial
  rw [program, handleCallback]
  split
  · trivial
  split
  · trivial
  rw [Program.bind_bind]
  exact transacted.bind (fun _ _ => Rereads.bind answered) fun _ => trivial

end Rereads

end PaymentService

end TradeReconcile
