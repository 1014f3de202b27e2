import TradeReconcile.Conduct.Alone
import TradeReconcile.Properties.Atomicity
import TradeReconcile.Properties.Replays

/-!
# Accepted callbacks stay accepted

Calls run one after the other. A callback that is answered with success names an order
with its amount, has a payment row that fits its columns, and leaves its order paid. If
its trade number is recorded then, it is found again under the number as it was sent,
unless the callback itself has recorded it and the payment table has cut spaces off.
None of this is ever undone, and the channel does not sign the trade number for another
order, so the same request meets the same answer in every later store and changes
nothing there.
-/

namespace TradeReconcile

open Transactions

namespace PaymentService

variable {P : Platform} {req : PaymentCallbackReq} {rawBody : String}

/-- A callback that fails the checks does nothing. -/
theorem unaccepted_done (rejected : ¬Accepted P req) (rawBody : String) :
    ∃ code message, code ≠ ErrCode.kSuccess ∧
      program P (.handleCallback req rawBody) =
        .done (.reply (Result.fail code message req.requestId)) := by
  rw [program, handleCallback]
  split
  · exact ⟨.kUnsupportedChannel, _, by decide, rfl⟩
  · rename_i supported
    split
    · exact ⟨.kSignVerifyFailed, _, by decide, rfl⟩
    · rename_i signed
      simp only [Bool.or_eq_true, Bool.not_eq_true', not_or, Bool.not_eq_true,
        Bool.not_eq_false] at signed
      exact absurd ⟨not_not.mp supported, signed.1, signed.2⟩ rejected

/-- A callback that passes the checks is a transaction with a translated outcome. -/
theorem accepted_program (accepted : Accepted P req) (rawBody : String) :
    program P (.handleCallback req rawBody) =
      (Guarded.transaction (handleCallbackBody P req rawBody)).bind fun outcome =>
        .done (.reply (catchAll req.requestId outcome)) := by
  rw [program, handleCallback, if_neg (not_not.mpr accepted.channel), if_neg ?_,
    Program.bind_bind]
  · rfl
  · simp [accepted.secret, accepted.signed]

/-- What a callback asks for: an order with its total, and a payment row that fits. None of it
changes in later stores, whatever becomes of the order. -/
structure Asked (P : Platform) (req : PaymentCallbackReq) (rawBody : String) (total : Int)
    (callbackTime : String) (db : Db) : Prop where
  present : ∃ row ∈ db.orders, P.collate row.val.orderNo = P.collate req.orderNo ∧
    row.val.totalAmountFen = total
  amount : MoneyUtil.yuanStringToFen req.amount = some total
  rendered : BeijingTime.epochToBeijing req.timestamp = some callbackTime
  fits : ∃ paymentNo, (buildPayment req rawBody paymentNo callbackTime total).stored.fits = true

/-- The request's trade number is taken, as the payment table stores it. -/
def TakenHere (collate : String → String) (db : Db) (req : PaymentCallbackReq) : Prop :=
  ∃ row ∈ db.payments, collate row.val.channel = collate req.channel ∧
    collate row.val.channelTradeNo = collate (storedTradeNo req)

/-- If the trade number is taken, the lookup by the number as it was sent finds a
payment of the request's order. -/
def Rereadable (collate : String → String) (db : Db) (req : PaymentCallbackReq) : Prop :=
  TakenHere collate db req → ∃ row ∈ db.payments, collate row.val.channel = collate req.channel ∧
    collate row.val.channelTradeNo = collate req.channelTradeNo ∧ row.val.orderNo = req.orderNo

/-- The callback is answered with success only where something is true. -/
def SuccessMeans (req : PaymentCallbackReq) (holds : Prop) (outcome : Except Exn (Result Json))
    (_ : Shared Db) : Prop :=
  (catchAll req.requestId outcome).code = ErrCode.kSuccess.toInt → holds

/-- A refusal means anything. -/
theorem refused_means {holds : Prop} {shared : Shared Db} (code : ErrCode) (message : String)
    (failure : code ≠ .kSuccess) : SuccessMeans req holds (.error (.biz code message)) shared :=
  fun success => absurd success (Result.fail_code_ne code message req.requestId failure)

/-- So does a fault. -/
theorem faulted_means {holds : Prop} {shared : Shared Db} (fault : Fault) :
    SuccessMeans req holds (.error (.fault fault)) shared := by
  intro success
  cases fault <;> cases success

/-- Past the recording of the trade number, the payment row has fitted and the number was
new or found again. -/
theorem recordPayment_means {total : Int} {holds : Prop} {first : Shared Db}
    {next : Option (Result Json) → Guarded (Result Json)}
    (heard : ∀ paymentNo callbackTime, BeijingTime.epochToBeijing req.timestamp = some callbackTime →
      (buildPayment req rawBody paymentNo callbackTime total).stored.fits = true →
      Rereadable P.collate first.committed req → holds) :
    Guarded.Achieves P True (fun _ => True) (SuccessMeans req holds)
      (recordPayment req rawBody total >>= next) ⟨some first.committed, [], [], []⟩ first := by
  simp only [recordPayment, bind_assoc]
  refine Guarded.nextId_achieves (fun _ _ => faulted_means _) fun paymentNo _ _ => ?_
  cases rendered : BeijingTime.epochToBeijing req.timestamp with
  | none => exact Guarded.raise_achieves (faulted_means _)
  | some callbackTime =>
    simp only [Guarded.orThrow, pure_bind]
    refine Guarded.write_achieves rfl (fun _ _ => faulted_means _) fun env _ => ?_
    split
    · exact faulted_means _
    · rename_i affected changes ran
      obtain ⟨fits, ⟨-, rfl, rfl⟩ | ⟨free, -, -⟩⟩ := insertOrKeep_ok ran
      · -- The number is taken, and the payment found by it is of this order.
        simp only [Nat.zero_ne_one, if_false, bind_assoc]
        refine Guarded.select_achieves
          ((first.committed.findPayment P.collate req.channel req.channelTradeNo).map (·.val))
          rfl (fun _ _ => faulted_means _) (fun env => rfl) ?_
        cases found : first.committed.findPayment P.collate req.channel req.channelTradeNo with
        | none => exact Guarded.raise_achieves (refused_means _ _ (by decide))
        | some existing =>
          simp only [Option.map_some]
          by_cases own : existing.val.orderNo = req.orderNo
          · have named := List.find?_some found
            simp only [Bool.and_eq_true, beq_iff_eq] at named
            exact Guarded.always_achieves (fun _ _ _ => heard paymentNo callbackTime rendered fits
              fun _ => ⟨existing, List.mem_of_find?_eq_some found, named.1, named.2, own⟩) _
          · simp only [if_neg own]
            exact Guarded.raise_achieves (refused_means _ _ (by decide))
      · have untaken : ¬TakenHere P.collate first.committed req := by
          rintro ⟨old, member, channel, tradeNo⟩
          have unlike := List.any_eq_false.mp free old member
          simp only [Bool.or_eq_true, Bool.and_eq_true, beq_iff_eq, not_or] at unlike
          exact unlike.2 ⟨channel, tradeNo⟩
        exact Guarded.always_achieves (fun _ _ _ => heard paymentNo callbackTime rendered fits
          fun taken => absurd taken untaken) _

/-- Success comes only to callbacks that ask for something, and whose trade number is new
or found again. -/
theorem asked_achieves (first : Shared Db) :
    Guarded.Achieves P True (fun _ => True)
      (SuccessMeans req ((∃ total callbackTime,
        Asked P req rawBody total callbackTime first.committed) ∧
          Rereadable P.collate first.committed req))
      (handleCallbackBody P req rawBody) .idle first := by
  rw [handleCallbackBody, checkOrder, bind_assoc]
  refine Guarded.select_achieves ((first.committed.findOrder P.collate req.orderNo).map (·.val))
    rfl (fun _ _ => faulted_means _) (fun env => rfl) ?_
  cases found : first.committed.findOrder P.collate req.orderNo with
  | none => exact Guarded.raise_achieves (refused_means _ _ (by decide))
  | some row =>
    simp only [Option.map_some]
    cases amount : MoneyUtil.yuanStringToFen req.amount with
    | none => exact Guarded.raise_achieves (refused_means _ _ (by decide))
    | some total =>
      by_cases different : total ≠ row.val.totalAmountFen
      · simp only [if_pos different]
        exact Guarded.raise_achieves (refused_means _ _ (by decide))
      · simp only [if_neg different, pure_bind]
        refine recordPayment_means fun paymentNo callbackTime rendered fits rereadable => ?_
        have named : P.collate row.val.orderNo = P.collate req.orderNo := by
          simpa using List.find?_some found
        exact ⟨⟨total, callbackTime,
          ⟨row, List.mem_of_find?_eq_some found, named, (not_not.mp different).symm⟩,
          amount, rendered, paymentNo, fits⟩, rereadable⟩

/-- The generator hands out an id that fits its column and is not the number of a
committed payment. -/
structure Issues (collate : String → String) (db : Db) (env : Env) : Prop where
  issued : ∃ id, env.nextId = some id ∧ id.length ≤ 32
  unused : Unissued collate db env

/-- Why a callback is answered with success wherever it is executed again: it asks for an
order that is paid, and if the insert meets its trade number, the lookup finds that payment
under its order. -/
structure Standing (P : Platform) (req : PaymentCallbackReq) (rawBody : String) (db : Db) :
    Prop where
  asked : ∃ total callbackTime, Asked P req rawBody total callbackTime db
  found : Rereadable P.collate db req
  paid : PaidHere P.collate db req

/-- The lookup finds the one payment of a channel's trade number. -/
theorem findPayment_eq {collate : String → String} {db : Db} {row : Row Payment}
    {channel tradeNo : String} (keys : Schema collate db) (stored : row ∈ db.payments)
    (sameChannel : collate row.val.channel = collate channel)
    (sameNo : collate row.val.channelTradeNo = collate tradeNo) :
    db.findPayment collate channel tradeNo = some row := by
  have found : (db.findPayment collate channel tradeNo).isSome := by
    rw [Db.findPayment, List.find?_isSome]
    exact ⟨row, stored, by simp [sameChannel, sameNo]⟩
  obtain ⟨matched, found⟩ := Option.isSome_iff_exists.mp found
  have selected := List.find?_some found
  simp only [Bool.and_eq_true, beq_iff_eq] at selected
  have same : matched = row := keys.channelTrade.eq_of_key (List.mem_of_find?_eq_some found) stored
    (by rw [selected.1, selected.2, sameChannel, sameNo])
  rw [found, same]

/-- The payment row of another execution fits as well. -/
theorem fits_again {paymentNo callbackTime id again : String} {total : Int}
    (fits : (buildPayment req rawBody paymentNo callbackTime total).stored.fits = true)
    (short : id.length ≤ 32) (sized : again = rawBody ∨ (storedBody again).utf8ByteSize < 2 ^ 16)
    (requestId : String) :
    (buildPayment { req with requestId := requestId } again id callbackTime total).stored.fits =
      true := by
  simp only [Payment.fits, Payment.stored, buildPayment, Bool.and_eq_true] at fits ⊢
  obtain ⟨⟨⟨⟨⟨⟨-, order⟩, channel⟩, tradeNo⟩, amount⟩, time⟩, size⟩ := fits
  refine ⟨⟨⟨⟨⟨⟨decide_eq_true short, order⟩, channel⟩, tradeNo⟩, amount⟩, time⟩, ?_⟩
  rcases sized with rfl | small
  · exact size
  · exact decide_eq_true small

/-- A success that changes nothing. -/
def Unmoved (db : Db) (outcome : Except Exn (Result Json)) (shared : Shared Db) : Prop :=
  (∃ result, outcome = .ok result ∧ result.code = ErrCode.kSuccess.toInt) ∧ shared.committed = db

section Again

variable {now : Shared Db} {again requestId : String}

/-- Executed again, a standing callback is answered with success and changes nothing. Two
paths lead there: the duplicate of step 3, and the update of no row in step 4. -/
theorem standing_achieves (formed : WellFormed P.collate now)
    (standing : Standing P req rawBody now.committed)
    (sized : again = rawBody ∨ (storedBody again).utf8ByteSize < 2 ^ 16) :
    Guarded.Achieves P False (Issues P.collate now.committed) (Unmoved now.committed)
      (handleCallbackBody P { req with requestId := requestId } again) .idle now := by
  obtain ⟨total, callbackTime, ⟨row, present, named, rfl⟩, amount, rendered, paymentNo, fits⟩ :=
    standing.asked
  have keys := formed.schema
  have found : now.committed.findOrder P.collate req.orderNo = some row := by
    rw [Db.findOrder, ← named]
    exact keys.orderNo.find_eq present
  have success : ∀ shared : Shared Db, shared.committed = now.committed →
      Unmoved now.committed (.ok (replayed { req with requestId := requestId })) shared :=
    fun shared same => ⟨⟨_, rfl, rfl⟩, same⟩
  refine checkOrder_achieves now found amount (recordPayment_achieves now rendered ?_ ?_ ?_)
  · intro env issues
    obtain ⟨id, issued, short⟩ := issues.issued
    exact ⟨id, issued, fits_again fits short sized requestId⟩
  · -- The trade number is taken, by a payment of this order.
    intro id clock issues clash
    obtain ⟨old, member, -, recorded⟩ := tradeNo_found (issues.unused id rfl) clash
    obtain ⟨existing, stored, channel, tradeNo, own⟩ := standing.found ⟨old, member, recorded⟩
    refine ⟨existing, ?_, own, fun locks => Guarded.return_achieves (success _ rfl)⟩
    exact findPayment_eq keys stored channel tradeNo
  · -- The trade number is free, so it is the order that was paid.
    intro id clock issues free locks
    obtain ⟨paid, member, same, status⟩ := standing.paid
    obtain rfl : paid = row := keys.orderNo.eq_of_key member present (same.trans named.symm)
    refine settleOrder_achieves now.tick keys present named ?_ ?_ (.inl status)
    · exact fun _ more => Guarded.return_achieves (success _ rfl)
    · intro pending
      rw [status] at pending
      cases pending

end Again

section Lasting

variable {before after : Db}

/-- What a callback asks for stays asked for: orders and accounts keep their numbers and their
users. -/
theorem Asked.lasting {total : Int} {callbackTime : String}
    (asked : Asked P req rawBody total callbackTime before) (evolved : Evolves before after) :
    Asked P req rawBody total callbackTime after where
  present := by
    obtain ⟨row, member, named, sum⟩ := asked.present
    obtain ⟨later, present, _, version, _⟩ := evolved.orders row member
    exact ⟨later, present, by rw [version]; exact named, by rw [version]; exact sum⟩
  amount := asked.amount
  rendered := asked.rendered
  fits := asked.fits

end Lasting

end PaymentService

/-! Sequences of calls. -/

/-- Orders and callbacks. The channel has signed every trade number for one order only,
also in the form in which the payment table stores it; trade numbers are told apart as the
database compares them. -/
def Traded (P : Platform) (orderOf : String → String) : Call → Prop
  | .createOrder _ => True
  | .handleCallback req _ => PaymentService.Accepted P req →
    orderOf (P.collate (PaymentService.storedTradeNo req)) = req.orderNo
  | _ => False

/-- Stores reached by calls that run one after the other. -/
abbrev Serially (P : Platform) (serves : Call → Prop) : Shared Db → Shared Db → Prop :=
  Relation.ReflTransGen fun before after =>
    ∃ call answer, serves call ∧ Alone P call before answer after

/-- Every recorded trade number belongs to the order it was signed for, and that order is
paid. -/
structure Honest (P : Platform) (orderOf : String → String) (shared : Shared Db) : Prop where
  formed : WellFormed P.collate shared
  signed : ∀ row ∈ shared.committed.payments,
    orderOf (P.collate row.val.channelTradeNo) = row.val.orderNo
  settled : ∀ row ∈ shared.committed.payments, ∃ order ∈ shared.committed.orders,
    P.collate order.val.orderNo = P.collate row.val.orderNo ∧ order.val.status = .kPaid

section Sequences

variable {P : Platform} {orderOf : String → String} {before after : Shared Db}

/-- A call that does not pass the checks is answered with a failure. -/
theorem unaccepted_answer {req : PaymentCallbackReq} {rawBody : String} {answer : Answer}
    (rejected : ¬PaymentService.Accepted P req)
    (alone : Alone P (.handleCallback req rawBody) before answer after) :
    ∃ code message, code ≠ ErrCode.kSuccess ∧
      answer = .reply (Result.fail code message req.requestId) := by
  obtain ⟨session, solo⟩ := alone
  obtain ⟨code, message, failure, done⟩ := PaymentService.unaccepted_done rejected rawBody
  rw [done] at solo
  have achieves : Achieves (engine P.collate) True (fun _ => True)
      (fun (value : Answer) _ _ => value = .reply (Result.fail code message req.requestId))
      (.done (.reply (Result.fail code message req.requestId))) .idle before := rfl
  exact ⟨code, message, failure, achieves_solo achieves solo⟩

/-- A settled callback binds its trade number. -/
theorem Settled.binds {req : PaymentCallbackReq} {rawBody : String} {settlement : Settlement}
    {first last : Db} (settled : Settled P req rawBody settlement first last) :
    BoundHere P.collate last req := by
  obtain ⟨paymentNo, callbackTime, -, made⟩ := settled.payment
  refine ⟨settlement.payment, ?_, by rw [made]; rfl, by rw [made]; rfl, by rw [made]; rfl⟩
  rw [settled.payments]
  exact List.mem_append_right _ (List.mem_singleton_self _)

/-- And it pays its order. -/
theorem Settled.pays {req : PaymentCallbackReq} {rawBody : String} {settlement : Settlement}
    {first last : Db} (settled : Settled P req rawBody settlement first last) :
    PaidHere P.collate last req :=
  ⟨settlement.paidOrder, settled.orders.new_mem, settled.named, rfl⟩

/-- Its order was not paid before. -/
theorem Settled.unpaid {req : PaymentCallbackReq} {rawBody : String} {settlement : Settlement}
    {first last : Db} (settled : Settled P req rawBody settlement first last)
    (keys : Schema P.collate first) : ¬PaidHere P.collate first req := by
  rintro ⟨row, member, named, paid⟩
  have same : row = settlement.order :=
    keys.orderNo.eq_of_key member settled.orderPresent (named.trans settled.named.symm)
  rw [same, settled.pending] at paid
  cases paid

/-- Orders stay paid. -/
theorem settled_lasting {collate : String → String} {first last : Db} {orderNo : String}
    (evolved : Evolves first last) (paid : ∃ order ∈ first.orders,
      collate order.val.orderNo = collate orderNo ∧ order.val.status = .kPaid) :
    ∃ order ∈ last.orders, collate order.val.orderNo = collate orderNo ∧
      order.val.status = .kPaid := by
  obtain ⟨order, member, named, status⟩ := paid
  obtain ⟨later, present, _, _, fixed⟩ := evolved.orders order member
  obtain rfl := fixed (by simp [status])
  exact ⟨later, present, named, status⟩

/-- What a call of a sequence does: nothing, an order, or a settled callback that was
accepted. -/
theorem traded_effect {call : Call} {answer : Answer} (traded : Traded P orderOf call)
    (formed : WellFormed P.collate before) (alone : Alone P call before answer after) :
    after.committed = before.committed ∨
    (∃ req placement, Placed P req placement before.committed after.committed) ∨
    ∃ req rawBody settlement, call = .handleCallback req rawBody ∧
      PaymentService.Accepted P req ∧
      Settled P req rawBody settlement before.committed after.committed := by
  rcases alone_effect formed alone with ⟨same, -⟩ | ⟨effect, success⟩
  · exact .inl same
  · generalize before.committed = first, after.committed = last at effect
    cases effect with
    | order placed => exact .inr (.inl ⟨_, _, placed⟩)
    | @callback req rawBody settlement _ _ settled =>
      refine .inr (.inr ⟨req, rawBody, settlement, rfl, ?_, settled⟩)
      by_contra rejected
      obtain ⟨code, message, failure, rfl⟩ := unaccepted_answer rejected alone
      simp [fresh, fail_isOk failure] at success
    | run reconciled => exact traded.elim
    | handle handled => exact traded.elim

/-- A step keeps the store honest and lets it only evolve. -/
theorem alone_honest {call : Call} {answer : Answer} (traded : Traded P orderOf call)
    (honest : Honest P orderOf before) (alone : Alone P call before answer after) :
    Honest P orderOf after ∧ Evolves before.committed after.committed := by
  have formed := (alone_ended honest.formed alone).1
  rcases traded_effect traded honest.formed alone with same | ⟨req, placement, placed⟩ |
    ⟨req, rawBody, settlement, rfl, accepted, settled⟩
  · exact ⟨⟨formed, by rw [same]; exact honest.signed, by rw [same]; exact honest.settled⟩,
      same ▸ Evolves.refl _⟩
  · refine ⟨⟨formed, ?_, ?_⟩, placed.evolves⟩ <;> rw [placed.payments]
    · exact honest.signed
    · exact fun row member => settled_lasting placed.evolves (honest.settled row member)
  · obtain ⟨paymentNo, callbackTime, -, made⟩ := settled.payment
    refine ⟨⟨formed, ?_, ?_⟩, settled.evolves⟩ <;> rw [settled.payments] <;> intro row member <;>
      rcases List.mem_append.mp member with old | new
    · exact honest.signed row old
    · rw [List.mem_singleton.mp new, made]
      exact traded accepted
    · exact settled_lasting settled.evolves (honest.settled row old)
    · rw [List.mem_singleton.mp new, made]
      exact settled.pays

/-- A sequence of calls keeps the trade numbers honest. The induction is on the sequence. -/
theorem serially_honest (honest : Honest P orderOf before)
    (run : Serially P (Traded P orderOf) before after) :
    Honest P orderOf after ∧ Evolves before.committed after.committed := by
  induction run with
  | refl => exact ⟨honest, Evolves.refl _⟩
  | tail _ step inductionHypothesis =>
    obtain ⟨call, answer, traded, alone⟩ := step
    obtain ⟨middle, evolved⟩ := inductionHypothesis
    obtain ⟨last, further⟩ := alone_honest traded middle alone
    exact ⟨last, evolved.trans further⟩

section Standing

variable {req : PaymentCallbackReq} {rawBody : String}

/-- A callback stands through a call. No other callback takes its trade number, as the
channel has signed that for a paid order. -/
theorem alone_standing {call : Call} {answer : Answer} (traded : Traded P orderOf call)
    (honest : Honest P orderOf before) (alone : Alone P call before answer after)
    (signed : orderOf (P.collate (PaymentService.storedTradeNo req)) = req.orderNo)
    (standing : PaymentService.Standing P req rawBody before.committed) :
    PaymentService.Standing P req rawBody after.committed := by
  obtain ⟨later, evolved⟩ := alone_honest traded honest alone
  obtain ⟨total, callbackTime, asked⟩ := standing.asked
  refine ⟨⟨total, callbackTime, asked.lasting evolved⟩, ?_, standing.paid.lasting evolved⟩
  rintro ⟨row, member, channel, tradeNo⟩
  by_cases old : row ∈ before.committed.payments
  · obtain ⟨found, present, facts⟩ := standing.found ⟨row, old, channel, tradeNo⟩
    exact ⟨found, evolved.payments present, facts⟩
  · exfalso
    rcases traded_effect traded honest.formed alone with same | ⟨_, placement, placed⟩ |
      ⟨other, _, settlement, -, -, settled⟩
    · exact old (same ▸ member)
    · exact old (placed.payments ▸ member)
    · obtain ⟨paymentNo, callbackTime, -, made⟩ := settled.payment
      have own : row.val.orderNo = req.orderNo := by
        rw [← later.signed row member, tradeNo, signed]
      rw [settled.payments, List.mem_append, List.mem_singleton] at member
      rw [member.resolve_left old, made] at own
      refine settled.unpaid honest.formed.schema ?_
      have named : other.orderNo = req.orderNo := own
      rw [PaidHere, named]
      exact standing.paid

/-- What stands of an accepted callback goes on standing through a sequence of calls. -/
theorem serially_standing (honest : Honest P orderOf before)
    (signed : orderOf (P.collate (PaymentService.storedTradeNo req)) = req.orderNo)
    (standing : PaymentService.Standing P req rawBody before.committed)
    (run : Serially P (Traded P orderOf) before after) :
    Honest P orderOf after ∧ PaymentService.Standing P req rawBody after.committed := by
  induction run with
  | refl => exact ⟨honest, standing⟩
  | tail _ step inductionHypothesis =>
    obtain ⟨call, answer, traded, alone⟩ := step
    obtain ⟨middle, stands⟩ := inductionHypothesis
    exact ⟨(alone_honest traded middle alone).1,
      alone_standing traded middle alone signed stands⟩

end Standing

/-- A callback answered with success passed the checks. -/
theorem success_accepted {req : PaymentCallbackReq} {rawBody : String} {result : Result Json}
    (alone : Alone P (.handleCallback req rawBody) before (.reply result) after)
    (success : result.code = ErrCode.kSuccess.toInt) : PaymentService.Accepted P req := by
  by_contra rejected
  obtain ⟨code, message, failure, same⟩ := unaccepted_answer rejected alone
  obtain rfl := Answer.reply.inj same
  exact Result.fail_code_ne code message req.requestId failure success

/-- It asked for an order of the store it met, and found its trade number new or found it
again. -/
theorem success_asked {req : PaymentCallbackReq} {rawBody : String} {result : Result Json}
    (alone : Alone P (.handleCallback req rawBody) before (.reply result) after)
    (success : result.code = ErrCode.kSuccess.toInt) :
    (∃ total callbackTime,
      PaymentService.Asked P req rawBody total callbackTime before.committed) ∧
      PaymentService.Rereadable P.collate before.committed req := by
  have accepted := success_accepted alone success
  have achieves : Achieves (engine P.collate) True (fun _ => True)
      (fun (answer : Answer) _ _ => ∀ result, answer = .reply result →
        result.code = ErrCode.kSuccess.toInt → (∃ total callbackTime,
          PaymentService.Asked P req rawBody total callbackTime before.committed) ∧
          PaymentService.Rereadable P.collate before.committed req)
      (program P (.handleCallback req rawBody)) .idle before := by
    rw [PaymentService.accepted_program accepted]
    refine Achieves.bind ((Guarded.transaction_achieves
      (fun _ fault => PaymentService.faulted_means fault)
      (PaymentService.asked_achieves before)).mono ?_)
    rintro outcome _ _ ended _ ⟨⟩
    exact ended
  obtain ⟨session, solo⟩ := alone
  exact achieves_solo achieves solo result rfl success

/-- It found its order paid, by itself or by another callback, or saw to that. -/
theorem success_paid {req : PaymentCallbackReq} {rawBody : String} {result : Result Json}
    (honest : Honest P orderOf before)
    (traded : Traded P orderOf (.handleCallback req rawBody))
    (alone : Alone P (.handleCallback req rawBody) before (.reply result) after)
    (success : result.code = ErrCode.kSuccess.toInt) : PaidHere P.collate after.committed req := by
  have later := (alone_honest traded honest alone).1
  obtain ⟨-, history, linked, ended⟩ := alone_ended honest.formed alone
  cases ended with
  | rejectedCallback _ rejected => exact absurd (success_accepted alone success) rejected
  | callback ended =>
    cases ended with
    | faulted fault => cases fault <;> cases success
    | refused _ _ refusal => cases refusal <;> cases success
    | conflicting | unpayable => cases success
    | replayed reason =>
      rcases reason with ⟨row, member, -, -, own⟩ | paid
      · have paid := later.settled row member
        rwa [own] at paid
      · exact paid
    | processed settled evolved => exact settled.pays.lasting evolved

/-- After its success the callback stands, unless it has recorded a trade number that the
payment table has cut. -/
theorem success_standing {req : PaymentCallbackReq} {rawBody : String} {result : Result Json}
    (honest : Honest P orderOf before)
    (traded : Traded P orderOf (.handleCallback req rawBody))
    (alone : Alone P (.handleCallback req rawBody) before (.reply result) after)
    (success : result.code = ErrCode.kSuccess.toInt)
    (kept : PaymentService.Unpadded req ∨ PaidHere P.collate before.committed req) :
    PaymentService.Standing P req rawBody after.committed := by
  obtain ⟨⟨total, callbackTime, asked⟩, found⟩ := success_asked alone success
  have evolved := (alone_honest traded honest alone).2
  refine ⟨⟨total, callbackTime, asked.lasting evolved⟩, ?_,
    success_paid honest traded alone success⟩
  rcases traded_effect traded honest.formed alone with same | ⟨_, placement, placed⟩ |
    ⟨_, _, settlement, called, -, settled⟩
  · rwa [same]
  · rw [PaymentService.Rereadable, PaymentService.TakenHere, placed.payments]
    exact found
  · cases called
    have unpadded := kept.resolve_right (settled.unpaid honest.formed.schema)
    obtain ⟨row, member, channel, tradeNo, own⟩ := settled.binds
    exact fun _ => ⟨row, member, channel, by rw [tradeNo, unpadded], own⟩

/-- A standing callback alone and without faults is answered with success again. -/
theorem standing_again {req : PaymentCallbackReq} {rawBody again : String} {now : Shared Db}
    (formed : WellFormed P.collate now) (accepted : PaymentService.Accepted P req)
    (standing : PaymentService.Standing P req rawBody now.committed) (requestId : String)
    (sized : again = rawBody ∨ (PaymentService.storedBody again).utf8ByteSize < 2 ^ 16) :
    Achieves (engine P.collate) False (PaymentService.Issues P.collate now.committed)
      (fun (answer : Answer) _ last => ∃ reply, answer = .reply reply ∧
        reply.code = ErrCode.kSuccess.toInt ∧ last.committed = now.committed)
      (program P (.handleCallback { req with requestId := requestId } again)) .idle now := by
  have same : PaymentService.Accepted P { req with requestId := requestId } :=
    ⟨accepted.channel, accepted.secret, accepted.signed⟩
  rw [PaymentService.accepted_program same]
  refine Achieves.bind ((Guarded.transaction_achieves nofun
    (PaymentService.standing_achieves formed standing sized)).mono ?_)
  rintro outcome _ last ⟨⟨reply, rfl, success⟩, unmoved⟩
  exact ⟨reply, rfl, success, unmoved⟩

/-- An accepted callback stays accepted: in every later store of a sequence, the same
request is answered with success again, under any request id, and changes nothing. The
payment table has taken its trade number as it was sent, or its order had been paid
before it was answered first. -/
theorem serially_again {first now : Shared Db} {req : PaymentCallbackReq} {rawBody : String}
    {result : Result Json} (formed : WellFormed P.collate first)
    (empty : first.committed.payments = [])
    (earlier : Serially P (Traded P orderOf) first before)
    (traded : Traded P orderOf (.handleCallback req rawBody))
    (alone : Alone P (.handleCallback req rawBody) before (.reply result) after)
    (success : result.code = ErrCode.kSuccess.toInt)
    (kept : PaymentService.Unpadded req ∨ PaidHere P.collate before.committed req)
    (later : Serially P (Traded P orderOf) after now) (requestId again : String)
    (sized : again = rawBody ∨ (PaymentService.storedBody again).utf8ByteSize < 2 ^ 16)
    (envs : Nat → Env)
    (issues : ∀ index, PaymentService.Issues P.collate now.committed (envs index)) :
    ∃ steps reply last,
      aloneRun P ((List.range steps).map fun index => .ok (envs index))
        (.handleCallback { req with requestId := requestId } again) now = some (.reply reply, last) ∧
      reply.code = ErrCode.kSuccess.toInt ∧ last.committed = now.committed := by
  have start : Honest P orderOf first := ⟨formed, by simp [empty], by simp [empty]⟩
  have honest := (serially_honest start earlier).1
  have accepted := success_accepted alone success
  have middle := (alone_honest traded honest alone).1
  obtain ⟨present, standing⟩ := serially_standing middle (traded accepted)
    (success_standing honest traded alone success kept) later
  obtain ⟨steps, answer, -, last, ran, reply, rfl, code, unmoved⟩ := aloneRun_of_achieves
    (standing_again present.formed accepted standing requestId sized) envs issues
  exact ⟨steps, reply, last, ran, code, unmoved⟩

end Sequences

namespace Shop

/-- The request of the shop's callback. -/
def firstCallback : PaymentCallbackReq := { second "T1" with requestId := "cb-00001" }

/-- The same with a space past the column of the trade number. -/
def paddedCallback : PaymentCallbackReq := { second paddedTradeNo with requestId := "cb-00001" }

/-- Place the order and pay it with a callback: the code of the reply, and whether an id is
unused. -/
def paidAlone (req : PaymentCallbackReq) (id : String) : Option ((Option Int × Bool) × Shared Db) :=
  (aloneRun platform (List.replicate 11 (.ok ⟨some "7001", 1789275496⟩)) (order "req-0001")
    store).bind fun (_, before) =>
      (aloneRun platform (List.replicate 13 (.ok ⟨some "8001", 1789275496⟩))
        (.handleCallback req "raw") before).map fun (answer, after) =>
          ((match answer with
            | .reply result => some result.code
            | _ => none,
          after.committed.payments.all fun row => row.val.paymentNo != id), after)

/-- What placing and paying shows. -/
theorem paidAlone_serially {req : PaymentCallbackReq} {id : String} {code : Int} {after : Shared Db}
    (ran : paidAlone req id = some ((some code, true), after)) :
    ∃ before result, Serially platform (Traded platform fun _ => "7001") store before ∧
      Alone platform (.handleCallback req "raw") before (.reply result) after ∧
      result.code = code ∧ ∀ row ∈ after.committed.payments, row.val.paymentNo ≠ id := by
  obtain ⟨⟨placed, before⟩, ordered, ran⟩ := Option.bind_eq_some_iff.mp ran
  obtain ⟨⟨answer, last⟩, paid, same⟩ := Option.map_eq_some_iff.mp ran
  simp only [Prod.mk.injEq] at same
  obtain ⟨⟨given, unused⟩, rfl⟩ := same
  cases answer with
  | reply result =>
    refine ⟨before, result, ?_, .of_aloneRun paid, Option.some.inj given, fun row member => ?_⟩
    · exact .single ⟨order "req-0001", placed, trivial, .of_aloneRun ordered⟩
    · exact bne_iff_ne.mp (List.all_eq_true.mp unused row member)
  | order | thrown => cases given

/-- The code that a callback is answered with, run alone. -/
def codeAlone (req : PaymentCallbackReq) (id : String) (steps : Nat) (shared : Shared Db) :
    Option Int :=
  (aloneRun platform ((List.range steps).map fun _ => .ok ⟨some id, 1789275496⟩)
    (.handleCallback req "raw") shared).bind fun (answer, _) => match answer with
      | .reply reply => some reply.code
      | _ => none

/-- The run behind a computed code. -/
theorem codeAlone_some {req : PaymentCallbackReq} {id : String} {steps : Nat} {shared : Shared Db}
    {code : Int} (ran : codeAlone req id steps shared = some code) : ∃ reply last,
      aloneRun platform ((List.range steps).map fun _ => .ok ⟨some id, 1789275496⟩)
        (.handleCallback req "raw") shared = some (.reply reply, last) ∧ reply.code = code := by
  obtain ⟨⟨answer, last⟩, ended, same⟩ := Option.bind_eq_some_iff.mp ran
  cases answer with
  | reply reply => exact ⟨reply, last, ended, Option.some.inj same⟩
  | order | thrown => cases same

end Shop

/-- The shop's order is placed and paid, and the callback sent again is answered with success
from the same store. -/
theorem shop_again : ∃ (before after : Shared Db) (result : Result Json),
    Serially Shop.platform (Traded Shop.platform fun _ => "7001") Shop.store before ∧
    Alone Shop.platform (.handleCallback Shop.firstCallback "raw") before (.reply result) after ∧
    result.code = ErrCode.kSuccess.toInt ∧
    ∃ steps reply last,
      aloneRun Shop.platform ((List.range steps).map fun _ => .ok ⟨some "8002", 1789275496⟩)
        (.handleCallback { Shop.firstCallback with requestId := "cb-00002" } "raw") after =
          some (.reply reply, last) ∧
      reply.code = ErrCode.kSuccess.toInt ∧ last.committed = after.committed := by
  have ran : (Shop.paidAlone Shop.firstCallback "8002").map Prod.fst = some (some 0, true) := by
    decide +kernel
  obtain ⟨⟨shown, after⟩, ran, rfl⟩ := Option.map_eq_some_iff.mp ran
  obtain ⟨before, result, earlier, paid, success, unused⟩ := Shop.paidAlone_serially ran
  have traded : Traded Shop.platform (fun _ => "7001")
      (.handleCallback Shop.firstCallback "raw") := fun _ => rfl
  refine ⟨before, after, result, earlier, paid, success, ?_⟩
  refine serially_again Shop.store_formed rfl earlier traded paid success (.inl (by decide)) .refl
    "cb-00002" "raw" (.inl rfl) (fun _ => ⟨some "8002", 1789275496⟩) fun _ => ?_
  refine ⟨⟨"8002", rfl, by decide⟩, ?_⟩
  rintro id ⟨⟩ row member
  exact unused row member

/-- The shop's order is placed and paid by a callback whose trade number has a space past
its column, and the same callback is answered as a conflict. -/
theorem shop_notAgain : ∃ (before after : Shared Db) (result : Result Json),
    Serially Shop.platform (Traded Shop.platform fun _ => "7001") Shop.store before ∧
    Alone Shop.platform (.handleCallback Shop.paddedCallback "raw") before (.reply result) after ∧
    result.code = ErrCode.kSuccess.toInt ∧
    ∃ steps reply last,
      aloneRun Shop.platform ((List.range steps).map fun _ => .ok ⟨some "8002", 1789275496⟩)
        (.handleCallback { Shop.paddedCallback with requestId := "cb-00002" } "raw") after =
          some (.reply reply, last) ∧
      reply.code = ErrCode.kChannelTradeConflict.toInt := by
  have ran : ((Shop.paidAlone Shop.paddedCallback "8002").map fun (shown, after) =>
      (shown, Shop.codeAlone { Shop.paddedCallback with requestId := "cb-00002" } "8002" 7 after)) =
        some ((some 0, true), some 50003) := by decide +kernel
  obtain ⟨⟨shown, after⟩, ran, same⟩ := Option.map_eq_some_iff.mp ran
  obtain ⟨rfl, again⟩ := Prod.mk.inj same
  obtain ⟨before, result, earlier, paid, success, -⟩ := Shop.paidAlone_serially ran
  obtain ⟨reply, last, answered, code⟩ := Shop.codeAlone_some again
  exact ⟨before, after, result, earlier, paid, success, 7, reply, last, answered, code⟩

end TradeReconcile
