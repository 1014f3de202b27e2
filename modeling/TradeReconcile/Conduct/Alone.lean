import TradeReconcile.Conduct.Payment
import TradeReconcile.Transactions.Alone

/-!
# Guarded code that runs alone

The requests of code under a transaction guard, one rule for each, when nobody else uses
the store. What the code achieves is stated about its outcome and the store that the end
of the guard's scope leaves: pending images are published if the code has committed, and
rolled back if it has not. The steps of a callback follow, without faults.
-/

namespace TradeReconcile

open Transactions

namespace Guarded

variable {α β : Type}

/-- The store after the scope was left. -/
def closed (P : Platform) (finished : Bool) (session : Connection) (shared : Shared Db) :
    Shared Db :=
  if finished then ((engine P.collate).publish session shared).2 else shared

/-- The code ends with an outcome and a store as required, run alone from the given session.
The answers of its environment are the expected ones, and faults occur only where they are
admitted. -/
def Achieves (P : Platform) (faults : Prop) (expects : Env → Prop)
    (post : Except Exn α → Shared Db → Prop) (code : Guarded α) (session : Connection)
    (shared : Shared Db) : Prop :=
  Transactions.Achieves (engine P.collate) faults expects
    (fun outcome session shared => post outcome.1 (closed P outcome.2 session shared))
    (code false) session shared

section Rules

variable {P : Platform} {faults : Prop} {expects : Env → Prop}
  {post : Except Exn α → Shared Db → Prop} {session : Connection} {shared : Shared Db}

/-- The end of a body with a value. -/
theorem return_achieves {value : α} (ended : post (.ok value) shared) :
    Achieves P faults expects post (pure value) session shared :=
  ended

/-- The end of a body with an exception. -/
theorem raise_achieves {exn : Exn} (ended : post (.error exn) shared) :
    Achieves P faults expects post (raise exn) session shared :=
  ended

/-- A requirement that is met anyway. -/
theorem always_achieves (always : ∀ outcome shared, post outcome shared) (code : Guarded α) :
    Achieves P faults expects post code session shared :=
  achieves_of_forall (fun _ _ _ => always _ _) (code false) session shared

/-- A plain SELECT, which always has a result. -/
theorem select_achieves {s : Stmt} {next : Resp s → Guarded α} (reply : Resp s)
    (source : statementSource s = .snapshot)
    (failing : faults → ∀ fault, post (.error (.fault fault)) shared)
    (ran : ∀ env, execute P.collate s shared.counter env ((engine P.collate).overlay
      (session.snapshot.getD shared.committed) session.own) = .ok (reply, []))
    (rest : Achieves P faults expects post (next reply)
      { session with snapshot := some (session.snapshot.getD shared.committed) } shared) :
    Achieves P faults expects post (execSqlSync s >>= next) session shared := by
  refine ⟨fun allowed fault => failing allowed fault, fun env _ => ?_⟩
  have result : answered (engine P.collate) env s session shared =
      (.ok reply, { session with snapshot := some (session.snapshot.getD shared.committed) },
        shared) := by
    have located : (engine P.collate).source s = .snapshot := source
    have here : (engine P.collate).run s shared.counter env ((engine P.collate).overlay
      (session.snapshot.getD shared.committed) session.own) = .ok (reply, []) := ran env
    simp only [answered, located, here]
  rw [result]
  exact rest

/-- A SELECT on the client itself, which sees what is committed and fixes no snapshot. -/
theorem client_achieves {s : Stmt} {next : Resp s → Guarded α} (reply : Resp s)
    (source : statementSource s = .client)
    (failing : faults → ∀ fault, post (.error (.fault fault)) shared)
    (ran : ∀ env, execute P.collate s shared.counter env shared.committed = .ok (reply, []))
    (rest : Achieves P faults expects post (next reply) session shared) :
    Achieves P faults expects post (execSqlSync s >>= next) session shared := by
  have located : (engine P.collate).source s = .client := source
  constructor
  · intro allowed fault
    rw [failed, located]
    exact failing allowed fault
  · intro env _
    have here : (engine P.collate).run s shared.counter env shared.committed = .ok (reply, []) :=
      ran env
    have result : answered (engine P.collate) env s session shared = (.ok reply, session, shared) := by
      simp only [answered, located, here]
    rw [result]
    exact rest

/-- A SELECT on the client itself that the server rejects. -/
theorem client_rejected {s : Stmt} {next : Resp s → Guarded α} {rejection : Fault}
    (source : statementSource s = .client)
    (failing : faults → ∀ fault, post (.error (.fault fault)) shared)
    (ran : ∀ env, execute P.collate s shared.counter env shared.committed = .error rejection)
    (ended : post (.error (.fault rejection)) shared) :
    Achieves P faults expects post (execSqlSync s >>= next) session shared := by
  have located : (engine P.collate).source s = .client := source
  constructor
  · intro allowed fault
    rw [failed, located]
    exact failing allowed fault
  · intro env _
    have here : (engine P.collate).run s shared.counter env shared.committed = .error rejection :=
      ran env
    have result : answered (engine P.collate) env s session shared =
        (.error rejection, session, shared) := by
      simp only [answered, located, here]
    rw [result]
    exact ended

/-- A writing statement: an exception of the server, or its row images. The statement acts on
the committed rows under the call's own images, and what it writes is added to these. -/
theorem write_achieves {s : Stmt} {next : Resp s → Guarded α}
    (source : statementSource s = .current)
    (failing : faults → ∀ fault, post (.error (.fault fault)) shared)
    (rest : ∀ env, expects env →
      match execute P.collate s shared.counter env
        ((engine P.collate).overlay shared.committed session.own) with
      | .error fault => post (.error (.fault fault)) shared
      | .ok (reply, changes) => Achieves P faults expects post (next reply)
          { session with
            own := session.own ++ changes
            locks := session.locks ++ statementLocks P.collate s shared.counter
              ((engine P.collate).overlay shared.committed session.own) } shared.tick) :
    Achieves P faults expects post (execSqlSync s >>= next) session shared := by
  refine ⟨fun allowed fault => failing allowed fault, fun env expected => ?_⟩
  have here := rest env expected
  have located : (engine P.collate).source s = .current := source
  have same : (engine P.collate).run s shared.counter env
      ((engine P.collate).overlay shared.committed session.own) =
      execute P.collate s shared.counter env
        ((engine P.collate).overlay shared.committed session.own) := rfl
  simp only [answered, located, same]
  cases ran : execute P.collate s shared.counter env
    ((engine P.collate).overlay shared.committed session.own) with
  | error fault =>
    rw [ran] at here
    exact here
  | ok result =>
    rw [ran] at here
    exact here

/-- Drawing a number: a call alone goes on with what the generator gives it, or throws. -/
theorem nextId_achieves {next : String → Guarded α}
    (failing : ∀ clock, expects ⟨none, clock⟩ → post (.error (.fault .std)) shared)
    (rest : ∀ id clock, expects ⟨some id, clock⟩ →
      Achieves P faults expects post (next id) session shared) :
    Achieves P faults expects post (nextId >>= next) session shared := by
  rintro ⟨issued, clock⟩ expected
  cases issued with
  | none => exact failing clock expected
  | some id => exact rest id clock expected

/-- Nothing is pending after a commit, so leaving the scope adds nothing to it. -/
theorem commit_achieves {value : α} (failing : faults → ∀ fault, post (.error (.fault fault)) shared)
    (ended : post (.ok value) ((engine P.collate).publish session shared).2) :
    Achieves P faults expects post (commit >>= fun _ => pure value) session shared := by
  refine ⟨fun allowed fault => failing allowed fault, ?_⟩
  have clean : ((engine P.collate).publish session shared).1.own = [] := by
    unfold Engine.publish
    split <;> rfl
  have once : ((engine P.collate).publish ((engine P.collate).publish session shared).1
      ((engine P.collate).publish session shared).2).2 =
      ((engine P.collate).publish session shared).2 := by
    rw [Engine.publish, clean]
  change post (.ok value) (closed P true _ _)
  rw [closed, if_pos rfl, once]
  exact ended

end Rules

/-- A whole transaction on a new connection. -/
theorem transaction_achieves {P : Platform} {faults : Prop} {expects : Env → Prop}
    {post : Except Exn α → Shared Db → Prop} {body : Guarded α} {shared : Shared Db}
    (failing : faults → ∀ fault, post (.error (.fault fault)) shared)
    (run : Achieves P faults expects post body .idle shared) :
    Transactions.Achieves (engine P.collate) faults expects
      (fun outcome _ shared => post outcome shared) (transaction body) .idle shared := by
  refine ⟨fun allowed fault => failing allowed fault, Transactions.Achieves.bind ?_⟩
  apply Transactions.Achieves.mono run
  rintro ⟨outcome, finished⟩ session now ended
  cases finished with
  | true => exact ended
  | false => exact ended

end Guarded

namespace PaymentService

section Steps

variable {P : Platform} {req : PaymentCallbackReq} {rawBody : String} {expects : Env → Prop}
  {post : Except Exn (Result Json) → Shared Db → Prop} (shared : Shared Db)

/-- Step 2 for an order with the amount. -/
theorem checkOrder_achieves {next : Order × Int → Guarded (Result Json)} {row : Row Order}
    (found : shared.committed.findOrder P.collate req.orderNo = some row)
    (amount : MoneyUtil.yuanStringToFen req.amount = some row.val.totalAmountFen)
    (rest : Guarded.Achieves P False expects post (next (row.val, row.val.totalAmountFen))
      ⟨some shared.committed, [], [], []⟩ shared) :
    Guarded.Achieves P False expects post (checkOrder req >>= next) .idle shared := by
  rw [checkOrder, bind_assoc]
  refine Guarded.select_achieves ((shared.committed.findOrder P.collate req.orderNo).map (·.val))
    rfl False.elim (fun env => rfl) ?_
  simp only [found, Option.map_some, amount, ne_eq, not_true_eq_false, if_false, pure_bind]
  exact rest

/-- Step 3 for a row that fits. Its key is free, and the callback goes on; or it is taken by
a payment of the same order, and the re-read finds that payment under the number as it was
sent. -/
theorem recordPayment_achieves {next : Option (Result Json) → Guarded (Result Json)} {total : Int}
    {callbackTime : String} (rendered : BeijingTime.epochToBeijing req.timestamp = some callbackTime)
    (fits : ∀ env, expects env → ∃ id, env.nextId = some id ∧
      (buildPayment req rawBody id callbackTime total).stored.fits = true)
    (taken : ∀ id clock, expects ⟨some id, clock⟩ →
      shared.committed.hasPaymentKey P.collate
        (buildPayment req rawBody id callbackTime total).stored = true →
      ∃ existing, shared.committed.findPayment P.collate req.channel req.channelTradeNo =
          some existing ∧ existing.val.orderNo = req.orderNo ∧
        ∀ locks, Guarded.Achieves P False expects post (next (some (replayed req)))
          ⟨some shared.committed, [], locks, []⟩ shared.tick)
    (free : ∀ id clock, expects ⟨some id, clock⟩ →
      shared.committed.hasPaymentKey P.collate
        (buildPayment req rawBody id callbackTime total).stored = false →
      ∀ locks, Guarded.Achieves P False expects post (next none)
        ⟨some shared.committed,
          [.payment ⟨shared.counter, (buildPayment req rawBody id callbackTime total).stored⟩],
          locks, []⟩
        shared.tick) :
    Guarded.Achieves P False expects post (recordPayment req rawBody total >>= next)
      ⟨some shared.committed, [], [], []⟩ shared := by
  simp only [recordPayment, bind_assoc]
  refine Guarded.nextId_achieves ?_ fun id clock expected => ?_
  · intro clock expected
    obtain ⟨id, missing, -⟩ := fits _ expected
    cases missing
  obtain ⟨same, issued, fitting⟩ := fits _ expected
  obtain rfl := Option.some.inj issued
  simp only [rendered, Guarded.orThrow, pure_bind]
  refine Guarded.write_achieves rfl False.elim fun env _ => ?_
  have ran : execute P.collate
      (.paymentInsertWithDedup (buildPayment req rawBody id callbackTime total)) shared.counter env
      ((engine P.collate).overlay shared.committed []) =
      insertOrKeep true
        (shared.committed.hasPaymentKey P.collate
          (buildPayment req rawBody id callbackTime total).stored)
        .payment shared.counter (buildPayment req rawBody id callbackTime total).stored := by
    rw [← fitting]
    rfl
  cases clash : shared.committed.hasPaymentKey P.collate
      (buildPayment req rawBody id callbackTime total).stored with
  | true =>
    obtain ⟨existing, found, own, rest⟩ := taken id clock expected clash
    rw [clash] at ran
    rw [ran]
    simp only [insertOrKeep, Bool.not_true, Bool.false_eq_true, if_false, if_true,
      Nat.zero_ne_one, bind_assoc]
    refine Guarded.select_achieves
      ((shared.committed.findPayment P.collate req.channel req.channelTradeNo).map (·.val))
      rfl False.elim (fun env => rfl) ?_
    simp only [found, Option.map_some, own, if_true, pure_bind]
    exact rest _
  | false =>
    rw [clash] at ran
    rw [ran]
    simp only [insertOrKeep, Bool.not_true, Bool.false_eq_true, if_false, if_true, pure_bind]
    exact free id clock expected clash _

/-- Step 4 for an order that is paid or pending. The update marks a pending order; for a paid
one it changes no row, and the re-read, which nobody disturbs, answers the callback as a
replay. -/
theorem settleOrder_achieves {next : Option (Result Json) → Guarded (Result Json)}
    {payment : Row Payment} {row : Row Order} {locks : List Lock}
    (keys : Schema P.collate shared.committed) (present : row ∈ shared.committed.orders)
    (named : P.collate row.val.orderNo = P.collate req.orderNo)
    (paid : row.val.status = .kPaid → ∀ more, Guarded.Achieves P False expects post
      (next (some (replayed req))) ⟨some shared.committed, [.payment payment], more, []⟩ shared.tick)
    (pending : row.val.status = .kPendingPayment → ∀ paidAt more,
      Guarded.Achieves P False expects post (next none)
        ⟨some shared.committed, [.payment payment, .order (paidImage row paidAt)], more, []⟩
        shared.tick)
    (either : row.val.status = .kPaid ∨ row.val.status = .kPendingPayment) :
    Guarded.Achieves P False expects post (settleOrder req >>= next)
      ⟨some shared.committed, [.payment payment], locks, []⟩ shared := by
  simp only [settleOrder, bind_assoc]
  refine Guarded.write_achieves rfl False.elim fun env _ => ?_
  have ran : execute P.collate (.orderMarkPaid req.orderNo) shared.counter env
      ((engine P.collate).overlay shared.committed [.payment payment]) =
      .ok (updateRows shared.committed.orders
        (fun row => P.collate row.val.orderNo == P.collate req.orderNo &&
          row.val.status == .kPendingPayment)
        (fun order => { order with status := .kPaid, paidAt := BeijingTime.now env.clock })
        .order) := rfl
  rw [ran]
  rcases marked : updateRows shared.committed.orders
      (fun row => P.collate row.val.orderNo == P.collate req.orderNo &&
        row.val.status == .kPendingPayment)
      (fun order => { order with status := .kPaid, paidAt := BeijingTime.now env.clock })
      .order with ⟨affected, changes⟩
  rcases updateRows_unique marked keys.orderNo
    (by
      intro row _ selected
      simp only [Bool.and_eq_true, beq_iff_eq] at selected
      exact selected.1) with ⟨rfl, rfl, absent⟩ | ⟨order, member, selected, rfl, rfl⟩
  · have settled : row.val.status = .kPaid := by
      rcases either with settled | waiting
      · exact settled
      · simpa [named, waiting] using absent row present
    have found : shared.committed.findOrder P.collate req.orderNo = some row := by
      rw [Db.findOrder, ← named]
      exact keys.orderNo.find_eq present
    simp only [ne_eq, not_true_eq_false, if_false, bind_assoc]
    refine Guarded.select_achieves
      ((shared.committed.findOrder P.collate req.orderNo).map (·.val)) rfl False.elim (fun env => rfl) ?_
    simp only [found, Option.map_some, settled, if_true, pure_bind]
    exact paid settled _
  · simp only [Bool.and_eq_true, beq_iff_eq] at selected
    obtain rfl : order = row := keys.orderNo.eq_of_key member present
      (selected.1.trans named.symm)
    simp only [ne_eq, Nat.one_ne_zero, not_false_eq_true, if_true, pure_bind]
    exact pending selected.2 _ _

/-- An account that covers an amount, with a flow entry that fits its columns. Nothing is said
of the entry's balances, which follow from the deduction. -/
structure Chargeable (collate : String → String) (req : PaymentCallbackReq) (userId : Nat)
    (total : Int) (account : Row Account) (db : Db) : Prop where
  present : account ∈ db.accounts
  owner : account.val.userId = userId
  normal : account.val.status = 0
  covered : total ≤ account.val.balanceFen
  positive : 0 < total
  accountNo : account.val.accountNo.length ≤ 32
  balance : fitsDecimal account.val.balanceFen = true
  orderNo : req.orderNo.length ≤ 32
  requestId : req.requestId.length ≤ 64
  unused : ∀ row ∈ db.flows, collate row.val.requestId ≠ collate req.requestId

/-- The flow entry's balances are the ones around the deduction: the re-read of the account
sees the deduction of its own transaction, and the total is added back for the balance
before. -/
theorem enterFlow_achieves {next : Unit → Guarded (Result Json)} {order : Order} {total : Int}
    {account : Row Account} {payment : Row Payment} {paid : Row Order} {locks : List Lock}
    (keys : Schema P.collate shared.committed)
    (chargeable : Chargeable P.collate req order.userId total account shared.committed)
    (rest : ∀ flow more, Guarded.Achieves P False expects post (next ())
      ⟨some shared.committed, [.payment payment, .order paid, .account (debitImage account total),
        .flow flow], more, []⟩ shared.tick) :
    Guarded.Achieves P False expects post (enterFlow req order account.val total >>= next)
      ⟨some shared.committed, [.payment payment, .order paid, .account (debitImage account total)],
        locks, []⟩ shared := by
  simp only [enterFlow, bind_assoc]
  refine Guarded.select_achieves (((putRow shared.committed.accounts (debitImage account total)).find?
    fun row => row.val.userId == order.userId).map (·.val)) rfl False.elim (fun env => rfl) ?_
  have reread : (putRow shared.committed.accounts (debitImage account total)).find?
      (fun row => row.val.userId == order.userId) = some (debitImage account total) := by
    rw [← chargeable.owner]
    exact reread_image keys.accountIds keys.accountUser chargeable.present rfl rfl
  rw [reread]
  simp only [Option.map_some, Guarded.orThrow, pure_bind]
  refine Guarded.write_achieves rfl False.elim fun env _ => ?_
  generalize entry : AccountFlow.mk account.val.accountNo .kPayment .kOut total
    ((debitImage account total).val.balanceFen + total) (debitImage account total).val.balanceFen
    req.orderNo req.requestId = flow
  have fits : flow.fits = true := by
    have balance := chargeable.balance
    have covered := chargeable.covered
    have positive := chargeable.positive
    rw [fitsDecimal_iff] at balance
    simp only [← entry, AccountFlow.fits, debitImage, fitsDecimal_iff, Bool.and_eq_true,
      decide_eq_true_eq]
    refine ⟨⟨⟨⟨⟨⟨chargeable.accountNo, positive⟩, ?_⟩, ?_⟩, ?_⟩, chargeable.orderNo⟩,
      chargeable.requestId⟩ <;> omega
  have free : shared.committed.hasFlowKey P.collate flow = false := by
    rw [Db.hasFlowKey, List.any_eq_false, ← entry]
    intro row member
    simp [chargeable.unused row member]
  have ran : execute P.collate (.accountInsertFlow flow) shared.counter env
      ((engine P.collate).overlay shared.committed
        [.payment payment, .order paid, .account (debitImage account total)]) =
      insertRow true false .flow shared.counter flow := by
    rw [← fits, ← free]
    rfl
  rw [ran]
  exact rest ⟨shared.counter, flow⟩ _

/-- Step 5 for an account that covers the amount. The account is read, found normal and
solvent, and the guarded UPDATE changes its one row; the flow entry is what follows. -/
theorem debitAccount_achieves {next : Unit → Guarded (Result Json)} {order : Order} {total : Int}
    {account : Row Account} {payment : Row Payment} {paid : Row Order} {locks : List Lock}
    (keys : Schema P.collate shared.committed)
    (chargeable : Chargeable P.collate req order.userId total account shared.committed)
    (rest : ∀ flow more, Guarded.Achieves P False expects post (next ())
      ⟨some shared.committed, [.payment payment, .order paid, .account (debitImage account total),
        .flow flow], more, []⟩ shared.tick.tick) :
    Guarded.Achieves P False expects post (debitAccount req order total >>= next)
      ⟨some shared.committed, [.payment payment, .order paid], locks, []⟩ shared := by
  simp only [debitAccount, bind_assoc]
  refine Guarded.select_achieves ((shared.committed.findAccount order.userId).map (·.val))
    rfl False.elim (fun env => rfl) ?_
  have found : shared.committed.findAccount order.userId = some account := by
    rw [Db.findAccount, ← chargeable.owner]
    exact keys.accountUser.find_eq chargeable.present
  simp only [found, Option.map_some, bind_assoc]
  refine Guarded.write_achieves rfl False.elim fun env _ => ?_
  have selective : ∀ row ∈ shared.committed.accounts,
      deductible P.collate account.val.accountNo total row = true →
        P.collate row.val.accountNo = P.collate account.val.accountNo := by
    intro row _ selected
    simp only [deductible, Bool.and_eq_true, beq_iff_eq] at selected
    exact selected.1.1
  have allowed : (shared.committed.accounts.filter
      (deductible P.collate account.val.accountNo total)).all (fun row =>
        0 ≤ row.val.balanceFen - total && fitsDecimal (row.val.balanceFen - total)) = true := by
    rw [List.all_eq_true]
    intro row member
    obtain ⟨present, selected⟩ := List.mem_filter.mp member
    obtain rfl := keys.accountNo.eq_of_key present chargeable.present (selective row present selected)
    have balance := chargeable.balance
    have covered := chargeable.covered
    have positive := chargeable.positive
    simp only [fitsDecimal_iff, Bool.and_eq_true, decide_eq_true_eq] at balance ⊢
    omega
  have ran : execute P.collate (.accountDeduct account.val.accountNo total) shared.counter env
      ((engine P.collate).overlay shared.committed [.payment payment, .order paid]) =
      .ok (updateRows shared.committed.accounts (deductible P.collate account.val.accountNo total)
        (fun account => { account with balanceFen := account.balanceFen - total }) .account) :=
    if_pos allowed
  rw [ran]
  rcases deducted : updateRows shared.committed.accounts
      (deductible P.collate account.val.accountNo total)
      (fun account => { account with balanceFen := account.balanceFen - total }) .account with
    ⟨affected, changes⟩
  rcases updateRows_unique deducted keys.accountNo selective with
    ⟨rfl, rfl, absent⟩ | ⟨row, present, selected, rfl, rfl⟩
  · have missed := absent account chargeable.present
    simp [deductible, chargeable.normal, chargeable.covered] at missed
  · obtain rfl := keys.accountNo.eq_of_key present chargeable.present (selective row present selected)
    simp only [Nat.one_ne_zero, if_false]
    exact enterFlow_achieves shared.tick keys
      ⟨present, chargeable.owner, chargeable.normal, chargeable.covered, chargeable.positive,
        chargeable.accountNo, chargeable.balance, chargeable.orderNo, chargeable.requestId,
        chargeable.unused⟩ rest

/-- Step 6 for a message that fits. Its id comes from the generator and is free, so the insert
does not clash; the message is the last image before the commit. -/
theorem writeMessage_achieves {next : Unit → Guarded (Result Json)} {order : Order}
    {own : List Change} {locks : List Lock}
    (others : ((engine P.collate).overlay shared.committed own).messages = shared.committed.messages)
    (fits : ∀ env, expects env → ∃ id, env.nextId = some id ∧
      (buildMessage P req order id).fits = true ∧
      shared.committed.hasMessageKey P.collate (buildMessage P req order id) = false)
    (rest : ∀ message more, Guarded.Achieves P False expects post (next ())
      ⟨some shared.committed, own ++ [.message message], more, []⟩ shared.tick) :
    Guarded.Achieves P False expects post (writeMessage P req order >>= next)
      ⟨some shared.committed, own, locks, []⟩ shared := by
  simp only [writeMessage, bind_assoc]
  refine Guarded.nextId_achieves ?_ fun id clock expected => ?_
  · intro clock expected
    obtain ⟨id, missing, -⟩ := fits _ expected
    cases missing
  obtain ⟨same, issued, fitting, free⟩ := fits _ expected
  obtain rfl := Option.some.inj issued
  refine Guarded.write_achieves rfl False.elim fun env _ => ?_
  have ran : execute P.collate (.messageInsert (buildMessage P req order id)) shared.counter env
      ((engine P.collate).overlay shared.committed own) =
      insertRow true false .message shared.counter
        { buildMessage P req order id with
          status := .kPending, retryCount := 0, nextRetryTime := BeijingTime.now env.clock } := by
    rw [← fitting, ← free, Db.hasMessageKey, ← others]
    rfl
  rw [ran]
  exact rest _ _

end Steps

end PaymentService

end TradeReconcile
