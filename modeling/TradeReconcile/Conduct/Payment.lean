import TradeReconcile.Conduct.Guard

/-!
# A callback under interference

The body of `handleCallback` is followed request by request. Between the first
lookup and the end of the transaction the snapshot stands still while the store
moves on; what the call knows of the store is what its locks keep true. One group
of facts belongs to each writing statement, and together they are what settling
the callback in one step requires.
-/

namespace TradeReconcile

open Transactions

namespace PaymentService

/-- The checks before the transaction pass: the channel is the supported one, there is a
secret, and the signature is the one of the request. -/
structure Accepted (P : Platform) (req : PaymentCallbackReq) : Prop where
  channel : req.channel = kSupportedChannel
  secret : P.secret.isEmpty = false
  signed : SignUtil.verifyMockSign P req.orderNo req.channelTradeNo req.amount req.timestamp
    req.sign = true

/-- The request's trade number as the payment table has it. -/
def storedTradeNo (req : PaymentCallbackReq) : String := Varchar.cut 64 req.channelTradeNo

/-- The payment table takes the trade number as it is: no spaces run past its column. -/
def Unpadded (req : PaymentCallbackReq) : Prop := storedTradeNo req = req.channelTradeNo

instance (req : PaymentCallbackReq) : Decidable (Unpadded req) :=
  inferInstanceAs (Decidable (_ = _))

/-- The raw body as the payment table has it. -/
def storedBody (rawBody : String) : String := Varchar.cutBytes (2 ^ 16 - 1) rawBody

/-- The request's order is still pending. -/
structure Marked (P : Platform) (req : PaymentCallbackReq) (order : Row Order) (db : Db) : Prop where
  present : order ∈ db.orders
  named : P.collate order.val.orderNo = P.collate req.orderNo
  pending : order.val.status = .kPendingPayment

/-- Why a callback is refused, in the snapshot and the database it has locked rows
of: no such order, another amount, or a pending order whose account is missing or
cannot pay. -/
inductive Refusal (P : Platform) (req : PaymentCallbackReq) (seen current : Db) : ErrCode → Prop where
  | unknown : seen.findOrder P.collate req.orderNo = none → Refusal P req seen current .kOrderNotFound
  | mismatch {found : Row Order} : seen.findOrder P.collate req.orderNo = some found →
      MoneyUtil.yuanStringToFen req.amount ≠ some found.val.totalAmountFen →
      Refusal P req seen current .kAmountMismatch
  | noAccount {found order : Row Order} : seen.findOrder P.collate req.orderNo = some found →
      Marked P req order current → seen.findAccount found.val.userId = none →
      Refusal P req seen current .kAccountNotFound
  | uncovered {found order : Row Order} {old : Row Account} :
      seen.findOrder P.collate req.orderNo = some found → Marked P req order current →
      seen.findAccount found.val.userId = some old →
      (∀ account ∈ current.accounts,
        deductible P.collate old.val.accountNo found.val.totalAmountFen account = false) →
      Refusal P req seen current .kBalanceNotEnough

/-- How a callback ends: with a fault, a refusal, a replay, or settled. A refusal
because of the trade number or the order's status names the snapshot it was
decided on and the moment at which the store was looked at. -/
inductive CallbackEnd (P : Platform) (D : Discipline Call Db Change Lock Env)
    (req : PaymentCallbackReq) (rawBody : String) :
    Except Exn (Result Json) → List (Db × Db) → Shared Db → Prop where
  | faulted (fault : Fault) (shared : Shared Db) :
      CallbackEnd P D req rawBody (.error (.fault fault)) [] shared
  | refused {seen : Db} {moment shared : Shared Db} {code : ErrCode} {message : String} :
      Watched D (.handleCallback req rawBody) seen moment → D.Inv moment →
      Refusal P req seen moment.committed code →
      CallbackEnd P D req rawBody (.error (.biz code message)) [] shared
  | conflicting {seen : Db} {asked moment shared : Shared Db} {message : String}
      {payment : Payment} {clock : Int} :
      Watched D (.handleCallback req rawBody) seen asked →
      D.Answers (.handleCallback req rawBody) ⟨some seen, [], [], []⟩ asked
        ⟨some payment.paymentNo, clock⟩ →
      Watched D (.handleCallback req rawBody) seen moment →
      payment.channel = req.channel ∧ payment.channelTradeNo = storedTradeNo req →
      moment.committed.hasPaymentKey P.collate payment = true →
      (∀ row, seen.findPayment P.collate req.channel req.channelTradeNo = some row →
        row.val.orderNo ≠ req.orderNo) →
      Evolves moment.committed shared.committed →
      CallbackEnd P D req rawBody (.error (.biz .kChannelTradeConflict message)) [] shared
  | unpayable {seen : Db} {moment shared : Shared Db} {message : String} {row : Row Order} :
      Watched D (.handleCallback req rawBody) seen moment →
      (∀ row ∈ moment.committed.orders, P.collate row.val.orderNo = P.collate req.orderNo →
        row.val.status ≠ .kPendingPayment) →
      seen.findOrder P.collate req.orderNo = some row → row.val.status ≠ .kPaid →
      Evolves moment.committed shared.committed →
      CallbackEnd P D req rawBody (.error (.biz .kOrderStatusInvalid message)) [] shared
  | replayed {shared : Shared Db} :
      ((∃ row ∈ shared.committed.payments, P.collate row.val.channel = P.collate req.channel ∧
          P.collate row.val.channelTradeNo = P.collate req.channelTradeNo ∧
          row.val.orderNo = req.orderNo) ∨
        ∃ row ∈ shared.committed.orders, P.collate row.val.orderNo = P.collate req.orderNo ∧
          row.val.status = .kPaid) →
      CallbackEnd P D req rawBody (.ok (PaymentService.replayed req)) [] shared
  | processed {settlement : Settlement} {before after : Db} {shared : Shared Db} :
      Settled P req rawBody settlement before after → Evolves after shared.committed →
      CallbackEnd P D req rawBody (.ok (PaymentService.processed req)) [(before, after)] shared

section Walk

variable {P : Platform} {D : Discipline Call Db Change Lock Env} {req : PaymentCallbackReq}
  {rawBody : String}

/-- How a callback may end goes on holding while others take turns. -/
theorem callback_ending (trading : Trading P D (.handleCallback req rawBody)) :
    Ending D (.handleCallback req rawBody) (CallbackEnd P D req rawBody) where
  faulted := .faulted
  lasting := by
    intro outcome history session before after moved _ ended
    have evolved := (trading.relies moved).evolves
    cases ended with
    | faulted fault => exact .faulted fault after
    | refused watched holds refusal => exact .refused watched holds refusal
    | conflicting asked number watched same clash other evolves =>
      exact .conflicting asked number watched same clash other (evolves.trans evolved)
    | unpayable watched settled found unpaid evolves =>
      exact .unpayable watched settled found unpaid (evolves.trans evolved)
    | replayed reason =>
      refine .replayed ?_
      rcases reason with ⟨row, member, facts⟩ | ⟨row, member, same, paid⟩
      · exact .inl ⟨row, evolved.payments member, facts⟩
      · obtain ⟨later, present, _, _, fixed⟩ := evolved.orders row member
        obtain rfl := fixed (by simp [paid])
        exact .inr ⟨later, present, same, paid⟩
    | processed settled evolves => exact .processed settled (evolves.trans evolved)

/-- The rest of a callback is safe from this connection and store. -/
abbrev Judged (P : Platform) (D : Discipline Call Db Change Lock Env) (req : PaymentCallbackReq)
    (rawBody : String) (code : Guarded (Result Json)) (session : Connection)
    (shared : Shared Db) : Prop :=
  Guarded.Safe P D (.handleCallback req rawBody) (CallbackEnd P D req rawBody) code false session
    shared

/-- Step 2 fixes the snapshot and finds the order and its total. Number and total do not
change later, the status does. -/
theorem checkOrder_safe (trading : Trading P D (.handleCallback req rawBody)) {next : Order × Int → Guarded (Result Json)}
    {shared : Shared Db}
    (rest : ∀ (now : Shared Db) (row : Row Order), D.Inv now → row ∈ now.committed.orders →
      P.collate row.val.orderNo = P.collate req.orderNo →
      MoneyUtil.yuanStringToFen req.amount = some row.val.totalAmountFen →
      Judged P D req rawBody (next (row.val, row.val.totalAmountFen))
        ⟨some now.committed, [], [], []⟩ now) :
    Judged P D req rawBody (checkOrder req >>= next) .idle shared := by
  have ending : Ending D (.handleCallback req rawBody) _ := callback_ending trading
  rw [checkOrder, bind_assoc]
  apply Guarded.select_safe ending rfl rfl
  intro now env reply changes moved holds ran
  obtain rfl : (now.committed.findOrder P.collate req.orderNo).map (·.val) = reply :=
    congrArg Prod.fst (Except.ok.inj ran)
  cases found : now.committed.findOrder P.collate req.orderNo with
  | none => exact Guarded.raise_safe ending (.refused (.fixed rfl) holds (.unknown found))
  | some row =>
    have member : row ∈ now.committed.orders := List.mem_of_find?_eq_some found
    have named : P.collate row.val.orderNo = P.collate req.orderNo := by
      simpa using List.find?_some found
    simp only [Option.map_some]
    split
    · rename_i unparsed
      exact Guarded.raise_safe ending
        (.refused (.fixed rfl) holds (.mismatch found (by simp [unparsed])))
    · rename_i amountFen parsed
      split
      · rename_i different
        exact Guarded.raise_safe ending
          (.refused (.fixed rfl) holds (.mismatch found (by simpa [parsed] using different)))
      · rename_i matching
        obtain rfl : amountFen = row.val.totalAmountFen := not_not.mp matching
        exact rest now row holds member named parsed

/-- The payment row is claimed: its number and its keys are still unused. The trade number is
the one that the column stores, which need not be the one that was sent. -/
structure Recorded (P : Platform) (req : PaymentCallbackReq) (rawBody : String) (total : Int)
    (payment : Row Payment) (shared : Shared Db) : Prop where
  made : ∃ paymentNo callbackTime, BeijingTime.epochToBeijing req.timestamp = some callbackTime ∧
    payment.val = (buildPayment req rawBody paymentNo callbackTime total).stored
  reserved : Reserved payment.id shared
  free : shared.committed.hasPaymentKey P.collate payment.val = false

/-- The row and the keys of an inserted payment. -/
def paymentLocks (collate : String → String) (payment : Row Payment) : List Lock :=
  [.rowNumber payment.id, .paymentNo (collate payment.val.paymentNo),
    .channelTrade (collate payment.val.channel) (collate payment.val.channelTradeNo)]

/-- The recorded payment stays recorded and its keys its own, since they are locked. -/
theorem Recorded.kept {total : Int} {payment : Row Payment} {session : Connection}
    {before after : Shared Db} (recorded : Recorded P req rawBody total payment before)
    (moved : Relies P.collate session before after)
    (held : paymentLocks P.collate payment ⊆ session.locks) :
    Recorded P req rawBody total payment after where
  made := recorded.made
  reserved := recorded.reserved.kept moved (held (by simp [paymentLocks]))
  free := paymentKey_kept moved (held (by simp [paymentLocks])) (held (by simp [paymentLocks]))
    recorded.free

/-- Step 3 claims the trade number, answers a replay or finds a conflict. The lookup after a
duplicate reads the snapshot and not what the insert has met. -/
theorem recordPayment_safe (trading : Trading P D (.handleCallback req rawBody))
    {next : Option (Result Json) → Guarded (Result Json)} {seen : Db} {total : Int}
    {shared : Shared Db} (answered : ∀ reply, next (some reply) = pure reply)
    (watched : Watched D (.handleCallback req rawBody) seen shared)
    (rest : ∀ (now : Shared Db) (payment : Row Payment), D.Inv now →
      Watched D (.handleCallback req rawBody) seen now →
      Recorded P req rawBody total payment now →
      Judged P D req rawBody (next none)
        ⟨some seen, [.payment payment], paymentLocks P.collate payment, []⟩ now) :
    Judged P D req rawBody (recordPayment req rawBody total >>= next)
      ⟨some seen, [], [], []⟩ shared := by
  have ending : Ending D (.handleCallback req rawBody) _ := callback_ending trading
  simp only [recordPayment, bind_assoc]
  refine Guarded.nextId_safe ending rfl fun first paymentNo moved _ expected => ?_
  obtain ⟨clock, number⟩ := expected
  replace watched := Watched.moved watched rfl moved
  refine Guarded.orThrow_safe ending rfl fun callbackTime rendered => ?_
  apply Guarded.write_safe ending rfl rfl
  intro now env affected changes moved holds ran
  have ticked := watched.ticked rfl moved holds
  obtain ⟨-, ⟨clash, rfl, rfl⟩ | ⟨free, rfl, rfl⟩⟩ := insertOrKeep_ok ran
  · -- The key is taken: the answer is decided on the snapshot.
    simp only [Nat.zero_ne_one, if_false, bind_assoc]
    apply Guarded.select_safe ending rfl rfl
    intro later env reply changes further steady ran
    have kept := (trading.relies further).evolves
    obtain rfl : (seen.findPayment P.collate req.channel req.channelTradeNo).map (·.val) = reply :=
      congrArg Prod.fst (Except.ok.inj ran)
    cases found : seen.findPayment P.collate req.channel req.channelTradeNo with
    | none =>
      exact Guarded.raise_safe ending
        (.conflicting watched number ticked ⟨rfl, rfl⟩ clash (by simp [found]) kept)
    | some row =>
      simp only [Option.map_some]
      split
      · rename_i same
        rw [pure_bind, answered]
        refine Guarded.return_safe ending (.replayed (.inl ⟨row, ?_, ?_⟩))
        · exact kept.payments ((ticked.evolves trading).payments (List.mem_of_find?_eq_some found))
        · have selected := List.find?_some found
          simp only [Bool.and_eq_true, beq_iff_eq] at selected
          exact ⟨selected.1, selected.2, same⟩
      · rename_i other
        refine Guarded.raise_safe ending (.conflicting watched number ticked ⟨rfl, rfl⟩ clash ?_ kept)
        intro stored also
        obtain rfl : row = stored := Option.some.inj (found.symm.trans also)
        exact other
  · simp only [if_true, pure_bind]
    have formed := trading.formed holds
    exact rest now.tick ⟨now.counter, _⟩ (D.tick (.handleCallback req rawBody) .idle now holds).1
      ticked ⟨⟨paymentNo, callbackTime, rendered, rfl⟩, formed.reserved, free⟩

/-- The lock on the order's row keeps it pending. -/
theorem Marked.kept {order : Row Order} {session : Connection} {before after : Shared Db}
    (marked : Marked P req order before.committed) (moved : Relies P.collate session before after)
    (held : .orderNo (P.collate order.val.orderNo) ∈ session.locks) :
    Marked P req order after.committed where
  present := order_kept moved held marked.present
  named := marked.named
  pending := marked.pending

/-- The image that `markPaid` writes. -/
def paidImage (order : Row Order) (paidAt : String) : Row Order :=
  ⟨order.id, { order.val with status := .kPaid, paidAt := paidAt }⟩

/-- Step 4 marks the pending order, answers a replay or refuses. The re-read after an update
of no row sees the snapshot. -/
theorem settleOrder_safe (trading : Trading P D (.handleCallback req rawBody))
    {next : Option (Result Json) → Guarded (Result Json)} {seen : Db} {payment : Row Payment}
    {found : Row Order} {shared : Shared Db}
    (answered : ∀ reply, next (some reply) = pure reply)
    (watched : Watched D (.handleCallback req rawBody) seen shared)
    (matched : seen.findOrder P.collate req.orderNo = some found)
    (rest : ∀ (now : Shared Db) (order : Row Order) (paidAt : String), D.Inv now →
      Watched D (.handleCallback req rawBody) seen now →
      Relies P.collate ⟨some seen, [.payment payment], paymentLocks P.collate payment, []⟩
        shared now →
      Marked P req order now.committed →
      Judged P D req rawBody (next none)
        ⟨some seen, [.payment payment, .order (paidImage order paidAt)],
          paymentLocks P.collate payment ++ [.orderNo (P.collate order.val.orderNo)], []⟩ now) :
    Judged P D req rawBody (settleOrder req >>= next)
      ⟨some seen, [.payment payment], paymentLocks P.collate payment, []⟩ shared := by
  have ending : Ending D (.handleCallback req rawBody) _ := callback_ending trading
  simp only [settleOrder, bind_assoc]
  apply Guarded.write_safe ending rfl rfl
  intro now env affected changes moved holds ran
  have ticked := watched.ticked rfl moved holds
  have formed := trading.formed holds
  rcases updateRows_unique (Except.ok.inj ran) formed.schema.orderNo
    (by
      intro row _ selected
      simp only [Bool.and_eq_true, beq_iff_eq] at selected
      exact selected.1) with ⟨rfl, rfl, absent⟩ | ⟨order, present, selected, rfl, rfl⟩
  · -- Somebody else was first: the answer is decided on the snapshot.
    simp only [ne_eq, not_true_eq_false, if_false, bind_assoc]
    apply Guarded.select_safe ending rfl rfl
    intro later env reply changes further steady ran
    have kept := (trading.relies further).evolves
    obtain rfl : (seen.findOrder P.collate req.orderNo).map (·.val) = reply :=
      congrArg Prod.fst (Except.ok.inj ran)
    simp only [matched, Option.map_some]
    split
    · rename_i paid
      rw [pure_bind, answered]
      refine Guarded.return_safe ending (.replayed (.inr ?_))
      have member : found ∈ seen.orders := List.mem_of_find?_eq_some matched
      have named : P.collate found.val.orderNo = P.collate req.orderNo := by
        simpa using List.find?_some matched
      obtain ⟨now', present, _, _, fixed⟩ :=
        ((ticked.evolves trading).trans kept).orders found member
      obtain rfl := fixed (by simp [paid])
      exact ⟨now', present, named, paid⟩
    · rename_i unpaid
      refine Guarded.raise_safe ending (.unpayable ticked ?_ matched unpaid kept)
      intro row member same pending
      simpa [same, pending] using absent row member
  · simp only [Bool.and_eq_true, beq_iff_eq] at selected
    simp only [ne_eq, Nat.one_ne_zero, not_false_eq_true, if_true, pure_bind]
    have locks : statementLocks P.collate (.orderMarkPaid req.orderNo) now.counter
        ((engine P.collate).overlay now.committed [.payment payment]) =
        [.orderNo (P.collate order.val.orderNo)] := by rw [selected.1]; rfl
    rw [locks]
    exact rest now.tick order (BeijingTime.now env.clock)
      (D.tick (.handleCallback req rawBody) .idle now holds).1 ticked (trading.relies moved).ticked
      ⟨present, selected.1, selected.2⟩

/-- The account row is locked and covers the amount. It is the row as last committed, which
may be newer than the one the callback has read. -/
structure Covered (userId : Nat) (total : Int) (account : Row Account) (shared : Shared Db) :
    Prop where
  present : account ∈ shared.committed.accounts
  owner : account.val.userId = userId
  normal : account.val.status = 0
  covered : total ≤ account.val.balanceFen

/-- The account stays covered while it is locked. -/
theorem Covered.kept {collate : String → String} {userId : Nat} {total : Int}
    {account : Row Account} {session : Connection} {before after : Shared Db}
    (covered : Covered userId total account before) (moved : Relies collate session before after)
    (held : .accountNo (collate account.val.accountNo) ∈ session.locks) :
    Covered userId total account after where
  present := account_kept moved held covered.present
  owner := covered.owner
  normal := covered.normal
  covered := covered.covered

/-- The flow entry is claimed and comes after every other entry of the account. -/
structure Entered (collate : String → String) (req : PaymentCallbackReq) (total : Int)
    (account : Row Account) (flow : Row AccountFlow) (shared : Shared Db) : Prop where
  made : flow.val =
    { accountNo := account.val.accountNo
      bizType := .kPayment
      direction := .kOut
      amountFen := total
      beforeFen := account.val.balanceFen
      afterFen := account.val.balanceFen - total
      orderNo := req.orderNo
      requestId := req.requestId }
  positive : 0 < total
  reserved : Reserved flow.id shared
  free : shared.committed.hasFlowKey collate flow.val = false
  latest : ∀ row ∈ shared.committed.flows,
    collate row.val.accountNo = collate account.val.accountNo → row.id < flow.id

/-- The account and the flow entry's row and key. -/
def debitLocks (collate : String → String) (account : Row Account) (flow : Row AccountFlow) :
    List Lock :=
  [.accountNo (collate account.val.accountNo), .rowNumber flow.id,
    .flowRequest (collate flow.val.requestId) flow.val.bizType]

/-- The entered flow stays the account's last one, since the account is locked. -/
theorem Entered.kept {collate : String → String} {total : Int} {account : Row Account}
    {flow : Row AccountFlow} {session : Connection} {before after : Shared Db}
    (entered : Entered collate req total account flow before)
    (moved : Relies collate session before after)
    (held : debitLocks collate account flow ⊆ session.locks) :
    Entered collate req total account flow after where
  made := entered.made
  positive := entered.positive
  reserved := entered.reserved.kept moved (held (by simp [debitLocks]))
  free := flowKey_kept moved (held (by simp [debitLocks])) entered.free
  latest := accountFlows_kept moved (held (by simp [debitLocks])) entered.latest

/-- The image that the deduction writes. -/
def debitImage (account : Row Account) (total : Int) : Row Account :=
  ⟨account.id, { account.val with balanceFen := account.val.balanceFen - total }⟩

/-- A row of the snapshot and a locked row with the same account number are
versions of one row. -/
theorem account_version {collate : String → String} {seen : Db} {shared : Shared Db}
    (formed : WellFormed collate shared) (evolved : Evolves seen shared.committed)
    {old account : Row Account} (first : old ∈ seen.accounts)
    (present : account ∈ shared.committed.accounts)
    (same : collate account.val.accountNo = collate old.val.accountNo) :
    account.id = old.id ∧ account.val.accountNo = old.val.accountNo ∧
      account.val.userId = old.val.userId := by
  obtain ⟨later, member, sameId, version⟩ := evolved.accounts old first
  have number : later.val.accountNo = old.val.accountNo := by rw [version]
  obtain rfl : later = account :=
    formed.schema.accountNo.eq_of_key member present (by rw [number, same])
  exact ⟨sameId, number, by rw [version]⟩

/-- Re-reading the account after the deduction finds the session's own image. -/
theorem reread_image {seen : Db} (ids : UniqueIds seen.accounts)
    (users : UniqueKey Account.userId seen.accounts) {old image : Row Account}
    (present : old ∈ seen.accounts) (sameId : image.id = old.id)
    (sameUser : image.val.userId = old.val.userId) :
    (putRow seen.accounts image).find? (fun row => row.val.userId == old.val.userId) =
      some image := by
  have replaced := putRow_replaced ids present sameId
  rw [← sameUser]
  exact (replaced.key sameUser.symm users).find_eq replaced.new_mem

/-- The re-read sees the deduction, so the entry's balances are the ones around it. Other
calls may have committed since the snapshot, but not to this account, whose lock the deduction
has taken. -/
theorem enterFlow_safe (trading : Trading P D (.handleCallback req rawBody)) {next : Unit → Guarded (Result Json)} {seen : Db}
    {payment : Row Payment} {paid : Row Order} {order : Order} {total : Int} {locks : List Lock}
    {old account : Row Account} {shared : Shared Db} (keys : Schema P.collate seen)
    (oldPresent : old ∈ seen.accounts) (oldUser : old.val.userId = order.userId)
    (sameId : account.id = old.id) (sameNo : account.val.accountNo = old.val.accountNo)
    (sameUser : account.val.userId = old.val.userId)
    (rest : ∀ (now : Shared Db) (flow : Row AccountFlow), D.Inv now →
      Relies P.collate ⟨some seen, [.payment payment, .order paid,
        .account (debitImage account total)],
        locks ++ [.accountNo (P.collate account.val.accountNo)], []⟩ shared now →
      Entered P.collate req total account flow now →
      Judged P D req rawBody (next ())
        ⟨some seen, [.payment payment, .order paid, .account (debitImage account total), .flow flow],
          locks ++ debitLocks P.collate account flow, []⟩ now) :
    Judged P D req rawBody (enterFlow req order old.val total >>= next)
      ⟨some seen, [.payment payment, .order paid, .account (debitImage account total)],
        locks ++ [.accountNo (P.collate account.val.accountNo)], []⟩ shared := by
  have ending : Ending D (.handleCallback req rawBody) _ := callback_ending trading
  simp only [enterFlow, bind_assoc]
  apply Guarded.select_safe ending rfl rfl
  intro first env reply changes moved holds ran
  have entry := trading.relies moved
  have reread : (putRow seen.accounts (debitImage account total)).find?
      (fun row => row.val.userId == order.userId) = some (debitImage account total) := by
    rw [← oldUser]
    exact reread_image keys.accountIds keys.accountUser oldPresent sameId sameUser
  have read : ((putRow seen.accounts (debitImage account total)).find?
      (fun row => row.val.userId == order.userId)).map (·.val) = reply :=
    congrArg Prod.fst (Except.ok.inj ran)
  rw [reread] at read
  obtain rfl := read
  apply Guarded.orThrow_safe ending rfl
  rintro after ⟨⟩
  apply Guarded.write_safe ending rfl rfl
  intro now env affected changes moved holds ran
  have formed := trading.formed holds
  obtain ⟨fits, free, rfl, rfl⟩ := insertRow_ok ran
  simp only [AccountFlow.fits, Bool.and_eq_true, decide_eq_true_eq] at fits
  have entered : Entered P.collate req total account ⟨now.counter, _⟩ now.tick :=
    ⟨by simp [debitImage, sameNo], fits.1.1.1.1.1.2, formed.reserved, free,
      fun row member _ => formed.numbered.flows row member⟩
  have listed : ∀ flow : Row AccountFlow,
      locks ++ [Lock.accountNo (P.collate account.val.accountNo)] ++
        [.rowNumber flow.id, .flowRequest (P.collate flow.val.requestId) flow.val.bizType] =
      locks ++ debitLocks P.collate account flow := by
    intro flow
    simp [debitLocks]
  have next := rest now.tick ⟨now.counter, _⟩ (D.tick (.handleCallback req rawBody) .idle now holds).1
    (entry.trans (trading.relies moved)).ticked entered
  rw [← listed] at next
  exact next

/-- Step 5 deducts the amount and enters it with the balances around it. The UPDATE acts on
the latest committed row, which may be newer than the one of the snapshot; what it has covered
is therefore taken from the row it changed. -/
theorem debitAccount_safe (trading : Trading P D (.handleCallback req rawBody)) {next : Unit → Guarded (Result Json)} {seen : Db}
    {payment : Row Payment} {paid found marked : Row Order} {locks : List Lock}
    {shared : Shared Db} (keys : Schema P.collate seen)
    (watched : Watched D (.handleCallback req rawBody) seen shared)
    (matched : seen.findOrder P.collate req.orderNo = some found)
    (pending : Marked P req marked shared.committed)
    (held : .orderNo (P.collate marked.val.orderNo) ∈ locks)
    (rest : ∀ (now : Shared Db) (account : Row Account) (flow : Row AccountFlow), D.Inv now →
      Relies P.collate ⟨some seen, [.payment payment, .order paid], locks, []⟩ shared now →
      Covered found.val.userId found.val.totalAmountFen account now →
      Entered P.collate req found.val.totalAmountFen account flow now →
      Judged P D req rawBody (next ())
        ⟨some seen, [.payment payment, .order paid,
            .account (debitImage account found.val.totalAmountFen), .flow flow],
          locks ++ debitLocks P.collate account flow, []⟩ now) :
    Judged P D req rawBody (debitAccount req found.val found.val.totalAmountFen >>= next)
      ⟨some seen, [.payment payment, .order paid], locks, []⟩ shared := by
  have ending : Ending D (.handleCallback req rawBody) _ := callback_ending trading
  simp only [debitAccount, bind_assoc]
  apply Guarded.select_safe ending rfl rfl
  intro first env reply changes moved holds ran
  have entry := trading.relies moved
  replace watched := Watched.moved watched rfl moved
  replace pending := pending.kept entry held
  obtain rfl : (seen.findAccount found.val.userId).map (·.val) = reply :=
    congrArg Prod.fst (Except.ok.inj ran)
  cases owned : seen.findAccount found.val.userId with
  | none =>
    exact Guarded.raise_safe ending (.refused watched holds (.noAccount matched pending owned))
  | some old =>
    have oldPresent : old ∈ seen.accounts := List.mem_of_find?_eq_some owned
    have oldUser : old.val.userId = found.val.userId := by simpa using List.find?_some owned
    simp only [Option.map_some, bind_assoc]
    apply Guarded.write_safe ending rfl rfl
    intro now env affected changes moved holds ran
    have formed := trading.formed holds
    replace entry := (entry.trans (trading.relies moved)).ticked
    replace watched := watched.ticked rfl moved holds
    replace pending := pending.kept (trading.relies moved) held
    simp only [execute] at ran
    split at ran
    case isFalse => simp at ran
    rcases updateRows_unique (Except.ok.inj ran) formed.schema.accountNo
      (by
        intro row _ selected
        simp only [deductible, Bool.and_eq_true, beq_iff_eq] at selected
        exact selected.1.1) with ⟨rfl, rfl, absent⟩ | ⟨account, present, selected, rfl, rfl⟩
    · have steady := (D.tick (.handleCallback req rawBody) .idle now holds).1
      exact Guarded.raise_safe ending
        (.refused watched steady (.uncovered matched pending owned absent))
    · simp only [deductible, Bool.and_eq_true, beq_iff_eq, decide_eq_true_eq] at selected
      obtain ⟨⟨sameKey, normal⟩, enough⟩ := selected
      obtain ⟨sameId, sameNo, sameUser⟩ := account_version formed.tick (watched.evolves trading)
        oldPresent present sameKey
      have covered : Covered found.val.userId found.val.totalAmountFen account now.tick :=
        ⟨present, sameUser.trans oldUser, normal, enough⟩
      have locked : statementLocks P.collate (.accountDeduct old.val.accountNo found.val.totalAmountFen) now.counter
          ((engine P.collate).overlay now.committed [.payment payment, .order paid]) =
          [.accountNo (P.collate account.val.accountNo)] := by rw [sameKey]; rfl
      rw [if_neg (by simp), locked]
      apply enterFlow_safe trading keys oldPresent oldUser sameId sameNo sameUser
      intro later flow steady kept entered
      exact rest later account flow steady (entry.trans (kept.weaken (by simp)))
        (covered.kept kept (by simp)) entered

/-- The outbox row is claimed, under a message id that no other row has. -/
structure Announced (P : Platform) (req : PaymentCallbackReq) (order : Order)
    (message : Row LocalMessage) (shared : Shared Db) : Prop where
  made : ∃ messageId nextRetryTime, message.val =
    { buildMessage P req order messageId with nextRetryTime := nextRetryTime }
  reserved : Reserved message.id shared
  free : shared.committed.hasMessageKey P.collate message.val = false

/-- The announced message keeps its id to itself. -/
theorem Announced.kept {order : Order} {message : Row LocalMessage} {session : Connection}
    {before after : Shared Db} (announced : Announced P req order message before)
    (moved : Relies P.collate session before after) (number : .rowNumber message.id ∈ session.locks)
    (held : .messageId (P.collate message.val.messageId) ∈ session.locks) :
    Announced P req order message after where
  made := announced.made
  reserved := announced.reserved.kept moved number
  free := messageKey_kept moved held announced.free

/-- The pending images of a complete callback. -/
def images (settlement : Settlement) : List Change :=
  [.payment settlement.payment, .order settlement.paidOrder, .account settlement.debited,
    .flow settlement.flow, .message settlement.message]

/-- What the five writing statements have established settles the callback. Each of them left
one group of facts, which the locks have kept since; the images that are published write just
these rows. -/
theorem settled_images {settlement : Settlement} {shared : Shared Db}
    (formed : WellFormed P.collate shared)
    (recorded : Recorded P req rawBody settlement.order.val.totalAmountFen settlement.payment shared)
    (marked : Marked P req settlement.order shared.committed)
    (covered : Covered settlement.order.val.userId settlement.order.val.totalAmountFen
      settlement.account shared)
    (entered : Entered P.collate req settlement.order.val.totalAmountFen settlement.account
      settlement.flow shared)
    (announced : Announced P req settlement.order.val settlement.message shared)
    (amount : MoneyUtil.yuanStringToFen req.amount = some settlement.order.val.totalAmountFen) :
    Settled P req rawBody settlement shared.committed
      ((engine P.collate).overlay shared.committed (images settlement)) where
  orderPresent := marked.present
  named := marked.named
  pending := marked.pending
  amount := amount
  positive := entered.positive
  accountPresent := covered.present
  owner := covered.owner
  normal := covered.normal
  covered := covered.covered
  payment := recorded.made
  flow := entered.made
  message := announced.made
  paymentUnused := recorded.reserved.unused
  flowUnused := entered.reserved.unused
  messageUnused := announced.reserved.unused
  paymentFree := recorded.free
  flowFree := entered.free
  messageFree := announced.free
  latest := entered.latest
  orders := putRow_replaced formed.schema.orderIds marked.present rfl
  accounts := putRow_replaced formed.schema.accountIds covered.present rfl
  payments := putRow_new recorded.reserved.unused.payments
  flows := putRow_new entered.reserved.unused.flows
  messages := putRow_new announced.reserved.unused.messages
  products := rfl
  idempotents := rfl
  batches := rfl
  diffs := rfl

/-- Step 6 and the commit, when everything else is in place: the publication is the whole
settlement. -/
theorem writeMessage_safe (trading : Trading P D (.handleCallback req rawBody)) {seen : Db} {row : Row Order}
    {account : Row Account} {payment : Row Payment} {flow : Row AccountFlow} {paidAt : String}
    {order : Order} {shared : Shared Db}
    (same : ∀ messageId, buildMessage P req order messageId = buildMessage P req row.val messageId)
    (recorded : Recorded P req rawBody row.val.totalAmountFen payment shared)
    (marked : Marked P req row shared.committed)
    (covered : Covered row.val.userId row.val.totalAmountFen account shared)
    (entered : Entered P.collate req row.val.totalAmountFen account flow shared)
    (amount : MoneyUtil.yuanStringToFen req.amount = some row.val.totalAmountFen) :
    Judged P D req rawBody
      (writeMessage P req order >>= fun _ => Guarded.commit >>= fun _ => pure (processed req))
      ⟨some seen, [.payment payment, .order (paidImage row paidAt),
          .account (debitImage account row.val.totalAmountFen), .flow flow],
        paymentLocks P.collate payment ++ [.orderNo (P.collate row.val.orderNo)] ++
          debitLocks P.collate account flow, []⟩ shared := by
  have ending : Ending D (.handleCallback req rawBody) _ := callback_ending trading
  simp only [writeMessage, bind_assoc]
  refine Guarded.nextId_safe ending rfl fun first messageId moved _ _ => ?_
  have entry := trading.relies moved
  apply Guarded.write_safe ending rfl rfl
  intro now env affected changes moved holds ran
  have formed := trading.formed holds
  replace entry := (entry.trans (trading.relies moved)).ticked
  obtain ⟨fits, free, rfl, rfl⟩ := insertRow_ok ran
  rw [same] at free ⊢
  let full : Settlement :=
    { order := row
      account := account
      payment := payment
      flow := flow
      message := ⟨now.counter, { buildMessage P req row.val messageId with
        nextRetryTime := BeijingTime.now env.clock }⟩
      paidAt := paidAt }
  have announced : Announced P req full.order.val full.message now.tick :=
    ⟨⟨messageId, _, rfl⟩, formed.reserved, free⟩
  have ready : ∀ (last : Shared Db), D.Inv last →
      Relies P.collate ⟨some seen, images full, full.locks P.collate, []⟩ now.tick last →
      Settled P req rawBody full last.committed
        ((engine P.collate).overlay last.committed (images full)) ∧
      Reserved full.payment.id last ∧ Reserved full.flow.id last ∧ Reserved full.message.id last := by
    intro last steady kept
    have early : paymentLocks P.collate payment ++ [.orderNo (P.collate row.val.orderNo)] ++
        debitLocks P.collate account flow ⊆ full.locks P.collate := by
      simp [full, paymentLocks, debitLocks, Settlement.locks]
    have all := entry.trans (kept.weaken early)
    have recordedNow := recorded.kept all (by simp [paymentLocks])
    have enteredNow := entered.kept all (by simp [debitLocks])
    have announcedNow := announced.kept kept (by simp [Settlement.locks]) (by simp [Settlement.locks])
    exact ⟨settled_images (trading.formed steady) recordedNow (marked.kept all (by simp))
      (covered.kept all (by simp [debitLocks])) enteredNow announcedNow amount,
      recordedNow.reserved, enteredNow.reserved, announcedNow.reserved⟩
  change Judged P D req rawBody (Guarded.commit >>= fun _ => pure (processed req))
    ⟨some seen, images full, full.locks P.collate, []⟩ now.tick
  apply Guarded.commit_safe trading ending rfl (by simp [images])
  intro last moved steady
  obtain ⟨settled, payment, flow, message⟩ := ready last steady (trading.relies moved)
  exact ⟨.settled settled, .of_other (by simp), ⟨settled.schema (trading.formed steady).schema,
    settled.rowNumbers (trading.formed steady).numbered payment.issued flow.issued message.issued⟩,
    settled.evolves, fun lock free => settled.agree free, .processed settled (Evolves.refl _)⟩

/-- The order found in the snapshot and the row that is marked later are versions
of one row. -/
theorem order_version {collate : String → String} {seen : Db} {shared : Shared Db}
    (formed : WellFormed collate shared) (evolved : Evolves seen shared.committed)
    {found order : Row Order} (first : found ∈ seen.orders)
    (present : order ∈ shared.committed.orders)
    (same : collate order.val.orderNo = collate found.val.orderNo) :
    order.val.orderNo = found.val.orderNo ∧ order.val.userId = found.val.userId ∧
      order.val.totalAmountFen = found.val.totalAmountFen := by
  obtain ⟨later, member, _, version, _⟩ := evolved.orders found first
  have number : later.val.orderNo = found.val.orderNo := by rw [version]
  obtain rfl : later = order :=
    formed.schema.orderNo.eq_of_key member present (by rw [number, same])
  exact ⟨number, by rw [version], by rw [version]⟩

/-- The whole body of a callback. -/
theorem handleCallbackBody_safe (trading : Trading P D (.handleCallback req rawBody)) (shared : Shared Db) :
    Judged P D req rawBody (handleCallbackBody P req rawBody) .idle shared := by
  refine checkOrder_safe trading fun first found holds foundPresent foundNamed amount => ?_
  have keys := (trading.formed holds).schema
  have matched : first.committed.findOrder P.collate req.orderNo = some found := by
    rw [Db.findOrder, ← foundNamed]
    exact keys.orderNo.find_eq foundPresent
  apply recordPayment_safe trading (fun _ => rfl) (.fixed rfl)
  intro second payment holds watched recorded
  apply settleOrder_safe trading (fun _ => rfl) watched matched
  intro third order paidAt holds watched moved marked
  replace recorded := recorded.kept moved (List.Subset.refl _)
  obtain ⟨sameNo, sameUser, sameTotal⟩ := order_version (trading.formed holds)
    (watched.evolves trading) foundPresent marked.present (marked.named.trans foundNamed.symm)
  apply debitAccount_safe trading keys watched matched marked (by simp)
  intro last account flow holds moved covered entered
  rw [← sameTotal] at recorded covered entered amount ⊢
  rw [← sameUser] at covered
  exact writeMessage_safe trading (fun _ => by simp [buildMessage, messagePayload, sameNo, sameUser, sameTotal])
    (recorded.kept moved (by simp)) (marked.kept moved (by simp)) covered entered amount

end Walk

end PaymentService

end TradeReconcile
