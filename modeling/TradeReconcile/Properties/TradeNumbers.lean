import TradeReconcile.Properties.Payability
import TradeReconcile.Properties.Reconciliation

/-!
# When two trade numbers are one

The payment table compares trade numbers under the collation of its column, the
reconciliation compares them as they are. Two callbacks with different trade
numbers for two orders are therefore both paid only if the numbers also differ
under the collation. Otherwise the second one is refused with the claim that its
number belongs to another order.
-/

namespace TradeReconcile

open Transactions PaymentService

/-- The channel reports a pending order as paid; its trade number may be in use, which is what
the condition decides. -/
structure Billed (P : Platform) (req : PaymentCallbackReq) (row : Row Order) (db : Db) : Prop where
  present : row ∈ db.orders
  pending : row.val.status = .kPendingPayment
  accepted : Accepted P req
  orderNo : req.orderNo = row.val.orderNo
  amount : req.amount = MoneyUtil.fenToYuanString row.val.totalAmountFen
  timestamp : ∃ seconds, BeijingTime.stoll req.timestamp = some seconds ∧
    BeijingTime.daysFromCivil 2024 1 1 * 86400 - BeijingTime.kOffsetSeconds ≤ seconds ∧
    seconds < BeijingTime.daysFromCivil 2100 1 1 * 86400
  request : ∀ flow ∈ db.flows, P.collate flow.val.requestId ≠ P.collate req.requestId
  requestId : req.requestId.length ≤ 64

/-- No payment of the channel has the trade number, as the database stores and
compares it. -/
def Unused (P : Platform) (req : PaymentCallbackReq) (db : Db) : Prop :=
  ∀ row ∈ db.payments, P.collate row.val.channel = P.collate req.channel →
    P.collate row.val.channelTradeNo ≠ P.collate (storedTradeNo req)

/-- Accounts that cover both orders, together if they belong to one user. They are normal, and
it is said of the store before the first callback. -/
structure Solvent (one two : Order) (db : Db) : Prop where
  first : ∃ account ∈ db.accounts, account.val.userId = one.userId ∧ account.val.status = 0 ∧
    one.totalAmountFen ≤ account.val.balanceFen ∧
    (one.userId = two.userId → one.totalAmountFen + two.totalAmountFen ≤ account.val.balanceFen)
  second : ∃ account ∈ db.accounts, account.val.userId = two.userId ∧ account.val.status = 0 ∧
    two.totalAmountFen ≤ account.val.balanceFen

/-- Alone and without faults, on these answers of the environment, the callback pays its order
and leaves this store. -/
def PaysTo (P : Platform) (envs : Nat → Env) (req : PaymentCallbackReq) (rawBody : String)
    (row : Row Order) (now last : Shared Db) : Prop :=
  ∃ steps reply,
    aloneRun P ((List.range steps).map fun index => .ok (envs index))
      (.handleCallback req rawBody) now = some (.reply reply, last) ∧
    reply.code = ErrCode.kSuccess.toInt ∧
    ∃ paid ∈ last.committed.orders, paid.id = row.id ∧ paid.val.status = .kPaid

/-- A callback pays exactly if it pays with some outcome. -/
theorem pays_iff {P : Platform} {envs : Nat → Env} {req : PaymentCallbackReq} {rawBody : String}
    {row : Row Order} {now : Shared Db} :
    Pays P envs req rawBody row now ↔ ∃ last, PaysTo P envs req rawBody row now last := by
  constructor
  · rintro ⟨steps, reply, last, ran, success, paid⟩
    exact ⟨last, steps, reply, ran, success, paid⟩
  · rintro ⟨last, steps, reply, ran, success, paid⟩
    exact ⟨steps, reply, last, ran, success, paid⟩

section Determined

variable {P : Platform}

/-- A stream of answers carries a call to one end. -/
theorem aloneRun_determined {envs : Nat → Env} {call : Call} {now : Shared Db} {count more : Nat}
    {one two : Answer × Shared Db}
    (first : aloneRun P ((List.range count).map fun index => .ok (envs index)) call now = some one)
    (second : aloneRun P ((List.range (count + more)).map fun index => .ok (envs index)) call now =
      some two) : one = two := by
  obtain ⟨⟨program, session, last⟩, ran, ended⟩ := Option.bind_eq_some_iff.mp first
  cases program with
  | done answer =>
    rw [List.range_add, List.map_append, aloneRun, soloRun_append, ran, Option.bind_some] at second
    obtain ⟨⟨other, after, later⟩, rest, finished⟩ := Option.bind_eq_some_iff.mp second
    have none := soloRun_done rest
    rw [none] at rest
    cases rest
    exact Option.some.inj (ended.symm.trans finished)
  | ask | start | statement | commit | rollback | release => cases ended

/-- The store that a paying callback leaves is determined. -/
theorem PaysTo.eq_of_run {envs : Nat → Env} {req : PaymentCallbackReq} {rawBody : String}
    {row : Row Order} {now last : Shared Db} {count : Nat} {ended : Answer × Shared Db}
    (pays : PaysTo P envs req rawBody row now last)
    (ran : aloneRun P ((List.range count).map fun index => .ok (envs index))
      (.handleCallback req rawBody) now = some ended) : last = ended.2 := by
  obtain ⟨steps, reply, carried, -⟩ := pays
  obtain ⟨more, rfl⟩ | ⟨more, rfl⟩ := (Nat.le_total steps count).imp Nat.exists_eq_add_of_le
    Nat.exists_eq_add_of_le
  · rw [← aloneRun_determined carried ran]
  · rw [aloneRun_determined ran carried]

end Determined

section Both

variable {P : Platform} {one two : PaymentCallbackReq} {rawOne rawTwo : String}
  {rowOne rowTwo : Row Order} {now middle : Shared Db} {envsOne envsTwo : Nat → Env}

/-- With a free trade number and a solvent user the report is due. -/
theorem Billed.due {db : Db} (billed : Billed P one rowOne db) (unused : Unused P one db)
    (solvent : ∃ account ∈ db.accounts, account.val.userId = rowOne.val.userId ∧
      account.val.status = 0 ∧ rowOne.val.totalAmountFen ≤ account.val.balanceFen) :
    Due P one rowOne db where
  present := billed.present
  pending := billed.pending
  solvent := solvent
  reports := ⟨billed.accepted, billed.orderNo, billed.amount, billed.timestamp, unused,
    billed.request, billed.requestId⟩

/-- A callback that pays has settled its order. -/
theorem PaysTo.settled {last : Shared Db} (pays : PaysTo P envsOne one rawOne rowOne now last)
    (formed : WellFormed P.collate now) (billed : Billed P one rowOne now.committed) :
    WellFormed P.collate last ∧ ∃ settlement,
      Settled P one rawOne settlement now.committed last.committed ∧ settlement.order = rowOne := by
  obtain ⟨steps, reply, ran, success, paid, member, sameId, status⟩ := pays
  have alone := Alone.of_aloneRun ran
  refine ⟨(alone_ended formed alone).1, ?_⟩
  exact paid_settled formed alone billed.present billed.pending billed.orderNo member sameId status

/-- A settled callback found its trade number free. -/
theorem Settled.unused {settlement : Settlement} {before after : Db}
    (settled : Settled P one rawOne settlement before after) : Unused P one before := by
  intro row member channel tradeNo
  obtain ⟨paymentNo, callbackTime, -, made⟩ := settled.payment
  have free := List.any_eq_false.mp settled.paymentFree row member
  rw [made] at free
  simp only [buildPayment, Payment.stored, Bool.or_eq_true, Bool.and_eq_true, beq_iff_eq,
    not_or] at free
  exact free.2 ⟨channel, tradeNo⟩

/-- After one settled callback a number is free if it was and is not the one just used. -/
theorem Settled.unused_after {settlement : Settlement} {before after : Db}
    (settled : Settled P one rawOne settlement before after) (channel : one.channel = two.channel) :
    Unused P two after ↔
      Unused P two before ∧ P.collate (storedTradeNo one) ≠ P.collate (storedTradeNo two) := by
  obtain ⟨paymentNo, callbackTime, -, made⟩ := settled.payment
  rw [Unused, settled.payments]
  simp only [List.mem_append, List.mem_singleton, or_imp, forall_and, forall_eq]
  refine and_congr_right fun _ => ?_
  rw [made, buildPayment, channel]
  simp [Payment.stored, storedTradeNo]

/-- The other order is still pending after one settled callback, and its report stands. -/
theorem Settled.billed_after {settlement : Settlement} {before after : Db}
    (settled : Settled P one rawOne settlement before after)
    (billed : Billed P two rowTwo before) (different : settlement.order ≠ rowTwo)
    (requests : P.collate one.requestId ≠ P.collate two.requestId) : Billed P two rowTwo after where
  present := (settled.orders.mem_before billed.present).resolve_left different.symm
  pending := billed.pending
  accepted := billed.accepted
  orderNo := billed.orderNo
  amount := billed.amount
  timestamp := billed.timestamp
  request := by
    rw [settled.flows]
    intro flow member
    obtain old | new := List.mem_append.mp member
    · exact billed.request flow old
    · rw [List.mem_singleton.mp new, settled.flow]
      exact requests
  requestId := billed.requestId

/-- The second order is still covered after the first one was paid. -/
theorem Settled.solvent_after {settlement : Settlement} {before after : Db}
    (settled : Settled P one rawOne settlement before after) (keys : Schema P.collate before)
    (own : settlement.order = rowOne) (solvent : Solvent rowOne.val rowTwo.val before) :
    ∃ account ∈ after.accounts, account.val.userId = rowTwo.val.userId ∧ account.val.status = 0 ∧
      rowTwo.val.totalAmountFen ≤ account.val.balanceFen := by
  obtain ⟨account, present, owner, normal, covered⟩ := solvent.second
  by_cases charged : account = settlement.account
  · -- both orders belong to one user, whose account covers them together
    subst charged
    obtain ⟨shared, other, sharer, -, -, both⟩ := solvent.first
    have users : settlement.order.val.userId = rowTwo.val.userId := settled.owner.symm.trans owner
    rw [own] at users
    have same : shared = settlement.account :=
      keys.accountUser.eq_of_key other present (sharer.trans (users.trans owner.symm))
    refine ⟨settlement.debited, settled.accounts.new_mem, owner, normal, ?_⟩
    have together := both users
    rw [same] at together
    simp only [Settlement.debited, own]
    omega
  · exact ⟨account, (settled.accounts.mem_before present).resolve_left charged, owner, normal,
      covered⟩

/-- Two callbacks for different orders that are both paid, one after the other, found
their trade numbers free and different. -/
theorem both_paid_apart {last : Shared Db} (formed : WellFormed P.collate now)
    (billedOne : Billed P one rowOne now.committed) (billedTwo : Billed P two rowTwo now.committed)
    (different : rowOne ≠ rowTwo) (requests : P.collate one.requestId ≠ P.collate two.requestId)
    (paysOne : PaysTo P envsOne one rawOne rowOne now middle)
    (paysTwo : PaysTo P envsTwo two rawTwo rowTwo middle last) :
    (Unused P one now.committed ∧ Unused P two now.committed) ∧
      P.collate (storedTradeNo one) ≠ P.collate (storedTradeNo two) := by
  obtain ⟨between, settlement, settled, own⟩ := paysOne.settled formed billedOne
  have billedLater := settled.billed_after billedTwo (own ▸ different) requests
  obtain ⟨-, other, settledTwo, -⟩ := paysTwo.settled between billedLater
  have channels : one.channel = two.channel :=
    billedOne.accepted.channel.trans billedTwo.accepted.channel.symm
  obtain ⟨unusedTwo, apart⟩ := (settled.unused_after channels).mp settledTwo.unused
  exact ⟨⟨settled.unused, unusedTwo⟩, apart⟩

/-- In every store that concurrent calls reach, two callbacks for different orders,
one after the other, are both paid exactly if they keep the limits and their trade
numbers are free and different under the collation. -/
theorem both_paid_iff {serves : Call → Prop} {first : Shared Db} {system : Trade}
    (configured : Configured P) (formed : WellFormed P.collate first)
    (typed : Typed first.committed) (reached : Reached P (Admits serves) first system)
    (billedOne : Billed P one rowOne system.shared.committed)
    (billedTwo : Billed P two rowTwo system.shared.committed) (different : rowOne ≠ rowTwo)
    (requests : P.collate one.requestId ≠ P.collate two.requestId)
    (solvent : Solvent rowOne.val rowTwo.val system.shared.committed)
    (suppliedOne : ∀ index, Supplies P rowOne.val system.shared.committed (envsOne index))
    (suppliedTwo : ∀ middle, PaysTo P envsOne one rawOne rowOne system.shared middle →
      ∀ index, Supplies P rowTwo.val middle.committed (envsTwo index)) :
    (∃ middle last, PaysTo P envsOne one rawOne rowOne system.shared middle ∧
      PaysTo P envsTwo two rawTwo rowTwo middle last) ↔
      (Within one rawOne rowOne.val ∧ Within two rawTwo rowTwo.val) ∧
        (Unused P one system.shared.committed ∧ Unused P two system.shared.committed) ∧
        P.collate (storedTradeNo one) ≠ P.collate (storedTradeNo two) := by
  have now := (reached_locking formed reached).inv.1
  have fitting := reached_typed formed typed reached
  have channels : one.channel = two.channel :=
    billedOne.accepted.channel.trans billedTwo.accepted.channel.symm
  obtain ⟨account, present, owner, normal, covered, -⟩ := solvent.first
  have dueOne := fun unused => billedOne.due unused ⟨account, present, owner, normal, covered⟩
  constructor
  · rintro ⟨middle, last, paysOne, paysTwo⟩
    obtain ⟨between, settlement, settled, own⟩ := paysOne.settled now billedOne
    have billedLater := settled.billed_after billedTwo (own ▸ different) requests
    obtain ⟨-, other, settledTwo, -⟩ := paysTwo.settled between billedLater
    have withinOne := (pays_iff.mpr ⟨middle, paysOne⟩).within now (dueOne settled.unused)
    have withinTwo := (pays_iff.mpr ⟨last, paysTwo⟩).within between
      (billedLater.due settledTwo.unused (settled.solvent_after now.schema own solvent))
    exact ⟨⟨withinOne, withinTwo⟩,
      both_paid_apart now billedOne billedTwo different requests paysOne paysTwo⟩
  · rintro ⟨⟨withinOne, withinTwo⟩, ⟨unusedOne, unusedTwo⟩, apart⟩
    obtain ⟨middle, paysOne⟩ := pays_iff.mp
      (within_pays withinOne configured now fitting (dueOne unusedOne) suppliedOne)
    obtain ⟨between, settlement, settled, own⟩ := paysOne.settled now billedOne
    have billedLater := settled.billed_after billedTwo (own ▸ different) requests
    have dueTwo := billedLater.due ((settled.unused_after channels).mpr ⟨unusedTwo, apart⟩)
      (settled.solvent_after now.schema own solvent)
    obtain ⟨last, paysTwo⟩ := pays_iff.mp (within_pays withinTwo configured between
      (settled.typed fitting) dueTwo (suppliedTwo middle paysOne))
    exact ⟨middle, last, paysOne, paysTwo⟩

end Both

namespace Shop

/-- The signatures of the reports below, under the shop's secret. -/
def foldingSignatures : List (String × String) :=
  [("7001|T1|39.90|1789275496", "b6e1ac1d50a10a3d48a79229d383ca6095dda80ca9f26b42d560600d043c9c50"),
    ("7002|t1|19.95|1789275496", "6b20d0ac9342491da98b78e0f69e45b001f9eadafae754d3788929ecb6a814c7"),
    ("7002|T2|19.95|1789275496", "5a1a06a022848d40a37ff2d7f841f477cc3533b0536f9931fb314d6ac1b1e82e")]

/-- Letters that differ only in case are one. -/
def folding : Platform :=
  { platform with
    collate := fun text => String.ofList (text.toList.map Char.toLower)
    hmacSha256Hex := fun _ text => (foldingSignatures.lookup text).getD "" }

/-- Two mugs and one mug are ordered. -/
def mugsOrdered : Option Trade :=
  (System.initial shelf).runWhere (engine folding.collate) (program folding) (fun _ _ => true)
    (.call (.createOrder ⟨"req-0001", "hash", 8, 1, 2⟩) :: advances 0 "7001" 11 ++
      .call (.createOrder ⟨"req-0002", "hash", 8, 1, 1⟩) :: advances 1 "7002" 11)

/-- One mug. -/
def mug : Row Order := waiting 106 "7002" "req-0002" 1 1 1995

/-- The channel reports an order as paid under a trade number. -/
def reportOf (requestId : String) (order : Order) (tradeNo : String) : PaymentCallbackReq :=
  { report order tradeNo with
    requestId := requestId
    sign := folding.hmacSha256Hex folding.secret (SignUtil.canonical order.orderNo tradeNo
      (MoneyUtil.fenToYuanString order.totalAmountFen) "1789275496") }

/-- One id for whatever asks for one. -/
def answersWith (id : String) (_ : Nat) : Env := ⟨some id, 1789275496⟩

/-- The shelf is well formed under the folding collation too. -/
theorem shelf_folding : WellFormed folding.collate shelf := by
  constructor <;> constructor <;> simp [shelf, UniqueIds, UniqueKey]

/-- The report of the two mugs, carried to its end. -/
def mugsPaid (system : Trade) : Option (Answer × Shared Db) :=
  aloneRun folding ((List.range 13).map fun index => .ok (answersWith "8001" index))
    (.handleCallback (reportOf "cb-00001" mugs.val "T1") "raw") system.shared

/-- The report of the single mug in a later store, carried as far as given. -/
def mugReported (tradeNo : String) (steps : Nat) (now : Shared Db) : Option (Answer × Shared Db) :=
  aloneRun folding ((List.range steps).map fun index => .ok (answersWith "8002" index))
    (.handleCallback (reportOf "cb-00002" mug.val tradeNo) "raw") now

/-- The answer is a conflict. -/
def isRefused : Answer → Bool
  | .reply result => result.code == ErrCode.kChannelTradeConflict.toInt
  | _ => false

/-- Both orders wait for their payment; the first report is processed, and a second
one whose trade number differs in case only is refused. -/
theorem mugs_reached : ∃ (system : Trade) (answer : Answer) (middle : Shared Db),
    Reached folding (Admits fun _ => True) shelf system ∧
    system.shared.committed.orders = [mugs, mug] ∧
    system.shared.committed.accounts = shelf.committed.accounts ∧
    (system.shared.committed.payments = [] ∧ system.shared.committed.flows = [] ∧
      system.shared.committed.messages = []) ∧
    mugsPaid system = some (answer, middle) ∧
    (middle.committed.payments.map (fun row => row.val.paymentNo) = ["8001"] ∧
      middle.committed.messages.map (fun row => row.val.messageId) = ["8001"]) ∧
    ∃ refused, mugReported "t1" 7 middle = some refused ∧ isRefused refused.1 = true := by
  have executed : (mugsOrdered.bind fun system => (mugsPaid system).bind fun paid =>
      (mugReported "t1" 7 paid.2).map fun refused =>
        (system.shared.committed.orders, system.shared.committed.accounts,
          system.shared.committed.payments.isEmpty && system.shared.committed.flows.isEmpty &&
            system.shared.committed.messages.isEmpty,
          paid.2.committed.payments.map (fun row => row.val.paymentNo) == ["8001"] &&
            paid.2.committed.messages.map (fun row => row.val.messageId) == ["8001"] &&
            isRefused refused.1)) =
      some ([mugs, mug], shelf.committed.accounts, true, true) := by
    decide +kernel
  obtain ⟨system, ran, rest⟩ := Option.bind_eq_some_iff.mp executed
  obtain ⟨⟨answer, middle⟩, paid, rest⟩ := Option.bind_eq_some_iff.mp rest
  obtain ⟨⟨refused, last⟩, reported, tables⟩ := Option.map_eq_some_iff.mp rest
  simp only [Prod.mk.injEq, Bool.and_eq_true, List.isEmpty_iff, beq_iff_eq, and_assoc] at tables
  obtain ⟨orders, accounts, payments, flows, messages, numbers, ids, conflict⟩ := tables
  exact ⟨system, answer, middle, reached_of_run ran, orders, accounts,
    ⟨payments, flows, messages⟩, paid, ⟨numbers, ids⟩, (refused, last), reported, conflict⟩

/-- A signed report of one of them stands while no flow entry is written. -/
theorem mugs_billed {db : Db} {row : Row Order} {requestId tradeNo : String}
    (orders : db.orders = [mugs, mug]) (flows : db.flows = []) (present : row ∈ [mugs, mug])
    (short : requestId.length ≤ 64) : Billed folding (reportOf requestId row.val tradeNo) row db := by
  have read : BeijingTime.stoll "1789275496" = some ((1789275496 : Nat) : Int) :=
    @BeijingTime.stoll_toString 1789275496 (by decide) (by decide)
  have pending : row.val.status = .kPendingPayment := by
    revert row
    decide
  refine ⟨orders ▸ present, pending, ⟨rfl, rfl, ?_⟩, rfl, rfl,
    ⟨1789275496, read, by decide, by decide⟩, ?_, short⟩
  · simp [SignUtil.verifyMockSign, reportOf, report]
  · simp [flows]

/-- Fresh ids for one of the orders. -/
theorem mugs_supplied {db : Db} {order : Order} {id : String} (supply : (id, order) ∈
      [("8001", mugs.val), ("8002", mug.val)])
    (payments : ∀ number ∈ db.payments.map fun row => row.val.paymentNo,
      folding.collate number ≠ folding.collate id)
    (messages : ∀ number ∈ db.messages.map fun row => row.val.messageId,
      folding.collate number ≠ folding.collate id) (index : Nat) :
    Supplies folding order db (answersWith id index) := by
  have sizes : id.length ≤ 32 ∧
      (folding.toStyledString (messagePayload order id)).utf8ByteSize < 2 ^ 16 := by
    simp only [List.mem_cons, List.not_mem_nil, or_false, Prod.mk.injEq] at supply
    obtain ⟨rfl, rfl⟩ | ⟨rfl, rfl⟩ := supply <;> decide +kernel
  refine ⟨id, rfl, sizes.1, fun row member => ?_, fun row member => ?_, sizes.2⟩
  · exact payments _ (List.mem_map_of_mem member)
  · exact messages _ (List.mem_map_of_mem member)

/-- The account covers both orders. -/
theorem mugs_solvent {db : Db} (accounts : db.accounts = shelf.committed.accounts) :
    Solvent mugs.val mug.val db := by
  have present : (⟨1, ⟨"A1", 8, 10 ^ 12, 0, 0⟩⟩ : Row Account) ∈ db.accounts := by
    rw [accounts]
    exact List.mem_singleton_self _
  exact ⟨⟨_, present, rfl, rfl, by decide, fun _ => by decide⟩, _, present, rfl, rfl, by decide⟩

end Shop

/-- Under trade numbers T1 and T2 both orders are paid. -/
theorem mugs_both_paid : ∃ system : Trade,
    Reached Shop.folding (Admits fun _ => True) Shop.shelf system ∧
    ∃ middle last, PaysTo Shop.folding (Shop.answersWith "8001")
        (Shop.reportOf "cb-00001" Shop.mugs.val "T1") "raw" Shop.mugs system.shared middle ∧
      PaysTo Shop.folding (Shop.answersWith "8002")
        (Shop.reportOf "cb-00002" Shop.mug.val "T2") "raw" Shop.mug middle last := by
  obtain ⟨system, answer, middle, reached, orders, accounts, ⟨payments, flows, messages⟩, paid,
    ⟨numbers, ids⟩, -⟩ := Shop.mugs_reached
  refine ⟨system, reached, ?_⟩
  refine (both_paid_iff ⟨by decide, by decide⟩ Shop.shelf_folding ⟨by decide, by decide⟩ reached
    (Shop.mugs_billed orders flows (by simp) (by decide))
    (Shop.mugs_billed orders flows (by simp) (by decide)) (by decide) (by decide)
    (Shop.mugs_solvent accounts) ?_ ?_).mpr ?_
  · exact Shop.mugs_supplied (by simp) (by simp [payments]) (by simp [messages])
  · intro later pays
    rw [pays.eq_of_run paid]
    exact Shop.mugs_supplied (by simp) (by rw [numbers]; decide) (by rw [ids]; decide)
  · have within : ∀ row ∈ [Shop.mugs, Shop.mug], 0 < row.val.totalAmountFen ∧
        row.val.totalAmountFen ≤ kReportable := by decide
    refine ⟨⟨?_, ?_⟩, ⟨by simp [Unused, payments], by simp [Unused, payments]⟩, by decide⟩
    · exact ⟨(within _ (by simp)).1, (within _ (by simp)).2, by decide, by decide⟩
    · exact ⟨(within _ (by simp)).1, (within _ (by simp)).2, by decide, by decide⟩

/-- Under T1 and t1, which no payment has, only the first is: the second report is
answered with a conflict, though a reconciliation tells the two numbers apart. -/
theorem mugs_conflict : ∃ (system : Trade) (middle : Shared Db) (refused : Answer × Shared Db),
    Reached Shop.folding (Admits fun _ => True) Shop.shelf system ∧
    Billed Shop.folding (Shop.reportOf "cb-00001" Shop.mugs.val "T1") Shop.mugs
      system.shared.committed ∧
    Billed Shop.folding (Shop.reportOf "cb-00002" Shop.mug.val "t1") Shop.mug
      system.shared.committed ∧
    Shop.mugs ≠ Shop.mug ∧ Solvent Shop.mugs.val Shop.mug.val system.shared.committed ∧
    system.shared.committed.payments = [] ∧ "T1" ≠ "t1" ∧
    PaysTo Shop.folding (Shop.answersWith "8001") (Shop.reportOf "cb-00001" Shop.mugs.val "T1")
      "raw" Shop.mugs system.shared middle ∧
    Shop.mugReported "t1" 7 middle = some refused ∧ Shop.isRefused refused.1 = true ∧
    (∀ rowOne rowTwo : ReconcileSideRow, rowOne.channelTradeNo = "T1" →
      rowTwo.channelTradeNo = "t1" → classifyReconcileDiffs [rowOne] [rowTwo] ≠ []) ∧
    ¬∃ later last, PaysTo Shop.folding (Shop.answersWith "8001")
        (Shop.reportOf "cb-00001" Shop.mugs.val "T1") "raw" Shop.mugs system.shared later ∧
      PaysTo Shop.folding (Shop.answersWith "8002")
        (Shop.reportOf "cb-00002" Shop.mug.val "t1") "raw" Shop.mug later last := by
  obtain ⟨system, answer, middle, reached, orders, accounts, ⟨payments, flows, messages⟩, paid, -,
    refused, reported, conflict⟩ := Shop.mugs_reached
  have formed := (reached_locking Shop.shelf_folding reached).inv.1
  have billedOne : Billed Shop.folding (Shop.reportOf "cb-00001" Shop.mugs.val "T1") Shop.mugs
      system.shared.committed := Shop.mugs_billed orders flows (by simp) (by decide)
  have billedTwo : Billed Shop.folding (Shop.reportOf "cb-00002" Shop.mug.val "t1") Shop.mug
      system.shared.committed := Shop.mugs_billed orders flows (by simp) (by decide)
  have solvent := Shop.mugs_solvent accounts
  have pays : Pays Shop.folding (Shop.answersWith "8001")
      (Shop.reportOf "cb-00001" Shop.mugs.val "T1") "raw" Shop.mugs system.shared := by
    have typed := reached_typed Shop.shelf_folding ⟨by decide, by decide⟩ reached
    obtain ⟨account, present, owner, normal, covered, -⟩ := solvent.first
    refine within_pays ⟨by decide, by decide, by decide, by decide⟩ ⟨by decide, by decide⟩ formed typed
      (billedOne.due (by simp [Unused, payments]) ⟨account, present, owner, normal, covered⟩) ?_
    exact Shop.mugs_supplied (by simp) (by simp [payments]) (by simp [messages])
  obtain ⟨last, paysTo⟩ := pays_iff.mp pays
  obtain rfl : last = middle := paysTo.eq_of_run paid
  refine ⟨system, last, refused, reached, billedOne, billedTwo, by decide, solvent, payments,
    by decide, paysTo, reported, conflict, ?_, ?_⟩
  · intro rowOne rowTwo first second balanced
    have matched := (classified_nil [rowOne] [rowTwo]).mp balanced "T1"
    simp [lastOf, first, second] at matched
  · rintro ⟨later, last, paysOne, paysTwo⟩
    exact (both_paid_apart formed billedOne billedTwo (by decide) (by decide) paysOne paysTwo).2
      (by decide)

end TradeReconcile
