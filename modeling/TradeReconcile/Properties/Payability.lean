import TradeReconcile.Calendar
import TradeReconcile.Properties.Acceptance

/-!
# Which orders can be paid

Order creation accepts every total that its column holds. A callback has narrower limits
on the way: the amount must be read back from its yuan text, the flow entry's amount must
be positive, and the payment row must fit its columns. An order within these limits is
paid by the channel's callback in every later store that leaves it pending and its user
solvent, and no other order is.
-/

namespace TradeReconcile

open Transactions

/-! The column types, as the services rely on them. -/

/-- The rows of orders and accounts fit their columns. -/
structure Typed (db : Db) : Prop where
  orders : ∀ row ∈ db.orders, row.val.fits = true
  accounts : ∀ row ∈ db.accounts,
    row.val.accountNo.length ≤ 32 ∧ fitsDecimal row.val.balanceFen = true

section Typing

variable {P : Platform} {before after : Db}

/-- A new order's texts fit their columns. -/
theorem Placed.typed {req : CreateOrderReq} {placement : Placement}
    (placed : Placed P req placement before after) (typed : Typed before) : Typed after where
  orders row member := by
    rw [placed.orders, List.mem_append, List.mem_singleton] at member
    rcases member with old | rfl
    · exact typed.orders row old
    · exact placed.fits
  accounts row member := typed.accounts row (placed.accounts ▸ member)

/-- A deduction leaves a balance between zero and the one before. -/
theorem Settled.typed {req : PaymentCallbackReq} {rawBody : String} {settlement : Settlement}
    (settled : Settled P req rawBody settlement before after) (typed : Typed before) :
    Typed after where
  orders row member := by
    rcases settled.orders.mem_after member with rfl | old
    · exact typed.orders settlement.order settled.orderPresent
    · exact typed.orders row old
  accounts row member := by
    rcases settled.accounts.mem_after member with rfl | old
    · obtain ⟨short, balance⟩ := typed.accounts settlement.account settled.accountPresent
      refine ⟨short, ?_⟩
      have positive := settled.positive
      have covered := settled.covered
      rw [fitsDecimal_iff] at balance ⊢
      change -(10 ^ 18) < settlement.account.val.balanceFen - _ ∧
        settlement.account.val.balanceFen - _ < 10 ^ 18
      omega
    · exact typed.accounts row old

/-- Every commit keeps orders and accounts within their columns. -/
theorem Commit.typed {call : Call} (commit : Commit P call before after) (typed : Typed before) :
    Typed after := by
  cases commit with
  | placed placed => exact placed.typed typed
  | settled settled => exact settled.typed typed
  | reconciled reconciled =>
    rw [reconciled.frame]
    exact ⟨typed.orders, typed.accounts⟩
  | handled handled =>
    rw [handled.frame]
    exact ⟨typed.orders, typed.accounts⟩

/-- In every reached store they are. -/
theorem reached_typed {serves : Call → Prop} {first : Shared Db} {system : Trade}
    (formed : WellFormed P.collate first) (typed : Typed first.committed)
    (reached : Reached P (Admits serves) first system) : Typed system.shared.committed :=
  commits_invariant (fun _ _ commit typed => commit.typed typed) formed.schema typed
    (reached_commits formed reached)

end Typing

namespace PaymentService

/-- The largest total that a callback can report. -/
def kReportable : Nat := 100000000999

/-- The channel reports an order as paid, for the first time: the checks pass, the amount is
the order's total, and neither the request id nor the trade number, as it is stored, has been
used. -/
structure Reports (P : Platform) (req : PaymentCallbackReq) (order : Order) (db : Db) : Prop where
  accepted : Accepted P req
  orderNo : req.orderNo = order.orderNo
  amount : req.amount = MoneyUtil.fenToYuanString order.totalAmountFen
  timestamp : ∃ seconds, BeijingTime.stoll req.timestamp = some seconds ∧
    BeijingTime.daysFromCivil 2024 1 1 * 86400 - BeijingTime.kOffsetSeconds ≤ seconds ∧
    seconds < BeijingTime.daysFromCivil 2100 1 1 * 86400
  tradeNo : ∀ row ∈ db.payments, P.collate row.val.channel = P.collate req.channel →
    P.collate row.val.channelTradeNo ≠ P.collate (storedTradeNo req)
  request : ∀ row ∈ db.flows, P.collate row.val.requestId ≠ P.collate req.requestId
  requestId : req.requestId.length ≤ 64

/-- A pending order whose user can pay is reported as paid, under a trade number that is
free. -/
structure Due (P : Platform) (req : PaymentCallbackReq) (row : Row Order) (db : Db) : Prop where
  present : row ∈ db.orders
  pending : row.val.status = .kPendingPayment
  solvent : ∃ account ∈ db.accounts, account.val.userId = row.val.userId ∧
    account.val.status = 0 ∧ row.val.totalAmountFen ≤ account.val.balanceFen
  reports : Reports P req row.val db

/-- The limits that a callback meets on its way. Texts are measured as their columns take
them, without the spaces that run past the end. -/
structure Within (req : PaymentCallbackReq) (rawBody : String) (order : Order) : Prop where
  positive : 0 < order.totalAmountFen
  reportable : order.totalAmountFen ≤ kReportable
  tradeNo : (storedTradeNo req).length ≤ 64
  body : (storedBody rawBody).utf8ByteSize < 2 ^ 16

/-- Ids for the payment and the message of an order, unused in both tables and short enough
for them, and a message text that fits. -/
structure Supplies (P : Platform) (order : Order) (db : Db) (env : Env) : Prop where
  issued : ∃ id, env.nextId = some id ∧ id.length ≤ 32 ∧
    (∀ row ∈ db.payments, P.collate row.val.paymentNo ≠ P.collate id) ∧
    (∀ row ∈ db.messages, P.collate row.val.messageId ≠ P.collate id) ∧
    (P.toStyledString (messagePayload order id)).utf8ByteSize < 2 ^ 16

/-- The configured addresses of messages fit their columns. -/
structure Configured (P : Platform) : Prop where
  exchange : (P.exchange.getD "trade.exchange").length ≤ 128
  routingKey : (P.routingKeyNotify.getD "order.paid").length ≤ 128

section Payable

variable {P : Platform} {req : PaymentCallbackReq} {rawBody : String} {row : Row Order}
  {now : Shared Db}

/-- Within the limits a report is processed to the end. Step by step, each with the lemma
about a call alone. -/
theorem due_achieves (configured : Configured P) (formed : WellFormed P.collate now)
    (typed : Typed now.committed) (due : Due P req row now.committed)
    (within : Within req rawBody row.val) :
    Guarded.Achieves P False (Supplies P row.val now.committed)
      (fun outcome _ => outcome = .ok (processed req))
      (handleCallbackBody P req rawBody) .idle now := by
  obtain ⟨present, pending, ⟨account, owned, owner, normal, covered⟩, reports⟩ := due
  obtain ⟨positive, limited, tradeNo, body⟩ := within
  have keys := formed.schema
  have named : P.collate row.val.orderNo = P.collate req.orderNo := by rw [reports.orderNo]
  have found : now.committed.findOrder P.collate req.orderNo = some row := by
    rw [Db.findOrder, ← named]
    exact keys.orderNo.find_eq present
  have fits := typed.orders row present
  simp only [Order.fits, Bool.and_eq_true, decide_eq_true_eq] at fits
  have short : req.orderNo.length ≤ 32 := by
    rw [reports.orderNo]
    exact fits.1.1.1.1.1.1.1.1.1
  have sum : fitsDecimal row.val.totalAmountFen = true := fits.1.1.2
  have amount : MoneyUtil.yuanStringToFen req.amount = some row.val.totalAmountFen := by
    obtain ⟨fen, same⟩ := Int.eq_ofNat_of_zero_le (Int.le_of_lt positive)
    rw [kReportable, same] at limited
    rw [reports.amount, same]
    exact MoneyUtil.yuanStringToFen_fenToYuanString (by omega)
  obtain ⟨seconds, read, lower, upper⟩ := reports.timestamp
  obtain ⟨callbackTime, rendered, time⟩ := BeijingTime.epochToBeijing_isDateTime read lower upper
  obtain ⟨accountNo, balance⟩ := typed.accounts account owned
  refine checkOrder_achieves now found amount (recordPayment_achieves now rendered ?_ ?_ ?_)
  · rintro env ⟨id, issued, idShort, -⟩
    refine ⟨id, issued, ?_⟩
    have channel : req.channel.length ≤ 16 := by
      rw [reports.accepted.channel]
      decide
    simp only [Payment.fits, Payment.stored, buildPayment, Bool.and_eq_true]
    exact ⟨⟨⟨⟨⟨⟨decide_eq_true idShort, decide_eq_true short⟩, decide_eq_true channel⟩,
      decide_eq_true tradeNo⟩, sum⟩, time⟩, decide_eq_true body⟩
  · -- Neither the number nor the trade number is taken.
    rintro id clock ⟨same, issued, -, unused, -⟩ clash
    obtain rfl := Option.some.inj issued
    obtain ⟨old, member, taken⟩ := List.any_eq_true.mp clash
    simp only [Bool.or_eq_true, Bool.and_eq_true, beq_iff_eq] at taken
    rcases taken with number | ⟨channel, trade⟩
    · exact absurd number (unused old member)
    · exact absurd trade (reports.tradeNo old member channel)
  · intro id clock _ _ locks
    refine settleOrder_achieves now.tick keys present named ?_ ?_ (.inr pending)
    · intro paid
      rw [pending] at paid
      cases paid
    · intro _ paidAt more
      refine debitAccount_achieves now.tick.tick keys ⟨owned, owner, normal, covered, positive, accountNo,
        balance, short, reports.requestId, reports.request⟩ fun flow more => ?_
      refine writeMessage_achieves now.tick.tick.tick.tick rfl ?_ ?_
      · rintro env ⟨id, issued, idShort, -, unused, payload⟩
        refine ⟨id, issued, ?_, ?_⟩
        · have bizType : kBizTypeOrderPaid.length ≤ 32 := by decide
          have bizId : req.orderNo.length ≤ 64 := by omega
          have messageId : id.length ≤ 64 := by omega
          simp only [LocalMessage.fits, buildMessage, Bool.and_eq_true]
          exact ⟨⟨⟨⟨⟨decide_eq_true messageId, decide_eq_true bizType⟩, decide_eq_true bizId⟩,
            decide_eq_true configured.exchange⟩, decide_eq_true configured.routingKey⟩,
            decide_eq_true payload⟩
        · rw [Db.hasMessageKey, List.any_eq_false]
          intro old member
          simpa [buildMessage] using unused old member
      · exact fun message more => Guarded.commit_achieves False.elim rfl

end Payable

end PaymentService

open PaymentService

/-- Alone and without faults, on these answers of the environment, the callback is answered
with success and its order is paid. -/
def Pays (P : Platform) (envs : Nat → Env) (req : PaymentCallbackReq) (rawBody : String)
    (row : Row Order) (now : Shared Db) : Prop :=
  ∃ steps reply last,
    aloneRun P ((List.range steps).map fun index => .ok (envs index))
      (.handleCallback req rawBody) now = some (.reply reply, last) ∧
    reply.code = ErrCode.kSuccess.toInt ∧
    ∃ paid ∈ last.committed.orders, paid.id = row.id ∧ paid.val.status = .kPaid

section Reached

variable {P : Platform} {req : PaymentCallbackReq} {rawBody : String} {row : Row Order}
  {now : Shared Db} {envs : Nat → Env}

/-- The order that a due callback settles is the one it reports. -/
theorem due_settled_order {settlement : Settlement} {after : Db} (due : Due P req row now.committed)
    (formed : WellFormed P.collate now)
    (settled : Settled P req rawBody settlement now.committed after) : settlement.order = row :=
  formed.schema.orderNo.eq_of_key settled.orderPresent due.present
    (settled.named.trans (congrArg P.collate due.reports.orderNo))

/-- A callback that leaves a pending order paid has settled it. -/
theorem paid_settled {answer : Answer} {last : Shared Db} {paid : Row Order}
    (formed : WellFormed P.collate now)
    (alone : Alone P (.handleCallback req rawBody) now answer last)
    (present : row ∈ now.committed.orders) (pending : row.val.status = .kPendingPayment)
    (orderNo : req.orderNo = row.val.orderNo) (member : paid ∈ last.committed.orders)
    (sameId : paid.id = row.id) (status : paid.val.status = .kPaid) :
    ∃ settlement, Settled P req rawBody settlement now.committed last.committed ∧
      settlement.order = row := by
  rcases alone_effect formed alone with ⟨same, -⟩ | ⟨effect, -⟩
  · rw [same] at member
    obtain rfl := formed.schema.orderIds.eq_of_id member present sameId
    rw [pending] at status
    cases status
  · cases effect with
    | @callback _ _ settlement _ _ settled =>
      have named := settled.named.trans (congrArg P.collate orderNo)
      exact ⟨settlement, settled, formed.schema.orderNo.eq_of_key settled.orderPresent present named⟩

/-- A callback that pays has kept the limits. -/
theorem Pays.within (pays : Pays P envs req rawBody row now) (formed : WellFormed P.collate now)
    (due : Due P req row now.committed) : Within req rawBody row.val := by
  obtain ⟨steps, reply, last, ran, success, paid, member, sameId, status⟩ := pays
  have alone := Alone.of_aloneRun ran
  obtain ⟨⟨total, callbackTime, asked⟩, -⟩ := success_asked alone success
  obtain ⟨paymentNo, fits⟩ := asked.fits
  simp only [Payment.fits, Payment.stored, buildPayment, Bool.and_eq_true] at fits
  obtain ⟨⟨⟨⟨⟨⟨-, -⟩, -⟩, tradeNo⟩, -⟩, -⟩, body⟩ := fits
  obtain ⟨settlement, settled, rfl⟩ :=
    paid_settled formed alone due.present due.pending due.reports.orderNo member sameId status
  refine ⟨settled.positive, ?_, of_decide_eq_true tradeNo, of_decide_eq_true body⟩
  by_contra above
  have read := settled.amount
  obtain ⟨fen, same⟩ := Int.eq_ofNat_of_zero_le (Int.le_of_lt settled.positive)
  rw [kReportable, same] at above
  rw [due.reports.amount, same, MoneyUtil.yuanStringToFen_over (by omega)] at read
  cases read

/-- A callback that keeps the limits pays. -/
theorem within_pays (within : Within req rawBody row.val) (configured : Configured P)
    (formed : WellFormed P.collate now) (typed : Typed now.committed)
    (due : Due P req row now.committed)
    (supplied : ∀ index, Supplies P row.val now.committed (envs index)) :
    Pays P envs req rawBody row now := by
  have achieves : Achieves (engine P.collate) False (Supplies P row.val now.committed)
      (fun (answer : Answer) _ _ => answer = .reply (processed req))
      (program P (.handleCallback req rawBody)) .idle now := by
    rw [accepted_program due.reports.accepted]
    refine Achieves.bind ((Guarded.transaction_achieves False.elim
      (due_achieves configured formed typed due within)).mono ?_)
    rintro outcome _ _ rfl
    rfl
  obtain ⟨steps, answer, -, last, ran, rfl⟩ := aloneRun_of_achieves achieves envs supplied
  have effect := fresh_effect formed (.of_aloneRun ran) rfl
  refine ⟨steps, processed req, last, ran, rfl, ?_⟩
  cases effect with
  | @callback _ _ settlement _ _ settled =>
    obtain rfl := due_settled_order due formed settled
    exact ⟨settlement.paidOrder, settled.orders.new_mem, rfl, rfl⟩

/-- In every store that concurrent calls reach, the callback of a pending order pays it
exactly if it keeps the limits: an amount that can be reported, a trade number that its column
takes, a body within TEXT. Both directions are about a callback of its own, without failures;
that the order is due is a condition on the store. -/
theorem reached_pays_iff {serves : Call → Prop} {first : Shared Db} {system : Trade}
    (configured : Configured P) (formed : WellFormed P.collate first)
    (typed : Typed first.committed) (reached : Reached P (Admits serves) first system)
    (due : Due P req row system.shared.committed)
    (supplied : ∀ index, Supplies P row.val system.shared.committed (envs index)) :
    Pays P envs req rawBody row system.shared ↔ Within req rawBody row.val := by
  have now := (reached_locking formed reached).inv.1
  exact ⟨fun pays => pays.within now due, fun within =>
    within_pays within configured now (reached_typed formed typed reached) due supplied⟩

end Reached

namespace Shop

/-- The signatures of the reports below, under the shop's secret. -/
def reportSignatures : List (String × String) :=
  [("7001|T1|39.90|1789275496", "b6e1ac1d50a10a3d48a79229d383ca6095dda80ca9f26b42d560600d043c9c50"),
    ("7002|T1|0.00|1789275496", "49ba87d77f62bb0f4304a87b098b36bc8fa4008cbe62a249dd30c83532e59016"),
    ("7003|T1|1000000010.00|1789275496",
      "a96d04d5ef75d3c9313aaf393b6441b03d3b9cea993bbcc0c837a5eb033f227d"),
    ("7001|TTTTTTTTTTTTTTTTTTTTTTTTTTTTTTTTTTTTTTTTTTTTTTTTTTTTTTTTTTTTTTTTT|39.90|1789275496",
      "b206dcc0c272c6cdd2e9ed087954d37a6c6695f28f23c5cf3fce19ce8c1f2356"),
    ("7001|" ++ paddedTradeNo ++ "|39.90|1789275496",
      "df08a88afa1a969eee5ee87836a8061ddfaa759ff3cce4505e320991edc74c9b")]

/-- A platform with configured addresses. -/
def reporting : Platform :=
  { platform with hmacSha256Hex := fun _ text => (reportSignatures.lookup text).getD "" }

/-- A mug, a leaflet for nothing, a tower above the limit, and a rich account. -/
def shelf : Shared Db where
  committed :=
    { products := [⟨1, ⟨"P1", "mug", 1995, 10, 1⟩⟩, ⟨2, ⟨"P2", "leaflet", 0, 10, 1⟩⟩,
        ⟨3, ⟨"P3", "tower", 100000001000, 10, 1⟩⟩]
      accounts := [⟨1, ⟨"A1", 8, 10 ^ 12, 0, 0⟩⟩] }
  counter := 100

/-- Two mugs, a leaflet and a tower are ordered. -/
def shelfOrdered : Option Trade :=
  (System.initial shelf).runWhere (engine reporting.collate) (program reporting) (fun _ _ => true)
    (.call (.createOrder ⟨"req-0001", "hash", 8, 1, 2⟩) :: advances 0 "7001" 11 ++
      .call (.createOrder ⟨"req-0002", "hash", 8, 2, 1⟩) :: advances 1 "7002" 11 ++
      .call (.createOrder ⟨"req-0003", "hash", 8, 3, 1⟩) :: advances 2 "7003" 11)

/-- An order of user 8 at the time of the run. -/
def waiting (id : Nat) (orderNo requestId : String) (productId : Nat) (quantity price : Int) :
    Row Order :=
  ⟨id, ⟨orderNo, requestId, 8, productId, quantity, price, price * quantity, .kPendingPayment,
    "2026-09-13 13:28:16", ""⟩⟩

/-- Two mugs at 19.95. -/
def mugs : Row Order := waiting 102 "7001" "req-0001" 1 2 1995

/-- A leaflet that costs nothing. -/
def leaflet : Row Order := waiting 106 "7002" "req-0002" 2 1 0

/-- A tower above the documented limit of amounts. -/
def tower : Row Order := waiting 110 "7003" "req-0003" 3 1 100000001000

/-- The channel reports an order as paid under a trade number. -/
def report (order : Order) (tradeNo : String) : PaymentCallbackReq where
  requestId := "cb-00001"
  orderNo := order.orderNo
  channel := "MOCK"
  channelTradeNo := tradeNo
  amount := MoneyUtil.fenToYuanString order.totalAmountFen
  timestamp := "1789275496"
  sign := reporting.hmacSha256Hex reporting.secret (SignUtil.canonical order.orderNo tradeNo
    (MoneyUtil.fenToYuanString order.totalAmountFen) "1789275496")

/-- The shelf is a well-formed store. -/
theorem shelf_formed : WellFormed reporting.collate shelf := by
  constructor <;> constructor <;> simp [shelf, UniqueIds, UniqueKey]

/-- The three orders wait for their payment. -/
theorem ordered_reached : ∃ system : Trade, Reached reporting (Admits fun _ => True) shelf system ∧
    system.shared.committed.orders = [mugs, leaflet, tower] ∧
    system.shared.committed.accounts = shelf.committed.accounts ∧
    system.shared.committed.payments = [] ∧ system.shared.committed.flows = [] ∧
    system.shared.committed.messages = [] := by
  have executed : (shelfOrdered.map fun system =>
      (system.shared.committed.orders, system.shared.committed.accounts,
        system.shared.committed.payments.isEmpty && system.shared.committed.flows.isEmpty &&
          system.shared.committed.messages.isEmpty)) =
      some ([mugs, leaflet, tower], shelf.committed.accounts, true) := by decide +kernel
  obtain ⟨system, ran, tables⟩ := Option.map_eq_some_iff.mp executed
  simp only [Prod.mk.injEq, Bool.and_eq_true, List.isEmpty_iff, and_assoc] at tables
  exact ⟨system, reached_of_run ran, tables⟩

/-- Each of them is due under any trade number. -/
theorem report_due {db : Db} {row : Row Order} (orders : db.orders = [mugs, leaflet, tower])
    (accounts : db.accounts = shelf.committed.accounts) (payments : db.payments = [])
    (flows : db.flows = []) (present : row ∈ [mugs, leaflet, tower]) (tradeNo : String) :
    Due reporting (report row.val tradeNo) row db := by
  have read : BeijingTime.stoll "1789275496" = some ((1789275496 : Nat) : Int) :=
    @BeijingTime.stoll_toString 1789275496 (by decide) (by decide)
  have facts : row.val.status = .kPendingPayment ∧ row.val.userId = 8 ∧
      row.val.totalAmountFen ≤ 10 ^ 12 := by
    revert row
    decide
  refine ⟨orders ▸ present, facts.1, ⟨⟨1, ⟨"A1", 8, 10 ^ 12, 0, 0⟩⟩, ?_, facts.2.1.symm, rfl,
    facts.2.2⟩, ?_⟩
  · rw [accounts]
    exact List.mem_singleton_self _
  · have short : "cb-00001".length ≤ 64 := by decide
    refine ⟨⟨rfl, rfl, ?_⟩, rfl, rfl, ⟨1789275496, read, by decide, by decide⟩, ?_, ?_, short⟩
    · simp [SignUtil.verifyMockSign, report]
    · simp [payments]
    · simp [flows]

end Shop

/-- The mugs are paid, also under a trade number with a space past its column. -/
theorem mugs_paid : ∃ system : Trade, Reached Shop.reporting (Admits fun _ => True) Shop.shelf system ∧
    Shop.mugs ∈ system.shared.committed.orders ∧
    ∀ tradeNo ∈ ["T1", Shop.paddedTradeNo],
      Pays Shop.reporting (fun _ => ⟨some "8001", 1789275496⟩) (Shop.report Shop.mugs.val tradeNo)
        "raw" Shop.mugs system.shared := by
  obtain ⟨system, reached, orders, accounts, payments, flows, messages⟩ := Shop.ordered_reached
  refine ⟨system, reached, by simp [orders], fun tradeNo listed => ?_⟩
  refine (reached_pays_iff ⟨by decide, by decide⟩ Shop.shelf_formed ⟨by decide, by decide⟩ reached
    (Shop.report_due orders accounts payments flows (by simp) tradeNo) fun _ => ?_).mpr ?_
  · refine ⟨"8001", rfl, by decide, ?_, ?_, by decide +kernel⟩
    · simp [payments]
    · simp [messages]
  · have short : ∀ tradeNo ∈ ["T1", Shop.paddedTradeNo],
        (storedTradeNo (Shop.report Shop.mugs.val tradeNo)).length ≤ 64 := by decide +kernel
    exact ⟨by decide, by decide, short tradeNo listed, by decide⟩

/-- The leaflet and the tower are never paid, nor are the mugs under a trade number of 65
characters or with a body of 64 KiB, if they do not end in spaces. -/
theorem shelf_unpaid : ∃ system : Trade,
    Reached Shop.reporting (Admits fun _ => True) Shop.shelf system ∧
    (Due Shop.reporting (Shop.report Shop.leaflet.val "T1") Shop.leaflet system.shared.committed ∧
      ∀ envs rawBody, ¬Pays Shop.reporting envs (Shop.report Shop.leaflet.val "T1") rawBody
        Shop.leaflet system.shared) ∧
    (Due Shop.reporting (Shop.report Shop.tower.val "T1") Shop.tower system.shared.committed ∧
      ∀ envs rawBody, ¬Pays Shop.reporting envs (Shop.report Shop.tower.val "T1") rawBody
        Shop.tower system.shared) ∧
    (Due Shop.reporting (Shop.report Shop.mugs.val (String.ofList (List.replicate 65 'T')))
        Shop.mugs system.shared.committed ∧
      ∀ envs rawBody, ¬Pays Shop.reporting envs
        (Shop.report Shop.mugs.val (String.ofList (List.replicate 65 'T'))) rawBody Shop.mugs
        system.shared) ∧
    (Due Shop.reporting (Shop.report Shop.mugs.val "T1") Shop.mugs system.shared.committed ∧
      ∀ envs rawBody, 2 ^ 16 ≤ rawBody.utf8ByteSize → rawBody.toList.getLast? ≠ some ' ' →
        ¬Pays Shop.reporting envs (Shop.report Shop.mugs.val "T1") rawBody Shop.mugs
          system.shared) := by
  obtain ⟨system, reached, orders, accounts, payments, flows, -⟩ := Shop.ordered_reached
  have formed := (reached_locking Shop.shelf_formed reached).inv.1
  have due := fun row present tradeNo =>
    @Shop.report_due system.shared.committed row orders accounts payments flows present tradeNo
  refine ⟨system, reached, ⟨due _ (by simp) _, ?_⟩, ⟨due _ (by simp) _, ?_⟩,
    ⟨due _ (by simp) _, ?_⟩, due _ (by simp) _, ?_⟩
  · intro envs rawBody pays
    exact absurd (pays.within formed (due _ (by simp) _)).positive (by decide)
  · intro envs rawBody pays
    exact absurd (pays.within formed (due _ (by simp) _)).reportable (by decide)
  · intro envs rawBody pays
    exact absurd (pays.within formed (due _ (by simp) _)).tradeNo (by decide)
  · intro envs rawBody long last pays
    have body := (pays.within formed (due _ (by simp) _)).body
    rw [storedBody, Varchar.cutBytes_of_last last] at body
    exact absurd body (Nat.not_lt.mpr long)

end TradeReconcile
