import TradeReconcile.Interplay

/-!
# The operations as single steps

What the services are for, without statements, snapshots or locks: placing an
order moves stock into an order row and stores the reply, settling a callback
moves money from the account into a payment with its flow entry and message,
reconciling a day adds a batch with its differences, and handling a difference closes
it with a remark. Each relation says what held
before the step and what is different after it.

Every step keeps the unique keys and the row numbering, only lets the database
evolve, and changes nothing behind a lock it does not need.
-/

namespace TradeReconcile

open Transactions

/-- The rows of one placed order. `product` is the row before the deduction; the record, the
order and their numbers are new. -/
structure Placement where
  product : Row Product
  order : Row Order
  record : Row Idempotent

namespace Placement

/-- The product after the sale. -/
def sold (placement : Placement) (quantity : Int) : Row Product :=
  ⟨placement.product.id,
    { placement.product.val with stock := placement.product.val.stock - quantity }⟩

/-- The rows and keys that a creation holds at its commit: the product it has sold from, the
new order under its keys, and the record of the request. -/
def locks (collate : String → String) (placement : Placement) : List Lock :=
  [.rowNumber placement.record.id, .idempotentRequest (collate placement.record.val.requestId),
    .product placement.product.id, .rowNumber placement.order.id,
    .orderNo (collate placement.order.val.orderNo),
    .orderRequest (collate placement.order.val.requestId)]

end Placement

/-- One order placed: how the tables before and after differ, and what the new rows hold.
Everything else is the same, which `agree` reads off for the locks of others. -/
structure Placed (P : Platform) (req : CreateOrderReq) (placement : Placement)
    (before after : Db) : Prop where
  quantity : 0 < req.quantity ∧ req.quantity ≤ OrderService.kMaxQuantity
  present : placement.product ∈ before.products
  chosen : placement.product.id = req.productId
  onSale : placement.product.val.onSale = true
  stocked : req.quantity ≤ placement.product.val.stock
  order : ∃ orderNo clock,
    placement.order.val = OrderService.buildOrder req placement.product.val orderNo clock
  fits : placement.order.val.fits = true
  record : ∃ clock, placement.record.val =
    { OrderService.buildIdempotentRecord req clock with
      status := .kSuccess
      responseBody := OrderService.replyBody P placement.order.val req.requestId }
  recordUnused : RowNumbers (· ≠ placement.record.id) before
  orderUnused : RowNumbers (· ≠ placement.order.id) before
  requestFree : before.hasIdempotent P.collate req.requestId = false
  orderFree : before.hasOrderKey P.collate placement.order.val = false
  products : Replaced before.products after.products placement.product
    (placement.sold req.quantity)
  orders : after.orders = before.orders ++ [placement.order]
  idempotents : after.idempotents = before.idempotents ++ [placement.record]
  accounts : after.accounts = before.accounts
  flows : after.flows = before.flows
  payments : after.payments = before.payments
  messages : after.messages = before.messages
  batches : after.batches = before.batches
  diffs : after.diffs = before.diffs

/-- The rows of one settled callback. `order` and `account` are the rows before; payment, flow
entry and message are new. -/
structure Settlement where
  order : Row Order
  account : Row Account
  payment : Row Payment
  flow : Row AccountFlow
  message : Row LocalMessage
  paidAt : String

namespace Settlement

/-- The order after its payment. -/
def paidOrder (settlement : Settlement) : Row Order :=
  ⟨settlement.order.id,
    { settlement.order.val with status := .kPaid, paidAt := settlement.paidAt }⟩

/-- The account after the payment. -/
def debited (settlement : Settlement) : Row Account :=
  ⟨settlement.account.id,
    { settlement.account.val with
      balanceFen := settlement.account.val.balanceFen - settlement.order.val.totalAmountFen }⟩

/-- The rows and keys that a payment holds at its commit: the order and the account it has
changed, and the three rows it has added, under all of their keys. -/
def locks (collate : String → String) (settlement : Settlement) : List Lock :=
  [.rowNumber settlement.payment.id, .paymentNo (collate settlement.payment.val.paymentNo),
    .channelTrade (collate settlement.payment.val.channel)
      (collate settlement.payment.val.channelTradeNo),
    .orderNo (collate settlement.order.val.orderNo),
    .accountNo (collate settlement.account.val.accountNo),
    .rowNumber settlement.flow.id,
    .flowRequest (collate settlement.flow.val.requestId) settlement.flow.val.bizType,
    .rowNumber settlement.message.id, .messageId (collate settlement.message.val.messageId)]

end Settlement

/-- One callback settled. The order was pending and its account covered the total; the flow
entry is the last one of its account, with the balances around the deduction. -/
structure Settled (P : Platform) (req : PaymentCallbackReq) (rawBody : String)
    (settlement : Settlement) (before after : Db) : Prop where
  orderPresent : settlement.order ∈ before.orders
  named : P.collate settlement.order.val.orderNo = P.collate req.orderNo
  pending : settlement.order.val.status = .kPendingPayment
  amount : MoneyUtil.yuanStringToFen req.amount = some settlement.order.val.totalAmountFen
  positive : 0 < settlement.order.val.totalAmountFen
  accountPresent : settlement.account ∈ before.accounts
  owner : settlement.account.val.userId = settlement.order.val.userId
  normal : settlement.account.val.status = 0
  covered : settlement.order.val.totalAmountFen ≤ settlement.account.val.balanceFen
  payment : ∃ paymentNo callbackTime, BeijingTime.epochToBeijing req.timestamp = some callbackTime ∧
    settlement.payment.val = (PaymentService.buildPayment req rawBody paymentNo callbackTime
      settlement.order.val.totalAmountFen).stored
  flow : settlement.flow.val =
    { accountNo := settlement.account.val.accountNo
      bizType := .kPayment
      direction := .kOut
      amountFen := settlement.order.val.totalAmountFen
      beforeFen := settlement.account.val.balanceFen
      afterFen := settlement.account.val.balanceFen - settlement.order.val.totalAmountFen
      orderNo := req.orderNo
      requestId := req.requestId }
  message : ∃ messageId nextRetryTime, settlement.message.val =
    { PaymentService.buildMessage P req settlement.order.val messageId with
      nextRetryTime := nextRetryTime }
  paymentUnused : RowNumbers (· ≠ settlement.payment.id) before
  flowUnused : RowNumbers (· ≠ settlement.flow.id) before
  messageUnused : RowNumbers (· ≠ settlement.message.id) before
  paymentFree : before.hasPaymentKey P.collate settlement.payment.val = false
  flowFree : before.hasFlowKey P.collate settlement.flow.val = false
  messageFree : before.hasMessageKey P.collate settlement.message.val = false
  latest : ∀ row ∈ before.flows,
    P.collate row.val.accountNo = P.collate settlement.account.val.accountNo →
      row.id < settlement.flow.id
  orders : Replaced before.orders after.orders settlement.order settlement.paidOrder
  accounts : Replaced before.accounts after.accounts settlement.account settlement.debited
  payments : after.payments = before.payments ++ [settlement.payment]
  flows : after.flows = before.flows ++ [settlement.flow]
  messages : after.messages = before.messages ++ [settlement.message]
  products : after.products = before.products
  idempotents : after.idempotents = before.idempotents
  batches : after.batches = before.batches
  diffs : after.diffs = before.diffs

/-- The rows of one reconciled day and the two sides they were computed from: the local one
from a snapshot, the channel's from the bill. -/
structure Reconciliation where
  batch : Row ReconcileBatch
  diffs : List (Row ReconcileDiff)
  locals : List ReconcileSideRow
  channels : List ReconcileSideRow

namespace Reconciliation

/-- The keys that a reconciliation holds at its commit. Its differences have no key but their
row numbers. -/
def locks (collate : String → String) (reconciliation : Reconciliation) : List Lock :=
  [.rowNumber reconciliation.batch.id, .batchNo (collate reconciliation.batch.val.batchNo),
    .batchDate reconciliation.batch.val.billDate (collate reconciliation.batch.val.channel)] ++
    reconciliation.diffs.map fun row => .rowNumber row.id

end Reconciliation

/-- The local side of a day: its payments as they stood in some database. Which database that
is, and where it stands in the run, is said where the run's snapshot is known. -/
def LocalSide (collate : String → String) (billDate : String) (db : Db)
    (locals : List ReconcileSideRow) : Prop :=
  ∃ day, BeijingTime.parseDateTime (billDate ++ " 00:00:00") = some day ∧
    locals = (db.paymentsOfDay collate ReconcileService.kChannel day).map fun row =>
      ⟨row.val.channelTradeNo, row.val.orderNo, row.val.amountFen⟩

/-- The row that a difference of a batch becomes. -/
def ReconcileService.storedDiff (batchNo : String) (diff : ClassifiedDiff) : ReconcileDiff :=
  (buildDiff batchNo diff).stored

/-- One day reconciled, against the payments of an earlier snapshot. Nothing ties the snapshot
to the database before; where a run takes it from is said about runs. -/
structure Reconciled (collate : String → String) (billDate bill : String) (snapshot : Db)
    (reconciliation : Reconciliation) (before after : Db) : Prop where
  keys : Schema collate snapshot
  parsed : ReconcileService.parseBill bill = some reconciliation.channels
  locals : LocalSide collate billDate snapshot reconciliation.locals
  batch : ∃ batchNo, reconciliation.batch.val = ReconcileService.buildBatch billDate batchNo
    reconciliation.locals reconciliation.channels
    (classifyReconcileDiffs reconciliation.locals reconciliation.channels)
  diffs : reconciliation.diffs.map Row.val =
    (classifyReconcileDiffs reconciliation.locals reconciliation.channels).map
      (ReconcileService.storedDiff reconciliation.batch.val.batchNo)
  batchFits : reconciliation.batch.val.fits = true
  diffsFit : ∀ row ∈ reconciliation.diffs, row.val.fits = true
  batchUnused : RowNumbers (· ≠ reconciliation.batch.id) before
  diffsUnused : ∀ row ∈ reconciliation.diffs, RowNumbers (· ≠ row.id) before
  diffsDistinct : UniqueIds reconciliation.diffs
  batchFree : before.hasBatchKey collate reconciliation.batch.val = false
  batches : after.batches = before.batches ++ [reconciliation.batch]
  diffRows : after.diffs = before.diffs ++ reconciliation.diffs
  products : after.products = before.products
  accounts : after.accounts = before.accounts
  flows : after.flows = before.flows
  orders : after.orders = before.orders
  payments : after.payments = before.payments
  idempotents : after.idempotents = before.idempotents
  messages : after.messages = before.messages

/-- The row that an action makes of a difference: its status, the remark as the column stores
it, and the time. The other columns are as they were. -/
def handledRow (row : Row ReconcileDiff) (handleStatus : HandleStatus) (remark : String)
    (handledAt : String) : Row ReconcileDiff :=
  ⟨row.id, { row.val with
    handleStatus := handleStatus
    handleRemark := Varchar.cut 255 remark
    handledAt := handledAt }⟩

/-- One difference handled. `row` is the row before; it was pending, and only its handling
columns change. -/
structure Handled (diffId : Int) (action remark : String) (row : Row ReconcileDiff)
    (before after : Db) : Prop where
  present : row ∈ before.diffs
  named : (row.id : Int) = diffId
  pending : row.val.handleStatus = .kPending
  replaced : ∃ handleStatus handledAt, ReconcileService.handleStatusOf action = some handleStatus ∧
    Replaced before.diffs after.diffs row (handledRow row handleStatus remark handledAt)
  frame : after = { before with diffs := after.diffs }

/-- What a request may do to the committed database in one step. A run may count the payments
of any snapshot here; that it is the one its connection holds, an earlier state of the
same run of the system, is a fact about the run and stated there. -/
inductive Commit (P : Platform) : Call → Db → Db → Prop where
  | placed {req : CreateOrderReq} {placement : Placement} {before after : Db} :
      Placed P req placement before after → Commit P (.createOrder req) before after
  | settled {req : PaymentCallbackReq} {rawBody : String} {settlement : Settlement}
      {before after : Db} :
      Settled P req rawBody settlement before after →
        Commit P (.handleCallback req rawBody) before after
  | reconciled {billDate bill : String} {snapshot : Db} {reconciliation : Reconciliation}
      {before after : Db} :
      Reconciled P.collate billDate bill snapshot reconciliation before after →
        Commit P (.reconcile billDate (some bill)) before after
  | handled {diffId : Int} {action remark : String} {row : Row ReconcileDiff} {before after : Db} :
      Handled diffId action remark row before after →
        Commit P (.handleDiff diffId action remark) before after

section Selections

variable {α β : Type}

/-- A selection that hides the new row does not see it arrive. -/
theorem filter_append_hidden {table : List (Row α)} {row : Row α} {p : Row α → Bool}
    (hidden : p row = false) : table.filter p = (table ++ [row]).filter p := by
  simp [List.filter_append, hidden]

end Selections

namespace Placed

variable {P : Platform} {req : CreateOrderReq} {placement : Placement} {before after : Db}

/-- The record is the request's. -/
theorem record_requestId (placed : Placed P req placement before after) :
    placement.record.val.requestId = req.requestId := by
  obtain ⟨clock, made⟩ := placed.record
  rw [made]
  rfl

/-- And so is the order. -/
theorem order_requestId (placed : Placed P req placement before after) :
    placement.order.val.requestId = req.requestId := by
  obtain ⟨orderNo, clock, made⟩ := placed.order
  rw [made]
  rfl

/-- A new order keeps ids and keys unique: its two keys and its request id were found free by
the statements that wrote them, its ids come from the counter, and no other table grows. -/
theorem schema (placed : Placed P req placement before after) (keys : Schema P.collate before) :
    Schema P.collate after where
  productIds := placed.products.ids rfl keys.productIds
  accountIds := placed.accounts ▸ keys.accountIds
  accountNo := placed.accounts ▸ keys.accountNo
  accountUser := placed.accounts ▸ keys.accountUser
  flowIds := placed.flows ▸ keys.flowIds
  flowRequest := placed.flows ▸ keys.flowRequest
  orderIds := placed.orders ▸ uniqueIds_append keys.orderIds placed.orderUnused.orders
  orderNo := by
    rw [placed.orders]
    refine uniqueKey_append keys.orderNo fun row member => ?_
    have free := placed.orderFree
    simp only [Db.hasOrderKey, List.any_eq_false, Bool.or_eq_true, not_or, beq_iff_eq] at free
    exact (free row member).1
  orderRequest := by
    rw [placed.orders]
    refine uniqueKey_append keys.orderRequest fun row member => ?_
    have free := placed.orderFree
    simp only [Db.hasOrderKey, List.any_eq_false, Bool.or_eq_true, not_or, beq_iff_eq] at free
    exact (free row member).2
  paymentIds := placed.payments ▸ keys.paymentIds
  paymentNo := placed.payments ▸ keys.paymentNo
  channelTrade := placed.payments ▸ keys.channelTrade
  idempotentIds := placed.idempotents ▸
    uniqueIds_append keys.idempotentIds placed.recordUnused.idempotents
  idempotentRequest := by
    rw [placed.idempotents]
    refine uniqueKey_append keys.idempotentRequest fun row member => ?_
    have free := placed.requestFree
    simp only [Db.hasIdempotent, List.any_eq_false, beq_iff_eq] at free
    rw [placed.record_requestId]
    exact free row member
  messageIds := placed.messages ▸ keys.messageIds
  messageId := placed.messages ▸ keys.messageId
  batchIds := placed.batches ▸ keys.batchIds
  batchNo := placed.batches ▸ keys.batchNo
  batchDate := placed.batches ▸ keys.batchDate
  diffIds := placed.diffs ▸ keys.diffIds

/-- A property of the old numbers and the two new ones is one of all numbers. -/
theorem rowNumbers (placed : Placed P req placement before after) {holds : Nat → Prop}
    (numbers : RowNumbers holds before) (order : holds placement.order.id)
    (record : holds placement.record.id) : RowNumbers holds after where
  flows := placed.flows ▸ numbers.flows
  orders := by
    rw [placed.orders]
    simpa [or_imp, forall_and] using ⟨numbers.orders, order⟩
  payments := placed.payments ▸ numbers.payments
  idempotents := by
    rw [placed.idempotents]
    simpa [or_imp, forall_and] using ⟨numbers.idempotents, record⟩
  messages := placed.messages ▸ numbers.messages
  batches := placed.batches ▸ numbers.batches
  diffs := placed.diffs ▸ numbers.diffs

/-- A creation adds rows and lowers a stock. -/
theorem evolves (placed : Placed P req placement before after) : Evolves before after where
  products row member := by
    rcases placed.products.mem_before member with rfl | kept
    · exact ⟨_, placed.products.new_mem, rfl, rfl⟩
    · exact ⟨row, kept, rfl, rfl⟩
  accounts row member := ⟨row, placed.accounts ▸ member, rfl, rfl⟩
  orders row member := ⟨row, placed.orders ▸ List.mem_append_left _ member, rfl, rfl, fun _ => rfl⟩
  payments := placed.payments ▸ List.Subset.refl _
  flows := placed.flows ▸ List.Subset.refl _
  messages := placed.messages ▸ List.Subset.refl _
  idempotents := placed.idempotents ▸ List.subset_append_left _ _
  batches := placed.batches ▸ List.Subset.refl _
  diffs row member := ⟨row, placed.diffs ▸ member, rfl, rfl, fun _ => rfl⟩

/-- Placing an order changes nothing behind locks it does not take. Each kind of lock is
looked at once; the rows behind a lock that is free are the old ones, because the new rows
carry other keys. -/
theorem agree (placed : Placed P req placement before after) {lock : Lock}
    (free : lock ∉ placement.locks P.collate) : Agree P.collate lock before after := by
  simp only [Placement.locks, List.mem_cons, List.not_mem_nil, or_false, not_or] at free
  obtain ⟨recordId, request, product, orderId, orderNo, orderRequest⟩ := free
  cases lock with
  | rowNumber number =>
    exact fun unused => placed.rowNumbers unused (fun same => orderId (by rw [same]))
      fun same => recordId (by rw [same])
  | product id =>
    have other : placement.product.id ≠ id := fun same => product (by rw [same])
    exact placed.products.filter_eq _ (by simpa using other) (by simpa [Placement.sold] using other)
  | accountNo key => exact ⟨by rw [placed.accounts], by rw [placed.flows]⟩
  | flowRequest key bizType => simp only [Agree, placed.flows]
  | orderNo key =>
    have other : P.collate placement.order.val.orderNo ≠ key := fun same => orderNo (by rw [same])
    simp only [Agree, placed.orders]
    exact filter_append_hidden (by simpa using other)
  | orderRequest key =>
    intro absent row member
    rw [placed.orders, List.mem_append, List.mem_singleton] at member
    rcases member with old | rfl
    · exact absent row old
    · exact fun same => orderRequest (by rw [same])
  | paymentNo key => simp only [Agree, placed.payments]
  | channelTrade channel tradeNo => simp only [Agree, placed.payments]
  | idempotentRequest key =>
    have other : P.collate placement.record.val.requestId ≠ key := fun same => request (by rw [same])
    simp only [Agree, placed.idempotents]
    exact filter_append_hidden (by simpa using other)
  | messageId key => simp only [Agree, placed.messages]
  | batchNo key => simp only [Agree, placed.batches]
  | batchDate date channel => simp only [Agree, placed.batches]
  | diff diffId => exact fun row member _ => placed.diffs ▸ member

end Placed

namespace Settled

variable {P : Platform} {req : PaymentCallbackReq} {rawBody : String} {settlement : Settlement}
  {before after : Db}

/-- The flow entry is one of the account that was debited. -/
theorem flow_accountNo (settled : Settled P req rawBody settlement before after) :
    settlement.flow.val.accountNo = settlement.account.val.accountNo := by
  rw [settled.flow]

/-- A payment keeps ids and keys unique. The three rows it adds were checked against their
keys when they were written; the order and the account keep their keys and change other
columns only. -/
theorem schema (settled : Settled P req rawBody settlement before after)
    (keys : Schema P.collate before) : Schema P.collate after where
  productIds := settled.products ▸ keys.productIds
  accountIds := settled.accounts.ids rfl keys.accountIds
  accountNo := settled.accounts.key rfl keys.accountNo
  accountUser := settled.accounts.key rfl keys.accountUser
  flowIds := settled.flows ▸ uniqueIds_append keys.flowIds settled.flowUnused.flows
  flowRequest := by
    rw [settled.flows]
    refine uniqueKey_append keys.flowRequest fun row member same => ?_
    have free := settled.flowFree
    simp only [Db.hasFlowKey, List.any_eq_false, Bool.and_eq_true, beq_iff_eq] at free
    exact free row member (Prod.mk.inj same)
  orderIds := settled.orders.ids rfl keys.orderIds
  orderNo := settled.orders.key rfl keys.orderNo
  orderRequest := settled.orders.key rfl keys.orderRequest
  paymentIds := settled.payments ▸ uniqueIds_append keys.paymentIds settled.paymentUnused.payments
  paymentNo := by
    rw [settled.payments]
    refine uniqueKey_append keys.paymentNo fun row member same => ?_
    have free := settled.paymentFree
    simp only [Db.hasPaymentKey, List.any_eq_false, Bool.or_eq_true, not_or, beq_iff_eq] at free
    exact (free row member).1 same
  channelTrade := by
    rw [settled.payments]
    refine uniqueKey_append keys.channelTrade fun row member same => ?_
    have free := settled.paymentFree
    simp only [Db.hasPaymentKey, List.any_eq_false, Bool.or_eq_true, not_or, Bool.and_eq_true,
      beq_iff_eq] at free
    exact (free row member).2 (Prod.mk.inj same)
  idempotentIds := settled.idempotents ▸ keys.idempotentIds
  idempotentRequest := settled.idempotents ▸ keys.idempotentRequest
  messageIds := settled.messages ▸ uniqueIds_append keys.messageIds settled.messageUnused.messages
  messageId := by
    rw [settled.messages]
    refine uniqueKey_append keys.messageId fun row member => ?_
    have free := settled.messageFree
    simp only [Db.hasMessageKey, List.any_eq_false, beq_iff_eq] at free
    exact free row member
  batchIds := settled.batches ▸ keys.batchIds
  batchNo := settled.batches ▸ keys.batchNo
  batchDate := settled.batches ▸ keys.batchDate
  diffIds := settled.diffs ▸ keys.diffIds

/-- A property of the old numbers and the three new ones is one of all numbers. -/
theorem rowNumbers (settled : Settled P req rawBody settlement before after) {holds : Nat → Prop}
    (numbers : RowNumbers holds before) (payment : holds settlement.payment.id)
    (flow : holds settlement.flow.id) (message : holds settlement.message.id) :
    RowNumbers holds after where
  flows := by
    rw [settled.flows]
    simpa [or_imp, forall_and] using ⟨numbers.flows, flow⟩
  orders row member := by
    rcases settled.orders.mem_after member with rfl | old
    · exact numbers.orders settlement.order settled.orderPresent
    · exact numbers.orders row old
  payments := by
    rw [settled.payments]
    simpa [or_imp, forall_and] using ⟨numbers.payments, payment⟩
  idempotents := settled.idempotents ▸ numbers.idempotents
  messages := by
    rw [settled.messages]
    simpa [or_imp, forall_and] using ⟨numbers.messages, message⟩
  batches := settled.batches ▸ numbers.batches
  diffs := settled.diffs ▸ numbers.diffs

/-- A payment adds rows, pays a pending order and lowers a balance. -/
theorem evolves (settled : Settled P req rawBody settlement before after) :
    Evolves before after where
  products row member := ⟨row, settled.products ▸ member, rfl, rfl⟩
  accounts row member := by
    rcases settled.accounts.mem_before member with rfl | kept
    · exact ⟨_, settled.accounts.new_mem, rfl, rfl⟩
    · exact ⟨row, kept, rfl, rfl⟩
  orders row member := by
    rcases settled.orders.mem_before member with rfl | kept
    · exact ⟨_, settled.orders.new_mem, rfl, rfl, fun unpayable => absurd settled.pending unpayable⟩
    · exact ⟨row, kept, rfl, rfl, fun _ => rfl⟩
  payments := settled.payments ▸ List.subset_append_left _ _
  flows := settled.flows ▸ List.subset_append_left _ _
  messages := settled.messages ▸ List.subset_append_left _ _
  idempotents := settled.idempotents ▸ List.Subset.refl _
  batches := settled.batches ▸ List.Subset.refl _
  diffs row member := ⟨row, settled.diffs ▸ member, rfl, rfl, fun _ => rfl⟩

/-- Settling a callback changes nothing behind locks it does not take. An added row is
invisible behind any key but its own, and a replaced row behind any lock but its account's or
its order's. -/
theorem agree (settled : Settled P req rawBody settlement before after) {lock : Lock}
    (free : lock ∉ settlement.locks P.collate) : Agree P.collate lock before after := by
  simp only [Settlement.locks, List.mem_cons, List.not_mem_nil, or_false, not_or] at free
  obtain ⟨paymentId, paymentNo, trade, orderNo, accountNo, flowId, flowRequest, messageId,
    messageNo⟩ := free
  cases lock with
  | rowNumber number =>
    exact fun unused => settled.rowNumbers unused (fun same => paymentId (by rw [same]))
      (fun same => flowId (by rw [same])) fun same => messageId (by rw [same])
  | product id => simp only [Agree, settled.products]
  | accountNo key =>
    have other : P.collate settlement.account.val.accountNo ≠ key :=
      fun same => accountNo (by rw [same])
    refine ⟨settled.accounts.filter_eq _ (by simpa using other)
      (by simpa [Settlement.debited] using other), ?_⟩
    rw [settled.flows]
    exact filter_append_hidden (by simpa [settled.flow_accountNo] using other)
  | flowRequest key bizType =>
    simp only [Agree, settled.flows]
    apply filter_append_hidden
    simp only [Bool.and_eq_false_iff, beq_eq_false_iff_ne]
    by_contra both
    simp only [not_or, not_not] at both
    exact flowRequest (by rw [both.1, both.2])
  | orderNo key =>
    have other : P.collate settlement.order.val.orderNo ≠ key := fun same => orderNo (by rw [same])
    exact settled.orders.filter_eq _ (by simpa using other)
      (by simpa [Settlement.paidOrder] using other)
  | orderRequest key =>
    intro absent row member
    rcases settled.orders.mem_after member with rfl | old
    · exact absent settlement.order settled.orderPresent
    · exact absent row old
  | paymentNo key =>
    have other : P.collate settlement.payment.val.paymentNo ≠ key :=
      fun same => paymentNo (by rw [same])
    simp only [Agree, settled.payments]
    exact filter_append_hidden (by simpa using other)
  | channelTrade channel tradeNo =>
    simp only [Agree, settled.payments]
    apply filter_append_hidden
    simp only [Bool.and_eq_false_iff, beq_eq_false_iff_ne]
    by_contra both
    simp only [not_or, not_not] at both
    exact trade (by rw [both.1, both.2])
  | idempotentRequest key => simp only [Agree, settled.idempotents]
  | messageId key =>
    have other : P.collate settlement.message.val.messageId ≠ key :=
      fun same => messageNo (by rw [same])
    simp only [Agree, settled.messages]
    exact filter_append_hidden (by simpa using other)
  | batchNo key => simp only [Agree, settled.batches]
  | batchDate date channel => simp only [Agree, settled.batches]
  | diff diffId => exact fun row member _ => settled.diffs ▸ member

end Settled

namespace Reconciled

variable {collate : String → String} {billDate bill : String} {snapshot : Db}
  {reconciliation : Reconciliation} {before after : Db}

/-- A reconciliation keeps ids and keys unique. The batch was found free under its number and
its day; the differences have no key but their ids, which are new and distinct. -/
theorem schema (reconciled : Reconciled collate billDate bill snapshot reconciliation before after)
    (keys : Schema collate before) : Schema collate after where
  productIds := reconciled.products ▸ keys.productIds
  accountIds := reconciled.accounts ▸ keys.accountIds
  accountNo := reconciled.accounts ▸ keys.accountNo
  accountUser := reconciled.accounts ▸ keys.accountUser
  flowIds := reconciled.flows ▸ keys.flowIds
  flowRequest := reconciled.flows ▸ keys.flowRequest
  orderIds := reconciled.orders ▸ keys.orderIds
  orderNo := reconciled.orders ▸ keys.orderNo
  orderRequest := reconciled.orders ▸ keys.orderRequest
  paymentIds := reconciled.payments ▸ keys.paymentIds
  paymentNo := reconciled.payments ▸ keys.paymentNo
  channelTrade := reconciled.payments ▸ keys.channelTrade
  idempotentIds := reconciled.idempotents ▸ keys.idempotentIds
  idempotentRequest := reconciled.idempotents ▸ keys.idempotentRequest
  messageIds := reconciled.messages ▸ keys.messageIds
  messageId := reconciled.messages ▸ keys.messageId
  batchIds := reconciled.batches ▸ uniqueIds_append keys.batchIds reconciled.batchUnused.batches
  batchNo := by
    rw [reconciled.batches]
    refine uniqueKey_append keys.batchNo fun row member => ?_
    have free := reconciled.batchFree
    simp only [Db.hasBatchKey, List.any_eq_false, Bool.or_eq_true, not_or, beq_iff_eq] at free
    exact (free row member).1
  batchDate := by
    rw [reconciled.batches]
    refine uniqueKey_append keys.batchDate fun row member same => ?_
    have free := reconciled.batchFree
    simp only [Db.hasBatchKey, List.any_eq_false, Bool.or_eq_true, not_or, Bool.and_eq_true,
      beq_iff_eq] at free
    exact (free row member).2 (Prod.mk.inj same)
  diffIds := by
    rw [reconciled.diffRows, UniqueIds, List.map_append]
    refine List.nodup_append.mpr ⟨keys.diffIds, reconciled.diffsDistinct, ?_⟩
    intro number old other new same
    obtain ⟨row, member, rfl⟩ := List.mem_map.mp old
    obtain ⟨diff, added, rfl⟩ := List.mem_map.mp new
    exact (reconciled.diffsUnused diff added).diffs row member same

/-- A property of the old numbers and the new ones is one of all numbers. -/
theorem rowNumbers
    (reconciled : Reconciled collate billDate bill snapshot reconciliation before after)
    {holds : Nat → Prop} (numbers : RowNumbers holds before)
    (batch : holds reconciliation.batch.id) (diffs : ∀ row ∈ reconciliation.diffs, holds row.id) :
    RowNumbers holds after where
  flows := reconciled.flows ▸ numbers.flows
  orders := reconciled.orders ▸ numbers.orders
  payments := reconciled.payments ▸ numbers.payments
  idempotents := reconciled.idempotents ▸ numbers.idempotents
  messages := reconciled.messages ▸ numbers.messages
  batches := by
    rw [reconciled.batches]
    simpa [or_imp, forall_and] using ⟨numbers.batches, batch⟩
  diffs := by
    rw [reconciled.diffRows]
    simpa [or_imp, forall_and] using ⟨numbers.diffs, diffs⟩

/-- Reconciling leaves every table but its own two alone. -/
theorem frame (reconciled : Reconciled collate billDate bill snapshot reconciliation before after) :
    after = { before with batches := after.batches, diffs := after.diffs } := by
  cases before
  cases after
  simp only [Db.mk.injEq]
  exact ⟨reconciled.products, reconciled.accounts, reconciled.flows, reconciled.orders,
    reconciled.payments, reconciled.idempotents, reconciled.messages, trivial, trivial⟩

/-- A reconciliation adds a batch and its differences. -/
theorem evolves
    (reconciled : Reconciled collate billDate bill snapshot reconciliation before after) :
    Evolves before after where
  products row member := ⟨row, reconciled.products ▸ member, rfl, rfl⟩
  accounts row member := ⟨row, reconciled.accounts ▸ member, rfl, rfl⟩
  orders row member := ⟨row, reconciled.orders ▸ member, rfl, rfl, fun _ => rfl⟩
  payments := reconciled.payments ▸ List.Subset.refl _
  flows := reconciled.flows ▸ List.Subset.refl _
  messages := reconciled.messages ▸ List.Subset.refl _
  idempotents := reconciled.idempotents ▸ List.Subset.refl _
  batches := reconciled.batches ▸ List.subset_append_left _ _
  diffs row member :=
    ⟨row, reconciled.diffRows ▸ List.mem_append_left _ member, rfl, rfl, fun _ => rfl⟩

/-- Reconciling changes nothing behind locks it does not take. Only the batch and the
differences are added, so the locks of all other tables see the same rows. -/
theorem agree (reconciled : Reconciled collate billDate bill snapshot reconciliation before after)
    {lock : Lock} (free : lock ∉ reconciliation.locks collate) :
    Agree collate lock before after := by
  simp only [Reconciliation.locks, List.mem_append, List.mem_cons, List.not_mem_nil, or_false,
    not_or, List.mem_map, not_exists, not_and] at free
  obtain ⟨⟨batchId, batchNo, batchDate⟩, diffIds⟩ := free
  cases lock with
  | rowNumber number =>
    exact fun unused => reconciled.rowNumbers unused (fun same => batchId (by rw [same]))
      fun row member same => diffIds row member (by rw [same])
  | product id => simp only [Agree, reconciled.products]
  | accountNo key => exact ⟨by rw [reconciled.accounts], by rw [reconciled.flows]⟩
  | flowRequest key bizType => simp only [Agree, reconciled.flows]
  | orderNo key => simp only [Agree, reconciled.orders]
  | orderRequest key => simp only [Agree, reconciled.orders, imp_self]
  | paymentNo key => simp only [Agree, reconciled.payments]
  | channelTrade channel tradeNo => simp only [Agree, reconciled.payments]
  | idempotentRequest key => simp only [Agree, reconciled.idempotents]
  | messageId key => simp only [Agree, reconciled.messages]
  | batchNo key =>
    have other : collate reconciliation.batch.val.batchNo ≠ key := fun same => batchNo (by rw [same])
    simp only [Agree, reconciled.batches]
    exact filter_append_hidden (by simpa using other)
  | batchDate date channel =>
    simp only [Agree, reconciled.batches]
    apply filter_append_hidden
    simp only [Bool.and_eq_false_iff, beq_eq_false_iff_ne]
    by_contra both
    simp only [not_or, not_not] at both
    exact batchDate (by rw [both.1, both.2])
  | diff diffId => exact fun row member _ => reconciled.diffRows ▸ List.mem_append_left _ member

end Reconciled

namespace Handled

variable {diffId : Int} {action remark : String} {row : Row ReconcileDiff} {before after : Db}

/-- The status an action stands for is one of the two final ones. -/
theorem final {handleStatus : HandleStatus}
    (asked : ReconcileService.handleStatusOf action = some handleStatus) :
    handleStatus ≠ .kPending := by
  unfold ReconcileService.handleStatusOf at asked
  rintro rfl
  split at asked
  · cases asked
  · split at asked <;> cases asked

/-- A handled difference is the same row. -/
theorem schema {collate : String → String} (handled : Handled diffId action remark row before after)
    (keys : Schema collate before) : Schema collate after := by
  obtain ⟨handleStatus, handledAt, _, replaced⟩ := handled.replaced
  have ids : UniqueIds after.diffs := replaced.ids rfl keys.diffIds
  rw [handled.frame]
  exact { keys with diffIds := ids }

/-- Handling inserts no row. -/
theorem rowNumbers (handled : Handled diffId action remark row before after) {holds : Nat → Prop}
    (numbers : RowNumbers holds before) : RowNumbers holds after := by
  obtain ⟨handleStatus, handledAt, _, replaced⟩ := handled.replaced
  have kept : ∀ diff ∈ after.diffs, holds diff.id := by
    intro diff member
    rcases replaced.mem_after member with rfl | old
    · exact numbers.diffs row handled.present
    · exact numbers.diffs diff old
  rw [handled.frame]
  exact { numbers with diffs := kept }

/-- Only a pending difference is handled. -/
theorem evolves (handled : Handled diffId action remark row before after) :
    Evolves before after := by
  obtain ⟨handleStatus, handledAt, _, replaced⟩ := handled.replaced
  have moved : ∀ diff ∈ before.diffs, ∃ later ∈ after.diffs, later.id = diff.id ∧
      later.val = { diff.val with
        handleStatus := later.val.handleStatus
        handleRemark := later.val.handleRemark
        handledAt := later.val.handledAt } ∧
      (diff.val.handleStatus ≠ .kPending → later = diff) := by
    intro diff member
    rcases replaced.mem_before member with rfl | kept
    · exact ⟨_, replaced.new_mem, rfl, rfl, fun settled => absurd handled.pending settled⟩
    · exact ⟨diff, kept, rfl, rfl, fun _ => rfl⟩
  rw [handled.frame]
  exact { Evolves.refl before with diffs := moved }

/-- Handling changes nothing behind a lock on another difference. Every table but the
differences is the same, and of these the other rows are. -/
theorem agree {collate : String → String} (handled : Handled diffId action remark row before after)
    {lock : Lock} (free : lock ≠ .diff diffId) : Agree collate lock before after := by
  obtain ⟨handleStatus, handledAt, _, replaced⟩ := handled.replaced
  have same := Agree.refl collate lock before
  cases lock with
  | rowNumber number => exact fun unused => handled.rowNumbers unused
  | diff other =>
    intro diff member named
    rcases replaced.mem_before member with rfl | kept
    · exact absurd (by rw [← named, handled.named]) free
    · exact kept
  | _ =>
    rw [handled.frame]
    exact same

end Handled

namespace Commit

variable {P : Platform} {call : Call} {before after : Db}

/-- Every commit keeps ids and keys unique, whatever the call. One case for each kind of
commit. -/
theorem schema (commit : Commit P call before after) (keys : Schema P.collate before) :
    Schema P.collate after := by
  cases commit with
  | placed placed => exact placed.schema keys
  | settled settled => exact settled.schema keys
  | reconciled reconciled => exact reconciled.schema keys
  | handled handled => exact handled.schema keys

/-- Every commit is a step of the database's evolution. -/
theorem evolves (commit : Commit P call before after) : Evolves before after := by
  cases commit with
  | placed placed => exact placed.evolves
  | settled settled => exact settled.evolves
  | reconciled reconciled => exact reconciled.evolves
  | handled handled => exact handled.evolves

end Commit

end TradeReconcile
