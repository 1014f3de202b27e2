import TradeReconcile.Models
import TradeReconcile.BeijingTime
import TradeReconcile.Transactions.Program
import TradeReconcile.Transactions.Tables
import TradeReconcile.Varchar

/-!
# Tables, statements and locks of the trade database

One constructor of `Stmt` stands for one SQL text of a DAO. Its meaning follows
the text: the WHERE clause selects rows, the unique keys and CHECK constraints of
the schema reject or deduplicate inserts, and the affected row count is the one
the connection reports (a no-op update counts zero rows). Text comparison in
WHERE clauses and unique keys goes through the column's collation, given by the
function `collate` that maps equal texts to one key.

A text whose trailing spaces run past its column is stored without the excess, in
every SQL mode. This concerns the texts that come from outside as they are: trade
numbers, raw bodies, the fields of a bill line and remarks. The others cannot have
such an excess: ids and numbers of the generator are digits, request ids have passed
the filter, order numbers have been found equal to a stored one, and JSON texts and
the configured addresses end in other characters.

An UPDATE locks the row named by its unique key, an INSERT the keys it claims
and the row number it was given, both for itself alone and all at once. The server
also takes shared locks on duplicate keys and locks on the gaps between keys. These
make statements wait and can end in deadlocks among the services themselves, which
the server resolves by undoing one of the transactions; here any statement may fail
and undo its transaction, but no statement waits for such a lock, so nothing is
proved about waiting. Columns that nothing reads (version counters and audit times)
are left out too.
-/

namespace TradeReconcile

open Transactions

/-- What a step takes from outside: the id generator's answer, none when it
throws, and a reading of the clock. -/
structure Env where
  nextId : Option String
  clock : Int
deriving DecidableEq

/-- Exceptions of the database driver and other standard exceptions. -/
inductive Fault where
  | db
  | std
deriving DecidableEq

/-- The tables of `schema.sql` that the services read or write. -/
structure Db where
  products : List (Row Product) := []
  accounts : List (Row Account) := []
  flows : List (Row AccountFlow) := []
  orders : List (Row Order) := []
  payments : List (Row Payment) := []
  idempotents : List (Row Idempotent) := []
  messages : List (Row LocalMessage) := []
  batches : List (Row ReconcileBatch) := []
  diffs : List (Row ReconcileDiff) := []
deriving DecidableEq

/-- A row image of one table. -/
inductive Change where
  | product : Row Product → Change
  | account : Row Account → Change
  | flow : Row AccountFlow → Change
  | order : Row Order → Change
  | payment : Row Payment → Change
  | idempotent : Row Idempotent → Change
  | message : Row LocalMessage → Change
  | batch : Row ReconcileBatch → Change
  | diff : Row ReconcileDiff → Change

/-- Index entries that a statement can lock. Texts are collation keys, so that two spellings
of one key meet in one lock. -/
inductive Lock where
  | rowNumber : Nat → Lock
  | product : Nat → Lock
  | accountNo : String → Lock
  | flowRequest : String → FlowBizType → Lock
  | orderNo : String → Lock
  | orderRequest : String → Lock
  | paymentNo : String → Lock
  | channelTrade : String → String → Lock
  | idempotentRequest : String → Lock
  | messageId : String → Lock
  | batchNo : String → Lock
  | batchDate : String → String → Lock
  | diff : Int → Lock
deriving DecidableEq

/-- The SQL texts, with their bound parameters. There is one for each statement of the DAOs
that the services use. -/
inductive Stmt where
  | idempotentInsert : Idempotent → Stmt
  | idempotentSelect : String → Stmt
  | idempotentMarkSuccess : String → String → Stmt
  | productGetById : Nat → Stmt
  | productDeductStock : Nat → Int → Stmt
  | orderInsert : Order → Stmt
  | orderGetByOrderNo : String → Stmt
  | orderMarkPaid : String → Stmt
  | paymentInsertWithDedup : Payment → Stmt
  | paymentGetByChannelTradeNo : String → String → Stmt
  | accountGetByUserId : Nat → Stmt
  | accountDeduct : String → Int → Stmt
  | accountInsertFlow : AccountFlow → Stmt
  | messageInsert : LocalMessage → Stmt
  | hasBatchForDate : String → String → Stmt
  | localRows : String → String → Stmt
  | batchInsert : ReconcileBatch → Stmt
  | diffInsert : ReconcileDiff → Stmt
  | diffList : String → Nat → Stmt
  | diffGetById : Int → Stmt
  | diffHandle : Int → HandleStatus → String → Stmt

/-- Result sets and affected row counts. -/
@[reducible] def Resp : Stmt → Type
  | .idempotentInsert _ => Nat
  | .idempotentSelect _ => Option (IdempotentStatus × String)
  | .idempotentMarkSuccess _ _ => Nat
  | .productGetById _ => Option Product
  | .productDeductStock _ _ => Nat
  | .orderInsert _ => Nat
  | .orderGetByOrderNo _ => Option Order
  | .orderMarkPaid _ => Nat
  | .paymentInsertWithDedup _ => Nat
  | .paymentGetByChannelTradeNo _ _ => Option Payment
  | .accountGetByUserId _ => Option Account
  | .accountDeduct _ _ => Nat
  | .accountInsertFlow _ => Nat
  | .messageInsert _ => Nat
  | .hasBatchForDate _ _ => Bool
  | .localRows _ _ => List ReconcileSideRow
  | .batchInsert _ => Nat
  | .diffInsert _ => Nat
  | .diffList _ _ => List (Row ReconcileDiff)
  | .diffGetById _ => Option ReconcileDiff
  | .diffHandle _ _ _ => Nat

/-! Texts as their columns take them. -/

/-- The payment row that an INSERT leaves. -/
def Payment.stored (payment : Payment) : Payment :=
  { payment with
    channelTradeNo := Varchar.cut 64 payment.channelTradeNo
    rawBody := Varchar.cutBytes (2 ^ 16 - 1) payment.rawBody }

/-- The difference row that an INSERT leaves. -/
def ReconcileDiff.stored (diff : ReconcileDiff) : ReconcileDiff :=
  { diff with
    orderNo := Varchar.cut 32 diff.orderNo
    channelTradeNo := Varchar.cut 64 diff.channelTradeNo }

/-! Column types and CHECK constraints: an insert that violates them is rejected. -/

/-- The columns hold the record. -/
def Idempotent.fits (record : Idempotent) : Bool :=
  record.requestId.length ≤ 64 && record.userId < 2 ^ 63 && record.apiPath.length ≤ 128 &&
    record.requestHash.length ≤ 64 && (BeijingTime.parseDateTime record.expireTime).isSome

/-- The columns hold the order. The checks of the table on quantity and total are part of
it. -/
def Order.fits (order : Order) : Bool :=
  order.orderNo.length ≤ 32 && order.requestId.length ≤ 64 && order.userId < 2 ^ 63 &&
    order.productId < 2 ^ 63 && 0 < order.quantity && order.quantity < 2 ^ 32 &&
    fitsDecimal order.unitPriceFen && fitsDecimal order.totalAmountFen &&
    0 ≤ order.totalAmountFen && (BeijingTime.parseDateTime order.expireTime).isSome

/-- The columns hold the payment. Texts are measured as they are stored, without the spaces
past their columns' ends. -/
def Payment.fits (payment : Payment) : Bool :=
  payment.paymentNo.length ≤ 32 && payment.orderNo.length ≤ 32 && payment.channel.length ≤ 16 &&
    payment.channelTradeNo.length ≤ 64 && fitsDecimal payment.amountFen &&
    (BeijingTime.parseDateTime payment.callbackTime).isSome && payment.rawBody.utf8ByteSize < 2 ^ 16

/-- The columns hold the flow entry; the table checks that its amount is positive. -/
def AccountFlow.fits (flow : AccountFlow) : Bool :=
  flow.accountNo.length ≤ 32 && 0 < flow.amountFen && fitsDecimal flow.amountFen &&
    fitsDecimal flow.beforeFen && fitsDecimal flow.afterFen && flow.orderNo.length ≤ 32 &&
    flow.requestId.length ≤ 64

/-- The columns hold the message. -/
def LocalMessage.fits (message : LocalMessage) : Bool :=
  message.messageId.length ≤ 64 && message.bizType.length ≤ 32 && message.bizId.length ≤ 64 &&
    message.exchange.length ≤ 128 && message.routingKey.length ≤ 128 &&
    message.payload.utf8ByteSize < 2 ^ 16

/-- The columns hold the batch. -/
def ReconcileBatch.fits (batch : ReconcileBatch) : Bool :=
  batch.batchNo.length ≤ 32 &&
    (BeijingTime.parseDateTime (batch.billDate ++ " 00:00:00")).isSome &&
    batch.channel.length ≤ 16 && batch.totalCount < 2 ^ 32 && fitsDecimal batch.totalAmountFen &&
    batch.channelCount < 2 ^ 32 && fitsDecimal batch.channelAmountFen && batch.diffCount < 2 ^ 32

/-- The columns hold the difference. -/
def ReconcileDiff.fits (diff : ReconcileDiff) : Bool :=
  diff.batchNo.length ≤ 32 && diff.orderNo.length ≤ 32 && diff.channelTradeNo.length ≤ 64 &&
    fitsDecimal diff.localAmountFen && fitsDecimal diff.channelAmountFen &&
    fitsDecimal diff.diffAmountFen

/-- Overlay one row image: the row of that id is replaced, or the image is appended if there
is none. -/
def Db.put (db : Db) : Change → Db
  | .product row => { db with products := putRow db.products row }
  | .account row => { db with accounts := putRow db.accounts row }
  | .flow row => { db with flows := putRow db.flows row }
  | .order row => { db with orders := putRow db.orders row }
  | .payment row => { db with payments := putRow db.payments row }
  | .idempotent row => { db with idempotents := putRow db.idempotents row }
  | .message row => { db with messages := putRow db.messages row }
  | .batch row => { db with batches := putRow db.batches row }
  | .diff row => { db with diffs := putRow db.diffs row }

section Statements

variable (collate : String → String)

/-- An INSERT of one row: rejected by the column types or by a unique key. -/
def insertRow {α : Type} (fits clash : Bool) (change : Row α → Change) (id : Nat) (value : α) :
    Except Fault (Nat × List Change) :=
  if !fits || clash then .error .db else .ok (1, [change ⟨id, value⟩])

/-- An INSERT with a no-op ON DUPLICATE KEY UPDATE: a clash affects no row. -/
def insertOrKeep {α : Type} (fits clash : Bool) (change : Row α → Change) (id : Nat) (value : α) :
    Except Fault (Nat × List Change) :=
  if !fits then .error .db else if clash then .ok (0, []) else .ok (1, [change ⟨id, value⟩])

/-- An INSERT that went through found the row well typed and its keys free. -/
theorem insertRow_ok {α : Type} {fits clash : Bool} {change : Row α → Change} {id : Nat}
    {value : α} {affected : Nat} {changes : List Change}
    (ran : insertRow fits clash change id value = .ok (affected, changes)) :
    fits = true ∧ clash = false ∧ affected = 1 ∧ changes = [change ⟨id, value⟩] := by
  cases fits <;> cases clash <;> simp_all [insertRow, eq_comm]

/-- A deduplicating INSERT either wrote its row or found a key taken. -/
theorem insertOrKeep_ok {α : Type} {fits clash : Bool} {change : Row α → Change} {id : Nat}
    {value : α} {affected : Nat} {changes : List Change}
    (ran : insertOrKeep fits clash change id value = .ok (affected, changes)) :
    fits = true ∧ ((clash = true ∧ affected = 0 ∧ changes = []) ∨
      (clash = false ∧ affected = 1 ∧ changes = [change ⟨id, value⟩])) := by
  cases fits <;> cases clash <;> simp_all [insertOrKeep, eq_comm]

/-- An UPDATE: one image for every row the WHERE clause selects. -/
def updateRows {α : Type} (table : List (Row α)) (selects : Row α → Bool) (set : α → α)
    (change : Row α → Change) : Nat × List Change :=
  let rows := table.filter selects
  (rows.length, rows.map fun row => change ⟨row.id, set row.val⟩)

/-- An UPDATE within one value of a duplicate-free attribute writes one row or none. -/
theorem updateRows_unique {α β : Type} {table : List (Row α)} {selects : Row α → Bool}
    {set : α → α} {change : Row α → Change} {affected : Nat} {changes : List Change}
    {column : Row α → β} {value : β}
    (ran : updateRows table selects set change = (affected, changes))
    (nodup : (table.map column).Nodup)
    (selective : ∀ row ∈ table, selects row = true → column row = value) :
    (affected = 0 ∧ changes = [] ∧ ∀ row ∈ table, selects row = false) ∨
      ∃ row ∈ table, selects row = true ∧ affected = 1 ∧
        changes = [change ⟨row.id, set row.val⟩] := by
  simp only [updateRows, Prod.mk.injEq] at ran
  obtain ⟨rfl, rfl⟩ := ran
  rcases filter_atMostOne nodup selective with none | ⟨row, member, selected, one⟩
  · exact .inl ⟨by simp [none], by simp [none], by simpa using List.filter_eq_nil_iff.mp none⟩
  · exact .inr ⟨row, member, selected, by simp [one], by simp [one]⟩

/-- The unique keys, one definition for each table: some row has the key. -/
def Db.hasIdempotent (db : Db) (requestId : String) : Bool :=
  db.idempotents.any fun row => collate row.val.requestId == collate requestId

/-- An order with this number or this request id. -/
def Db.hasOrderKey (db : Db) (order : Order) : Bool :=
  db.orders.any fun row => collate row.val.orderNo == collate order.orderNo ||
    collate row.val.requestId == collate order.requestId

/-- A payment with this number, or with this trade number of the channel. -/
def Db.hasPaymentKey (db : Db) (payment : Payment) : Bool :=
  db.payments.any fun row => collate row.val.paymentNo == collate payment.paymentNo ||
    (collate row.val.channel == collate payment.channel &&
      collate row.val.channelTradeNo == collate payment.channelTradeNo)

/-- A flow entry of this request and type of business. -/
def Db.hasFlowKey (db : Db) (flow : AccountFlow) : Bool :=
  db.flows.any fun row => collate row.val.requestId == collate flow.requestId &&
    row.val.bizType == flow.bizType

/-- A message with this id. -/
def Db.hasMessageKey (db : Db) (message : LocalMessage) : Bool :=
  db.messages.any fun row => collate row.val.messageId == collate message.messageId

/-- A batch with this number, or of this date and channel. -/
def Db.hasBatchKey (db : Db) (batch : ReconcileBatch) : Bool :=
  db.batches.any fun row => collate row.val.batchNo == collate batch.batchNo ||
    (row.val.billDate == batch.billDate && collate row.val.channel == collate batch.channel)

/-- The lookups, one definition for each query: the row with the key, if there is one. -/
def Db.findOrder (db : Db) (orderNo : String) : Option (Row Order) :=
  db.orders.find? fun row => collate row.val.orderNo == collate orderNo

/-- The payment with a trade number of a channel. -/
def Db.findPayment (db : Db) (channel channelTradeNo : String) : Option (Row Payment) :=
  db.payments.find? fun row => collate row.val.channel == collate channel &&
    collate row.val.channelTradeNo == collate channelTradeNo

/-- The record of a request id. -/
def Db.findIdempotent (db : Db) (requestId : String) : Option (Row Idempotent) :=
  db.idempotents.find? fun row => collate row.val.requestId == collate requestId

/-- The account of a user. -/
def Db.findAccount (db : Db) (userId : Nat) : Option (Row Account) :=
  db.accounts.find? fun row => row.val.userId == userId

/-- The product with an id. -/
def Db.findProduct (db : Db) (productId : Nat) : Option (Row Product) :=
  db.products.find? fun row => row.id == productId

/-- The payments of one channel and day, in the order of their row numbers. -/
def Db.paymentsOfDay (db : Db) (channel : String) (day : Int) : List (Row Payment) :=
  (db.payments.filter fun row => collate row.val.channel == collate channel &&
    row.val.status == .kSuccess && BeijingTime.inWindow day row.val.callbackTime).mergeSort
      fun one two => decide (one.id ≤ two.id)

/-- The differences of one batch, in the order of their row numbers. -/
def Db.diffsOf (db : Db) (batchNo : String) : List (Row ReconcileDiff) :=
  (db.diffs.filter fun row => collate row.val.batchNo == collate batchNo).mergeSort
    fun one two => decide (one.id ≤ two.id)

/-- The WHERE clause of the conditional handling: the difference is not handled yet. -/
def handleable (diffId : Int) (row : Row ReconcileDiff) : Bool :=
  decide ((row.id : Int) = diffId) && row.val.handleStatus == .kPending

/-- The difference with this id is still pending. -/
theorem handleable_iff {diffId : Int} {row : Row ReconcileDiff} :
    handleable diffId row = true ↔ (row.id : Int) = diffId ∧ row.val.handleStatus = .kPending := by
  simp [handleable]

/-- The WHERE clause of the conditional deduction: a normal account that covers
the amount. -/
def deductible (accountNo : String) (amountFen : Int) (row : Row Account) : Bool :=
  collate row.val.accountNo == collate accountNo && row.val.status == 0 &&
    decide (amountFen ≤ row.val.balanceFen)

/-- Execute one statement against the database it reads. It yields the reply with the row
images it writes, or the server's exception where a column or a key rejects a row. -/
def execute : (s : Stmt) → Nat → Env → Db → Except Fault (Resp s × List Change)
  | .idempotentInsert record, id, _, db =>
    insertOrKeep record.fits (db.hasIdempotent collate record.requestId) .idempotent id
      { record with status := .kProcessing, responseBody := "" }
  | .idempotentSelect requestId, _, _, db =>
    .ok ((db.findIdempotent collate requestId).map fun row =>
      (row.val.status, row.val.responseBody), [])
  | .idempotentMarkSuccess requestId responseBody, _, _, db =>
    if 2 ^ 16 ≤ responseBody.utf8ByteSize then .error .db else
      .ok (updateRows db.idempotents
        (fun row => collate row.val.requestId == collate requestId &&
          row.val.status == .kProcessing)
        (fun record => { record with status := .kSuccess, responseBody := responseBody })
        .idempotent)
  | .productGetById productId, _, _, db => .ok ((db.findProduct productId).map (·.val), [])
  | .productDeductStock productId quantity, _, _, db =>
    .ok (updateRows db.products
      (fun row => row.id == productId && decide (quantity ≤ row.val.stock) && row.val.status == 1)
      (fun product => { product with stock := product.stock - quantity }) .product)
  | .orderInsert order, id, _, db =>
    insertRow order.fits (db.hasOrderKey collate order) .order id { order with paidAt := "" }
  | .orderGetByOrderNo orderNo, _, _, db => .ok ((db.findOrder collate orderNo).map (·.val), [])
  | .orderMarkPaid orderNo, _, env, db =>
    .ok (updateRows db.orders
      (fun row => collate row.val.orderNo == collate orderNo &&
        row.val.status == .kPendingPayment)
      (fun order => { order with status := .kPaid, paidAt := BeijingTime.now env.clock }) .order)
  | .paymentInsertWithDedup payment, id, _, db =>
    insertOrKeep payment.stored.fits (db.hasPaymentKey collate payment.stored) .payment id
      { payment.stored with status := .kSuccess }
  | .paymentGetByChannelTradeNo channel channelTradeNo, _, _, db =>
    .ok ((db.findPayment collate channel channelTradeNo).map (·.val), [])
  | .accountGetByUserId userId, _, _, db => .ok ((db.findAccount userId).map (·.val), [])
  | .accountDeduct accountNo amountFen, _, _, db =>
    -- chk_account_balance, which the WHERE clause implies, and the column range
    if (db.accounts.filter (deductible collate accountNo amountFen)).all fun row =>
        0 ≤ row.val.balanceFen - amountFen && fitsDecimal (row.val.balanceFen - amountFen)
    then
      .ok (updateRows db.accounts (deductible collate accountNo amountFen)
        (fun account => { account with balanceFen := account.balanceFen - amountFen }) .account)
    else .error .db
  | .accountInsertFlow flow, id, _, db =>
    insertRow flow.fits (db.hasFlowKey collate flow) .flow id flow
  | .messageInsert message, id, env, db =>
    insertRow message.fits (db.hasMessageKey collate message) .message id
      { message with
        status := .kPending, retryCount := 0, nextRetryTime := BeijingTime.now env.clock }
  | .hasBatchForDate billDate channel, _, _, db =>
    if (BeijingTime.parseDateTime (billDate ++ " 00:00:00")).isNone then .error .db else
      .ok (db.batches.any fun row =>
        row.val.billDate == billDate && collate row.val.channel == collate channel, [])
  | .localRows channel billDate, _, _, db =>
    match BeijingTime.parseDateTime (billDate ++ " 00:00:00") with
    | none => .error .db
    | some day =>
      .ok ((db.paymentsOfDay collate channel day).map fun row =>
        ⟨row.val.channelTradeNo, row.val.orderNo, row.val.amountFen⟩, [])
  | .batchInsert batch, id, _, db =>
    insertRow batch.fits (db.hasBatchKey collate batch) .batch id batch
  | .diffInsert diff, id, _, _ =>
    insertRow diff.stored.fits false .diff id
      { diff.stored with handleStatus := .kPending, handleRemark := "", handledAt := "" }
  | .diffList batchNo limit, _, _, db => .ok ((db.diffsOf collate batchNo).take limit, [])
  | .diffGetById diffId, _, _, db =>
    .ok ((db.diffs.find? fun row => decide ((row.id : Int) = diffId)).map (·.val), [])
  | .diffHandle diffId handleStatus remark, _, env, db =>
    -- a remark that is too long fails the update of a row, not the search for one
    if db.diffs.any (handleable diffId) && decide (255 < (Varchar.cut 255 remark).length) then
      .error .db
    else
      .ok (updateRows db.diffs (handleable diffId)
        (fun diff => { diff with
          handleStatus := handleStatus
          handleRemark := Varchar.cut 255 remark
          handledAt := BeijingTime.now env.clock }) .diff)

/-- The index entries a writing statement locks: those of the rows it inserts or changes. An
insert that clashes holds the keys that it has tried. -/
def statementLocks : Stmt → Nat → Db → List Lock
  | .idempotentInsert record, id, _ =>
    [.rowNumber id, .idempotentRequest (collate record.requestId)]
  | .idempotentMarkSuccess requestId _, _, _ => [.idempotentRequest (collate requestId)]
  | .productDeductStock productId _, _, _ => [.product productId]
  | .orderInsert order, id, _ =>
    [.rowNumber id, .orderNo (collate order.orderNo), .orderRequest (collate order.requestId)]
  | .orderMarkPaid orderNo, _, _ => [.orderNo (collate orderNo)]
  | .paymentInsertWithDedup payment, id, _ =>
    [.rowNumber id, .paymentNo (collate payment.paymentNo),
      .channelTrade (collate payment.channel) (collate payment.stored.channelTradeNo)]
  | .accountDeduct accountNo _, _, _ => [.accountNo (collate accountNo)]
  | .accountInsertFlow flow, id, _ =>
    [.rowNumber id, .flowRequest (collate flow.requestId) flow.bizType]
  | .messageInsert message, id, _ => [.rowNumber id, .messageId (collate message.messageId)]
  | .batchInsert batch, id, _ =>
    [.rowNumber id, .batchNo (collate batch.batchNo),
      .batchDate batch.billDate (collate batch.channel)]
  | .diffInsert _, id, _ => [.rowNumber id]
  | .diffHandle diffId _ _, _, _ => [.diff diffId]
  | _, _, _ => []

/-- Plain SELECTs of a transaction read the snapshot; `hasBatchForDate` and the
lookups of differences run on the client itself, outside of transactions; everything
else is a locking statement. -/
def statementSource : Stmt → Source
  | .idempotentSelect _ | .productGetById _ | .orderGetByOrderNo _
  | .paymentGetByChannelTradeNo _ _ | .accountGetByUserId _ | .localRows _ _ => .snapshot
  | .hasBatchForDate _ _ | .diffList _ _ | .diffGetById _ => .client
  | _ => .current

/-- The database as a storage engine. -/
def engine : Engine Db Change Lock Stmt Resp Env Fault where
  put := Db.put
  source := statementSource
  locks := statementLocks collate
  run := execute collate

end Statements

end TradeReconcile
