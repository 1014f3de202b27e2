import TradeReconcile.Services.Guard

/-!
# Handling a payment callback

`PaymentService::handleCallback` checks channel and signature, and then, in one
transaction, matches the order, records the channel's trade number, marks the
order paid, debits the account with a flow entry and writes the outbox message.
The helpers follow the numbered steps of the source; a step that may answer the
request at once returns that answer.
-/

namespace TradeReconcile

open Transactions

namespace SignUtil

/-- `orderNo|channelTradeNo|amount|timestamp`. -/
def canonical (orderNo channelTradeNo amount timestamp : String) : String :=
  orderNo ++ "|" ++ channelTradeNo ++ "|" ++ amount ++ "|" ++ timestamp

/-- The length test and the constant-time comparison amount to equality. -/
def verifyMockSign (P : Platform)
    (orderNo channelTradeNo amount timestamp sign : String) : Bool :=
  P.hmacSha256Hex P.secret (canonical orderNo channelTradeNo amount timestamp) == sign

end SignUtil

namespace PaymentService

def kSupportedChannel : String := "MOCK"
def kBizTypeOrderPaid : String := "ORDER_PAID"

/-- Step 2: the order exists and the amount is its total. The lookup is the first SELECT of
the transaction and so fixes its snapshot. -/
def checkOrder (req : PaymentCallbackReq) : Guarded (Order × Int) := do
  let order : Option Order ← Guarded.execSqlSync (.orderGetByOrderNo req.orderNo)
  match order with
  | none => Guarded.bizException .kOrderNotFound "订单不存在"
  | some order =>
    match MoneyUtil.yuanStringToFen req.amount with
    | none => Guarded.bizException .kAmountMismatch "支付金额与订单金额不一致"
    | some amountFen =>
      if amountFen ≠ order.totalAmountFen then
        Guarded.bizException .kAmountMismatch "支付金额与订单金额不一致"
      else
        return (order, amountFen)

/-- The reply to a callback that changed nothing. -/
def replayed (req : PaymentCallbackReq) : Result Json := Result.ok .null req.requestId

/-- The payment row of step 3. -/
def buildPayment (req : PaymentCallbackReq) (rawBody paymentNo callbackTime : String)
    (amountFen : Int) : Payment where
  paymentNo := paymentNo
  orderNo := req.orderNo
  channel := req.channel
  channelTradeNo := req.channelTradeNo
  amountFen := amountFen
  status := .kSuccess
  callbackTime := callbackTime
  rawBody := rawBody

/-- Step 3: record the trade number, or find out whose it is. The insert meets the committed
rows, the re-read only the snapshot, and it looks for the number as it was sent. -/
def recordPayment (req : PaymentCallbackReq) (rawBody : String) (amountFen : Int) :
    Guarded (Option (Result Json)) := do
  let paymentNo ← Guarded.nextId
  let callbackTime ← Guarded.orThrow (BeijingTime.epochToBeijing req.timestamp)
  let affectedRows : Nat ← Guarded.execSqlSync
    (.paymentInsertWithDedup (buildPayment req rawBody paymentNo callbackTime amountFen))
  if affectedRows = 1 then
    return none
  let existing : Option Payment ←
    Guarded.execSqlSync (.paymentGetByChannelTradeNo req.channel req.channelTradeNo)
  match existing with
  | none => Guarded.bizException .kChannelTradeConflict "渠道交易号已绑定其他订单"
  | some existing =>
    if existing.orderNo = req.orderNo then
      return some (replayed req)
    else
      Guarded.bizException .kChannelTradeConflict "渠道交易号已绑定其他订单"

/-- Step 4: pending becomes paid, or somebody else was first. The update acts on the committed
row, while the re-read after it sees the snapshot. -/
def settleOrder (req : PaymentCallbackReq) : Guarded (Option (Result Json)) := do
  let affectedRows : Nat ← Guarded.execSqlSync (.orderMarkPaid req.orderNo)
  if affectedRows ≠ 0 then
    return none
  let current : Option Order ← Guarded.execSqlSync (.orderGetByOrderNo req.orderNo)
  match current with
  | none => Guarded.bizException .kOrderStatusInvalid "订单状态不允许支付"
  | some current =>
    if current.status = .kPaid then
      return some (replayed req)
    else
      Guarded.bizException .kOrderStatusInvalid "订单状态不允许支付"

/-- Second half of step 5: the balances of the flow entry come from a re-read.
The re-read follows a successful deduction of the same account, so it finds a row;
balances stay below 10^18 and amounts below 2 * 10^11, so the sum does not leave
64 bits. -/
def enterFlow (req : PaymentCallbackReq) (order : Order) (account : Account) (amountFen : Int) :
    Guarded Unit := do
  let reread : Option Account ← Guarded.execSqlSync (.accountGetByUserId order.userId)
  let after ← Guarded.orThrow reread
  let _ ← Guarded.execSqlSync (.accountInsertFlow
    { accountNo := account.accountNo
      bizType := .kPayment
      direction := .kOut
      amountFen := amountFen
      beforeFen := after.balanceFen + amountFen
      afterFen := after.balanceFen
      orderNo := req.orderNo
      requestId := req.requestId })
  return ()

/-- Step 5: conditional deduction, re-read, flow entry. The account is looked up by the
order's user, and the deduction has the status and the balance in its WHERE clause. -/
def debitAccount (req : PaymentCallbackReq) (order : Order) (amountFen : Int) : Guarded Unit := do
  let account : Option Account ← Guarded.execSqlSync (.accountGetByUserId order.userId)
  match account with
  | none => Guarded.bizException .kAccountNotFound "账户不存在"
  | some account =>
    let deducted : Nat ← Guarded.execSqlSync (.accountDeduct account.accountNo amountFen)
    if deducted = 0 then
      Guarded.bizException .kBalanceNotEnough "余额不足"
    else
      enterFlow req order account amountFen

/-- The message body is the consumer's contract. It is written from the order as it was read
in step 2. -/
def messagePayload (order : Order) (messageId : String) : Json :=
  .obj [("messageId", .str messageId), ("bizType", .str kBizTypeOrderPaid),
    ("orderNo", .str order.orderNo),
    ("amount", .str (MoneyUtil.fenToYuanString order.totalAmountFen)),
    ("userId", .int order.userId), ("status", .int 1)]

/-- The outbox row of step 6. -/
def buildMessage (P : Platform) (req : PaymentCallbackReq) (order : Order) (messageId : String) :
    LocalMessage where
  messageId := messageId
  bizType := kBizTypeOrderPaid
  bizId := req.orderNo
  exchange := P.exchange.getD "trade.exchange"
  routingKey := P.routingKeyNotify.getD "order.paid"
  payload := P.toStyledString (messagePayload order messageId)
  status := .kPending
  retryCount := 0
  nextRetryTime := ""

/-- Step 6: the outbox row, in the same transaction. -/
def writeMessage (P : Platform) (req : PaymentCallbackReq) (order : Order) : Guarded Unit := do
  let messageId ← Guarded.nextId
  let _ ← Guarded.execSqlSync (.messageInsert (buildMessage P req order messageId))
  return ()

/-- The reply to a callback that paid the order. -/
def processed (req : PaymentCallbackReq) : Result Json :=
  Result.ok (.obj [("orderNo", .str req.orderNo), ("status", .int 1)]) req.requestId

/-- The code under the guard. A replay returns without a commit, and the guard's destructor
rolls back what it has inserted. -/
def handleCallbackBody (P : Platform) (req : PaymentCallbackReq) (rawBody : String) :
    Guarded (Result Json) := do
  let (order, amountFen) ← checkOrder req
  match ← recordPayment req rawBody amountFen with
  | some reply => return reply
  | none =>
    match ← settleOrder req with
    | some reply => return reply
    | none =>
      debitAccount req order amountFen
      writeMessage P req order
      Guarded.commit
      return processed req

/-- The channel and the signature are checked first, then the amount is read; all else is in
the transaction, whose exceptions are turned into replies. -/
def handleCallback (P : Platform) (req : PaymentCallbackReq) (rawBody : String) :
    Prog (Result Json) :=
  if req.channel ≠ kSupportedChannel then
    .done (Result.fail .kUnsupportedChannel "不支持的支付渠道" req.requestId)
  else if P.secret.isEmpty || !SignUtil.verifyMockSign P req.orderNo req.channelTradeNo req.amount
      req.timestamp req.sign then
    .done (Result.fail .kSignVerifyFailed "签名校验失败" req.requestId)
  else
    (Guarded.transaction (handleCallbackBody P req rawBody)).bind fun outcome =>
      .done (catchAll req.requestId outcome)

end PaymentService

end TradeReconcile
