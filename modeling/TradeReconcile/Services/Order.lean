import TradeReconcile.Services.Guard

/-!
# Creating an order

`OrderService::createOrder` claims the request id, reads the product, deducts
the stock, inserts the order and stores the reply, all in one transaction. Every
failure leaves the scope without commit, which also releases the request id.
-/

namespace TradeReconcile

open Transactions

/-- `dao::IdempotentOutcome`. -/
inductive IdempotentOutcome where
  | kAcquired
  | kProcessing
  | kCachedSuccess (cachedResponseBody : String)

/-- `services::CreateOrderOutcome`. -/
inductive CreateOrderOutcome where
  | kExecuted (result : Result Order)
  | kCached (cachedBody : String)

namespace IdempotentDao

/-- Claim the key; on conflict the stored status decides. Neither the user nor the hash of the
request is compared with what is stored. -/
def tryAcquire (record : Idempotent) : Guarded IdempotentOutcome := do
  let affectedRows : Nat ← Guarded.execSqlSync (.idempotentInsert record)
  if affectedRows = 1 then
    return .kAcquired
  let query : Option (IdempotentStatus × String) ←
    Guarded.execSqlSync (.idempotentSelect record.requestId)
  match query with
  | none => return .kProcessing
  | some (.kSuccess, responseBody) => return .kCachedSuccess responseBody
  | some _ => return .kProcessing

end IdempotentDao

namespace OrderService

def kCreateOrderApiPath : String := "/api/v1/orders"
def kMaxQuantity : Int := 999
def kOrderExpireMinutes : Int := 30
def kIdempotentExpireMinutes : Int := 24 * 60

/-- The record that claims a request id for a day. Nothing reads its expiry. -/
def buildIdempotentRecord (req : CreateOrderReq) (clock : Int) : Idempotent where
  requestId := req.requestId
  userId := req.userId
  apiPath := kCreateOrderApiPath
  requestHash := req.requestHash
  responseBody := ""
  status := .kProcessing
  expireTime := BeijingTime.dbTimeAfter kIdempotentExpireMinutes clock

/-- The order as assembled in step 4, pending and with the price as it was read. The total is
a product in 64 bits and wraps around where it does not fit. -/
def buildOrder (req : CreateOrderReq) (product : Product) (orderNo : String) (clock : Int) :
    Order where
  orderNo := orderNo
  requestId := req.requestId
  userId := req.userId
  productId := req.productId
  quantity := req.quantity
  unitPriceFen := product.priceFen
  totalAmountFen := wrap64 (product.priceFen * req.quantity)
  status := .kPendingPayment
  expireTime := BeijingTime.dbTimeAfter kOrderExpireMinutes clock
  paidAt := ""

/-- The reply of a fresh order and the snapshot stored for replays. -/
def replyBody (P : Platform) (order : Order) (requestId : String) : String :=
  P.writeString ((Result.ok order requestId).toJson Order.toJson)

/-- Steps 2 to 6, after the request id has been claimed: the product, the stock, the order,
the stored reply and the commit. Each refusal leaves by an exception. -/
def place (P : Platform) (req : CreateOrderReq) : Guarded CreateOrderOutcome := do
  let product : Option Product ← Guarded.execSqlSync (.productGetById req.productId)
  match product with
  | none => Guarded.bizException .kProductNotFound "商品不存在"
  | some product =>
    if !product.onSale then
      Guarded.bizException .kProductNotFound "商品已下架"
    else
      let deducted : Nat ← Guarded.execSqlSync (.productDeductStock req.productId req.quantity)
      if deducted = 0 then
        Guarded.bizException .kStockNotEnough "库存不足"
      else
        let orderNo ← Guarded.nextId
        let clock ← Guarded.clock
        let order := buildOrder req product orderNo clock
        let _ ← Guarded.execSqlSync (.orderInsert order)
        let _ ← Guarded.execSqlSync
          (.idempotentMarkSuccess req.requestId (replyBody P order req.requestId))
        Guarded.commit
        return .kExecuted (Result.ok order req.requestId)

/-- The code under the guard: a stored reply is returned as it is, a request in progress is
refused, and a new one places its order. -/
def createOrderBody (P : Platform) (req : CreateOrderReq) : Guarded CreateOrderOutcome := do
  let clock ← Guarded.clock
  let outcome ← IdempotentDao.tryAcquire (buildIdempotentRecord req clock)
  match outcome with
  | .kCachedSuccess body => return .kCached body
  | .kProcessing =>
    return .kExecuted (Result.fail .kDuplicateRequest ErrCode.kDuplicateRequest.toMessage
      req.requestId)
  | .kAcquired => place P req

/-- Exceptions become failure replies of kind `kExecuted`. -/
def catchOutcome (requestId : String) : Except Exn CreateOrderOutcome → CreateOrderOutcome
  | .ok outcome => outcome
  | .error exn => .kExecuted (catchAll requestId (.error exn))

/-- The quantity is checked first; all else is in the transaction, whose exceptions are turned
into replies. -/
def createOrder (P : Platform) (req : CreateOrderReq) : Prog CreateOrderOutcome :=
  if req.quantity ≤ 0 ∨ kMaxQuantity < req.quantity then
    .done (.kExecuted (Result.fail .kParamInvalid "购买数量必须在 1~999 之间" req.requestId))
  else
    (Guarded.transaction (createOrderBody P req)).bind fun outcome =>
      .done (catchOutcome req.requestId outcome)

end OrderService

/-- The body that `OrderController::createOrder` sends back: a cached snapshot
verbatim, anything else through the JSON writer. -/
def CreateOrderOutcome.responseBody (P : Platform) : CreateOrderOutcome → String
  | .kCached body => body
  | .kExecuted result => P.writeString (result.toJson Order.toJson)

end TradeReconcile
