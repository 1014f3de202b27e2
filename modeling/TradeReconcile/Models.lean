import TradeReconcile.Money

/-!
# Domain models, error codes and reply bodies

The plain data of `models/` and `common/`: records with the source's field names,
enumerations with their stored values, and the uniform reply. Replies are built
as JSON values; the two writers that turn a value into text belong to jsoncpp and
are parameters of the services.
-/

namespace TradeReconcile

/-- `common::ErrCode`. -/
inductive ErrCode where
  | kSuccess
  | kParamInvalid
  | kMissingRequestId
  | kDuplicateRequest
  | kNotFound
  | kAccountNotFound
  | kBalanceNotEnough
  | kProductNotFound
  | kStockNotEnough
  | kOrderNotFound
  | kOrderStatusInvalid
  | kSignVerifyFailed
  | kAmountMismatch
  | kChannelTradeConflict
  | kUnsupportedChannel
  | kReconcileBatchNotFound
  | kReconcileBatchStatusInvalid
  | kReconcileDiffAlreadyHandled
  | kReconcileBillParseFailed
  | kDbError
  | kInternalError
deriving DecidableEq, Repr

namespace ErrCode

/-- The number of an error code in the answers. -/
def toInt : ErrCode → Int
  | .kSuccess => 0
  | .kParamInvalid => 10001
  | .kMissingRequestId => 10002
  | .kDuplicateRequest => 10003
  | .kNotFound => 10004
  | .kAccountNotFound => 20001
  | .kBalanceNotEnough => 20002
  | .kProductNotFound => 30001
  | .kStockNotEnough => 30002
  | .kOrderNotFound => 40001
  | .kOrderStatusInvalid => 40002
  | .kSignVerifyFailed => 50001
  | .kAmountMismatch => 50002
  | .kChannelTradeConflict => 50003
  | .kUnsupportedChannel => 50004
  | .kReconcileBatchNotFound => 70001
  | .kReconcileBatchStatusInvalid => 70002
  | .kReconcileDiffAlreadyHandled => 70003
  | .kReconcileBillParseFailed => 70004
  | .kDbError => 90001
  | .kInternalError => 90003

/-- The default text of an error code. -/
def toMessage : ErrCode → String
  | .kSuccess => "成功"
  | .kParamInvalid => "参数校验失败"
  | .kMissingRequestId => "缺少或非法的 X-Request-Id"
  | .kDuplicateRequest => "重复请求，请稍后重试"
  | .kNotFound => "资源不存在"
  | .kAccountNotFound => "账户不存在"
  | .kBalanceNotEnough => "余额不足"
  | .kProductNotFound => "商品不存在"
  | .kStockNotEnough => "库存不足"
  | .kOrderNotFound => "订单不存在"
  | .kOrderStatusInvalid => "订单状态不允许此操作"
  | .kSignVerifyFailed => "签名校验失败"
  | .kAmountMismatch => "支付金额与订单金额不一致"
  | .kChannelTradeConflict => "渠道交易号已绑定其他订单"
  | .kUnsupportedChannel => "不支持的支付渠道"
  | .kReconcileBatchNotFound => "对账批次不存在"
  | .kReconcileBatchStatusInvalid => "该日期已对账或批次状态不允许此操作"
  | .kReconcileDiffAlreadyHandled => "差异记录已处理过"
  | .kReconcileBillParseFailed => "账单文件不存在或解析失败"
  | .kDbError => "系统繁忙，请稍后重试"
  | .kInternalError => "系统内部错误"

/-- No failure shares its number with another code, so a reply's number names
exactly one code. -/
theorem toInt_injective : Function.Injective toInt := by
  intro left right same
  cases left <;> cases right <;> first | rfl | simp [toInt] at same

end ErrCode

/-- A JSON value as the source builds or reads it, object members in assignment
order. A number with a fraction is given by its rendering. -/
inductive Json where
  | null
  | bool : Bool → Json
  | int : Int → Json
  | real : String → Json
  | str : String → Json
  | arr : List Json → Json
  | obj : List (String × Json) → Json

/-- `models::Result<T>`. -/
structure Result (α : Type) where
  code : Int
  message : String
  data : Option α
  requestId : String

namespace Result

variable {α : Type}

/-- A success carries its value. -/
def ok (value : α) (requestId : String) : Result α :=
  ⟨ErrCode.kSuccess.toInt, ErrCode.kSuccess.toMessage, some value, requestId⟩

/-- A failure carries no value. -/
def fail (code : ErrCode) (message requestId : String) : Result α :=
  ⟨code.toInt, message, none, requestId⟩

/-- Whether the code is that of a success. -/
def isOk (result : Result α) : Bool := result.code == ErrCode.kSuccess.toInt

/-- The reply body; a missing payload is an explicit null. -/
def toJson (dataToJson : α → Json) (result : Result α) : Json :=
  .obj [("code", .int result.code), ("message", .str result.message),
    ("requestId", .str result.requestId),
    ("data", match result.data with
      | some value => dataToJson value
      | none => .null)]

@[simp] theorem ok_code (value : α) (requestId : String) : (ok value requestId).code = 0 := rfl

@[simp] theorem ok_data (value : α) (requestId : String) :
    (ok value requestId).data = some value := rfl

@[simp] theorem fail_code (code : ErrCode) (message requestId : String) :
    (fail code message requestId : Result α).code = code.toInt := rfl

/-- A failure reply never carries the success number. -/
theorem fail_code_ne (code : ErrCode) (message requestId : String) (failure : code ≠ .kSuccess) :
    (fail code message requestId : Result α).code ≠ 0 := by
  intro zero
  exact failure (ErrCode.toInt_injective zero)

end Result

/-- `models::Product`; the row number is the product's id. -/
structure Product where
  productNo : String
  name : String
  priceFen : Int
  stock : Int
  status : Int
deriving DecidableEq, Repr

/-- A product is on sale while its status is 1. -/
def Product.onSale (product : Product) : Bool := product.status == 1

/-- `models::Account`. -/
structure Account where
  accountNo : String
  userId : Nat
  balanceFen : Int
  frozenAmountFen : Int
  status : Int
deriving DecidableEq, Repr

/-- `models::FlowBizType`. -/
inductive FlowBizType where
  | kRecharge
  | kPayment
  | kRefund
  | kFreeze
  | kUnfreeze
deriving DecidableEq, Repr

/-- `models::FlowDirection`. -/
inductive FlowDirection where
  | kIn
  | kOut
deriving DecidableEq, Repr

/-- `models::AccountFlow`. -/
structure AccountFlow where
  accountNo : String
  bizType : FlowBizType
  direction : FlowDirection
  amountFen : Int
  beforeFen : Int
  afterFen : Int
  orderNo : String
  requestId : String
deriving DecidableEq, Repr

/-- `models::OrderStatus`. -/
inductive OrderStatus where
  | kPendingPayment
  | kPaid
  | kCompleted
  | kCancelled
  | kRefunded
deriving DecidableEq, Repr

/-- The number of a status in its column. -/
def OrderStatus.toInt : OrderStatus → Int
  | .kPendingPayment => 0
  | .kPaid => 1
  | .kCompleted => 2
  | .kCancelled => 3
  | .kRefunded => 4

/-- `models::Order`. An empty `paidAt` means not paid. -/
structure Order where
  orderNo : String
  requestId : String
  userId : Nat
  productId : Nat
  quantity : Int
  unitPriceFen : Int
  totalAmountFen : Int
  status : OrderStatus
  expireTime : String
  paidAt : String
deriving DecidableEq, Repr

/-- An order as the answers show it, amounts in yuan. -/
def Order.toJson (order : Order) : Json :=
  .obj [("orderNo", .str order.orderNo), ("userId", .int order.userId),
    ("productId", .int order.productId), ("quantity", .int order.quantity),
    ("unitPrice", .str (MoneyUtil.fenToYuanString order.unitPriceFen)),
    ("totalAmount", .str (MoneyUtil.fenToYuanString order.totalAmountFen)),
    ("status", .int order.status.toInt), ("expireTime", .str order.expireTime)]

/-- `models::CreateOrderReq`. -/
structure CreateOrderReq where
  requestId : String
  requestHash : String
  userId : Nat
  productId : Nat
  quantity : Int
deriving DecidableEq, Repr

/-- `models::Payment::Status`. -/
inductive PaymentStatus where
  | kPending
  | kSuccess
  | kFailed
deriving DecidableEq, Repr

/-- `models::Payment`. -/
structure Payment where
  paymentNo : String
  orderNo : String
  channel : String
  channelTradeNo : String
  amountFen : Int
  status : PaymentStatus
  callbackTime : String
  rawBody : String
deriving DecidableEq, Repr

/-- `models::PaymentCallbackReq`. -/
structure PaymentCallbackReq where
  requestId : String
  orderNo : String
  channel : String
  channelTradeNo : String
  amount : String
  timestamp : String
  sign : String
deriving DecidableEq, Repr

/-- `models::Idempotent::Status`. -/
inductive IdempotentStatus where
  | kProcessing
  | kSuccess
  | kFailed
deriving DecidableEq, Repr

/-- `models::Idempotent`. -/
structure Idempotent where
  requestId : String
  userId : Nat
  apiPath : String
  requestHash : String
  responseBody : String
  status : IdempotentStatus
  expireTime : String
deriving DecidableEq, Repr

/-- `models::LocalMessage::Status`. -/
inductive MessageStatus where
  | kPending
  | kSent
  | kAcked
  | kFailed
deriving DecidableEq, Repr

/-- `models::LocalMessage`. -/
structure LocalMessage where
  messageId : String
  bizType : String
  bizId : String
  exchange : String
  routingKey : String
  payload : String
  status : MessageStatus
  retryCount : Nat
  nextRetryTime : String
deriving DecidableEq, Repr

/-- `models::ReconcileDiffType`. -/
inductive ReconcileDiffType where
  | kLocalOnly
  | kChannelOnly
  | kAmountMismatch
deriving DecidableEq, Repr

/-- The number of a type in its column. -/
def ReconcileDiffType.toInt : ReconcileDiffType → Int
  | .kLocalOnly => 1
  | .kChannelOnly => 2
  | .kAmountMismatch => 3

/-- `models::ReconcileSideRow`. -/
structure ReconcileSideRow where
  channelTradeNo : String
  orderNo : String
  amountFen : Int
deriving DecidableEq, Repr

/-- `models::ReconcileDiff::HandleStatus`. -/
inductive HandleStatus where
  | kPending
  | kVerified
  | kIgnored
deriving DecidableEq, Repr

/-- The number of a handling status in its column. -/
def HandleStatus.toInt : HandleStatus → Int
  | .kPending => 0
  | .kVerified => 1
  | .kIgnored => 2

/-- `models::ReconcileDiff`. -/
structure ReconcileDiff where
  batchNo : String
  orderNo : String
  channelTradeNo : String
  localAmountFen : Int
  channelAmountFen : Int
  diffType : ReconcileDiffType
  diffAmountFen : Int
  handleStatus : HandleStatus
  handleRemark : String
  handledAt : String
deriving DecidableEq, Repr

/-- A difference as the answers show it. -/
def ReconcileDiff.toJson (diff : ReconcileDiff) : Json :=
  .obj [("batchNo", .str diff.batchNo), ("orderNo", .str diff.orderNo),
    ("channelTradeNo", .str diff.channelTradeNo),
    ("localAmount", .str (MoneyUtil.fenToYuanString diff.localAmountFen)),
    ("channelAmount", .str (MoneyUtil.fenToYuanString diff.channelAmountFen)),
    ("diffType", .int diff.diffType.toInt),
    ("diffAmount", .str (MoneyUtil.fenToYuanString diff.diffAmountFen)),
    ("handleStatus", .int diff.handleStatus.toInt), ("handleRemark", .str diff.handleRemark),
    ("handledAt", .str diff.handledAt)]

/-- `models::ReconcileBatch::Status`. -/
inductive BatchStatus where
  | kProcessing
  | kBalanced
  | kHasDiff
  | kFailed
deriving DecidableEq, Repr

/-- The number of a batch status in its column. -/
def BatchStatus.toInt : BatchStatus → Int
  | .kProcessing => 0
  | .kBalanced => 1
  | .kHasDiff => 2
  | .kFailed => 3

/-- `models::ReconcileBatch`. -/
structure ReconcileBatch where
  batchNo : String
  billDate : String
  channel : String
  totalCount : Int
  totalAmountFen : Int
  channelCount : Int
  channelAmountFen : Int
  diffCount : Int
  status : BatchStatus
deriving DecidableEq, Repr

end TradeReconcile
