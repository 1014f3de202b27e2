import TradeReconcile.Messaging.NotifyConsumer
import TradeReconcile.Services.Calls

/-!
# Controllers, the thread pool and the event loop

The handlers of the endpoints that hand their work to the pool. A handler checks the
parameters, builds the service call and submits a closure, into which the framework's
callback is moved. A worker runs the closure: the service call, and then a closure for
the event loop that invokes the callback. What a service throws is swallowed by the
worker. Handlers, workers and the loop interleave in any order, and the pool may be
stopped at any time; it refuses new tasks then, and its workers finish the others.
-/

namespace TradeReconcile

open Transactions

/-- What the handlers use of other libraries: the hash of a body, and jsoncpp's
conversion of a number with a fraction, which throws when it is out of range. -/
structure WebPlatform where
  sha256Hex : String → String
  realToInt64 : String → Option Int

namespace Json

/-- `Json::Value::isString`. -/
def isString : Json → Bool
  | .str _ => true
  | _ => false

/-- `Json::Value::isNumeric`. -/
def isNumeric : Json → Bool
  | .int _ => true
  | .real _ => true
  | _ => false

/-- `Json::Value::asInt64`, which throws on numbers out of range and on other values. -/
def asInt64 (W : WebPlatform) : Json → Except Fault Int
  | .null => .ok 0
  | .bool value => .ok (if value then 1 else 0)
  | .int value => if -2 ^ 63 ≤ value ∧ value < 2 ^ 63 then .ok value else .error .std
  | .real text => match W.realToInt64 text with
    | some value => .ok value
    | none => .error .std
  | _ => .error .std

end Json

namespace Controllers

/-- What a handler reads of a request; the body is nothing unless it is JSON. -/
structure HttpRequest where
  requestId : String
  json : Option Json
  body : String
  batchNo : String
  diffId : Int

/-- The handlers, by the routes they serve. -/
inductive Endpoint where
  | createOrder
  | handleCallback
  | runReconcile
  | listDiffs
  | handleDiff
deriving DecidableEq, Repr

/-- `models::Result` with its HTTP status, or a stored reply as it is. -/
inductive HttpResponse where
  | json (status : Nat) (body : Json)
  | stored (body : String)

/-- A rejection: status 400 with the reply of a failure. -/
def badRequest (code : ErrCode) (message requestId : String) : HttpResponse :=
  .json 400 ((Result.fail code message requestId : Result Json).toJson id)

/-! The checks. Each test may throw; later tests are not made after a failure. -/

/-- The tests from left to right, up to the first that fails or throws. -/
def allOf : List (Except Fault Bool) → Except Fault Bool
  | [] => .ok true
  | .ok true :: rest => allOf rest
  | other :: _ => other

/-- A member that is a positive number. Its conversion throws on numbers out of range, which
nobody catches before the handler returns. -/
def hasPositiveInt (W : WebPlatform) (json : Json) (key : String) : Except Fault Bool := do
  if !(← json.isMember key) then
    return false
  if !(json.member key).isNumeric then
    return false
  return 0 < (← (json.member key).asInt64 W)

/-- A member that is a text and not empty. -/
def hasNonEmptyString (json : Json) (key : String) : Except Fault Bool := do
  if !(← json.isMember key) then
    return false
  if !(json.member key).isString then
    return false
  return (← (json.member key).asString) ≠ ""

/-- A member that is a text. -/
def hasString (json : Json) (key : String) : Except Fault Bool := do
  if !(← json.isMember key) then
    return false
  return (json.member key).isString

/-- A member that is a number. -/
def hasNumber (json : Json) (key : String) : Except Fault Bool := do
  if !(← json.isMember key) then
    return false
  return (json.member key).isNumeric

/-- The handler's checks of the parameters, in the order of the source. The first that fails
decides; one that throws ends the handler with the exception. -/
def check (W : WebPlatform) (request : HttpRequest) : Endpoint → Except Fault Bool
  | .createOrder => match request.json with
    | none => .ok false
    | some json => allOf [hasPositiveInt W json "productId", hasPositiveInt W json "quantity",
        hasPositiveInt W json "userId"]
  | .handleCallback => match request.json with
    | none => .ok false
    | some json => allOf [hasNonEmptyString json "orderNo", hasNonEmptyString json "channel",
        hasNonEmptyString json "channelTradeNo", hasNonEmptyString json "amount",
        hasNonEmptyString json "sign", hasNumber json "timestamp"]
  | .runReconcile => match request.json with
    | none => .ok false
    | some json => hasNonEmptyString json "billDate"
  | .listDiffs => .ok (request.batchNo ≠ "")
  | .handleDiff => match request.json with
    | none => .ok false
    | some json => hasString json "action"

/-- The answer to parameters that fail the checks, with the code and the text of the handler,
sent at once and not through the pool. -/
def rejection (request : HttpRequest) : Endpoint → HttpResponse
  | .createOrder =>
    badRequest .kParamInvalid "productId/quantity/userId 必须为正整数" request.requestId
  | .handleCallback =>
    badRequest .kParamInvalid "orderNo/channel/channelTradeNo/amount/timestamp/sign 缺失或非法"
      request.requestId
  | .runReconcile => badRequest .kParamInvalid "billDate(YYYY-MM-DD) 必填" request.requestId
  | .listDiffs => badRequest .kParamInvalid "batchNo 查询参数必填" request.requestId
  | .handleDiff => badRequest .kParamInvalid "action(verify/ignore) 必填" request.requestId

/-- `remark` is read without a check. -/
def remarkOf (json : Json) : Except Fault String := do
  if ← json.isMember "remark" then
    (json.member "remark").asString
  else
    return ""

/-- The service call that a handler builds from checked parameters. The bill is what
`run` finds when it opens the file. -/
def build (W : WebPlatform) (request : HttpRequest) (bill : Option String) :
    Endpoint → Except Fault Call
  | .createOrder => do
    let json := request.json.getD .null
    let productId ← (json.member "productId").asInt64 W
    let quantity ← (json.member "quantity").asInt64 W
    let userId ← (json.member "userId").asInt64 W
    return .createOrder ⟨request.requestId, W.sha256Hex request.body, userId.toNat, productId.toNat,
      quantity⟩
  | .handleCallback => do
    let json := request.json.getD .null
    let orderNo ← (json.member "orderNo").asString
    let channel ← (json.member "channel").asString
    let channelTradeNo ← (json.member "channelTradeNo").asString
    let amount ← (json.member "amount").asString
    let timestamp ← (json.member "timestamp").asInt64 W
    let sign ← (json.member "sign").asString
    return .handleCallback ⟨request.requestId, orderNo, channel, channelTradeNo, amount,
      toString timestamp, sign⟩ request.body
  | .runReconcile => do
    let billDate ← ((request.json.getD .null).member "billDate").asString
    return .reconcile billDate bill
  | .listDiffs => .ok (.listDiffs request.batchNo 200)
  | .handleDiff => do
    let json := request.json.getD .null
    let action ← (json.member "action").asString
    let remark ← remarkOf json
    return .handleDiff request.diffId action remark

/-! Closures. -/

/-- A `std::function` with the framework's callback; moved from, it is empty. -/
inductive Callback where
  | supplied
  | moved
deriving DecidableEq, Repr

/-- What the outside answers to one request of a service's database program. -/
structure Replies where
  env : Env
  start : Except Fault Unit
  statement : (s : Stmt) → Except Fault (Resp s)
  commit : Except Fault Unit

/-- Carry a database program out, with the replies to its requests in order. -/
def outcome {α : Type} (replies : Nat → Replies) : Nat → Prog α → α
  | _, .done value => value
  | count, .ask k => outcome replies (count + 1) (k (replies count).env)
  | count, .start k => outcome replies (count + 1) (k (replies count).start)
  | count, .statement s k => outcome replies (count + 1) (k ((replies count).statement s))
  | count, .commit k => outcome replies (count + 1) (k (replies count).commit)
  | count, .rollback k => outcome replies (count + 1) k
  | count, .release k => outcome replies (count + 1) k

/-- The closure for the pool: the call, the replies it will meet and the callback. Moving the
callback into it is what leaves the handler without one. -/
structure Task where
  call : Call
  replies : Nat → Replies
  callback : Callback

/-- The response to a service's answer; an exception leaves the closure. A cached reply is
sent as it was stored. -/
def respond : Answer → Except Fault HttpResponse
  | .order (.kCached cachedBody) => .ok (.stored cachedBody)
  | .order (.kExecuted result) => .ok (.json 200 (result.toJson Order.toJson))
  | .reply result => .ok (.json 200 (result.toJson id))
  | .thrown fault => .error fault

/-- What a handler does: it invokes the callback itself, an exception leaves it, or it
leaves a task with the pool. -/
inductive Handled where
  | answered (response : HttpResponse)
  | thrown (fault : Fault)
  | submitted (task : Task)

/-- Calling an empty `std::function` throws. -/
def Callback.invoke (callback : Callback) (response : HttpResponse) : Handled :=
  match callback with
  | .supplied => .answered response
  | .moved => .thrown .std

/-- `submit` and what follows it. The callback has been moved into the closure by the
time the pool refuses it. -/
def submitToPool (stopped : Bool) (call : Call) (replies : Nat → Replies) (callback : Callback)
    (requestId : String) : Handled :=
  let task : Task := ⟨call, replies, callback⟩
  let callback := Callback.moved
  if stopped then
    callback.invoke (.json 503 ((Result.fail .kInternalError "服务正在关闭，请稍后重试" requestId :
      Result Json).toJson id))
  else
    .submitted task

/-- A handler, with what the outside will answer to its work. -/
structure Arrival where
  endpoint : Endpoint
  request : HttpRequest
  bill : Option String
  replies : Nat → Replies
  stopped : Bool

/-- What a handler does at once with a request: it throws, rejects it, or hands it to the
pool. The pool drops it when the server is stopping. -/
def handle (W : WebPlatform) (arrival : Arrival) : Handled :=
  match check W arrival.request arrival.endpoint with
  | .error fault => .thrown fault
  | .ok false => Callback.supplied.invoke (rejection arrival.request arrival.endpoint)
  | .ok true =>
    match build W arrival.request arrival.bill arrival.endpoint with
    | .error fault => .thrown fault
    | .ok call => submitToPool arrival.stopped call arrival.replies .supplied
        arrival.request.requestId

/-! The process. -/

/-- The pool's flag and tasks, the closures of the event loop, and the invocations of the
callbacks, each with the number of the request it belongs to. -/
structure Process where
  stopped : Bool
  arrivals : List Arrival
  tasks : List (Nat × Task)
  closures : List (Nat × HttpResponse × Callback)
  answers : List (Nat × HttpResponse)

/-- A server without requests. -/
def Process.initial : Process := ⟨false, [], [], [], []⟩

/-- A handler runs to its end: it answers at once, hands a task to the pool or loses the
request with an exception. Its number is its place among the arrivals. -/
def Process.arrive (W : WebPlatform) (process : Process) (arrival : Arrival) : Process :=
  let number := process.arrivals.length
  let arrived := { process with arrivals := process.arrivals ++ [arrival] }
  match handle W arrival with
  | .answered response => { arrived with answers := process.answers ++ [(number, response)] }
  | .thrown _ => arrived
  | .submitted task => { arrived with tasks := process.tasks ++ [(number, task)] }

/-- A worker runs a task; its exceptions end here. A task that returns queues a closure for
the event loop, which will invoke the callback. -/
def Process.work (P : Platform) (process : Process) (index : Nat) : Option Process :=
  match process.tasks[index]? with
  | none => none
  | some (number, task) =>
    let taken := { process with tasks := process.tasks.eraseIdx index }
    match respond (outcome task.replies 0 (program P task.call)) with
    | .error _ => some taken
    | .ok response =>
      some { taken with closures := process.closures ++ [(number, response, task.callback)] }

/-- The event loop runs a closure, which invokes the callback it holds. An empty one throws,
and nobody is answered. -/
def Process.loop (process : Process) (index : Nat) : Option Process :=
  match process.closures[index]? with
  | none => none
  | some (number, response, callback) =>
    let taken := { process with closures := process.closures.eraseIdx index }
    match callback.invoke response with
    | .answered response => some { taken with answers := process.answers ++ [(number, response)] }
    | _ => some taken

/-- The scheduler's choices. A request meets the pool as it is then. -/
inductive Event where
  | request (endpoint : Endpoint) (request : HttpRequest) (bill : Option String)
      (replies : Nat → Replies)
  | stop
  | work (index : Nat)
  | loop (index : Nat)

/-- The requests that arrive, the steps of the workers and of the event loop, in any order.
Nothing is assumed of fairness: a step that is possible need not be taken. -/
def step (P : Platform) (W : WebPlatform) (process : Process) : Event → Option Process
  | .request endpoint request bill replies =>
    some (process.arrive W ⟨endpoint, request, bill, replies, process.stopped⟩)
  | .stop => some { process with stopped := true }
  | .work index => process.work P index
  | .loop index => process.loop index

end Controllers

end TradeReconcile
