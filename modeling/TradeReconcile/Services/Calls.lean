import TradeReconcile.Services.Order
import TradeReconcile.Services.Payment
import TradeReconcile.Services.Reconcile

/-!
# Service calls as one family of programs

Requests of the services, their answers, and the program each request runs. Systems of
concurrent calls are systems over this family.
-/

namespace TradeReconcile

open Transactions

/-- A request to one of the services. -/
inductive Call where
  | createOrder : CreateOrderReq → Call
  | handleCallback : PaymentCallbackReq → String → Call
  | reconcile : String → Option String → Call
  | listDiffs : String → Nat → Call
  | handleDiff : Int → String → String → Call
deriving DecidableEq

/-- The call creates an order. -/
def Call.isOrder : Call → Bool
  | .createOrder _ => true
  | _ => false

/-- The answer of a service, or the exception that leaves it. -/
inductive Answer where
  | order : CreateOrderOutcome → Answer
  | reply : Result Json → Answer
  | thrown : Fault → Answer

/-- What a service returns or throws, as an answer. -/
def Answer.ofExcept : Except Fault (Result Json) → Answer
  | .ok result => .reply result
  | .error fault => .thrown fault

/-- The program a request runs. What the two services without a catch-all clause let through
becomes an answer of its own. -/
def program (P : Platform) : Call → Prog Answer
  | .createOrder req => (OrderService.createOrder P req).bind fun outcome => .done (.order outcome)
  | .handleCallback req rawBody =>
    (PaymentService.handleCallback P req rawBody).bind fun result => .done (.reply result)
  | .reconcile billDate bill =>
    (ReconcileService.run billDate bill).bind fun result => .done (.reply result)
  | .listDiffs batchNo limit =>
    (ReconcileService.listDiffs batchNo limit).bind fun outcome => .done (.ofExcept outcome)
  | .handleDiff diffId action remark =>
    (ReconcileService.handleDiff diffId action remark).bind fun outcome => .done (.ofExcept outcome)

/-- Concurrent service calls over one database. -/
abbrev Trade := System Call Stmt Resp Env Fault Answer Db Change Lock

/-- A session over the store's tables. -/
abbrev Connection := Session Db Change Lock

/-- Which call takes which turn, in order. -/
abbrev Schedule := List (Action Call Env Fault)

/-- A new connection's order of reaching states, for admitted steps. -/
abbrev Reached (P : Platform) (admits : Trade → Action Call Env Fault → Prop) (first : Shared Db) :
    Trade → Prop :=
  System.Reached (engine P.collate) (program P) admits first

/-! A small shop: a concrete platform and store on which schedules are executed. -/

namespace Shop

/-- A hexadecimal digit in lower case. -/
def hexDigit (value : Nat) : Char := Char.ofNat (if value < 10 then 48 + value else 87 + value)

/-- A JSON text; anything outside ASCII is escaped. -/
def quoted (text : String) : String :=
  "\"" ++ String.join (text.toList.map fun c =>
    if c.toNat < 128 then c.toString
    else String.ofList ['\\', 'u', hexDigit (c.toNat / 4096), hexDigit (c.toNat / 256 % 16),
      hexDigit (c.toNat / 16 % 16), hexDigit (c.toNat % 16)]) ++ "\""

mutual

/-- A JSON text, members in the order in which they are given. -/
def write : Json → String
  | .null => "null"
  | .bool value => if value then "true" else "false"
  | .int value => toString value
  | .real text => text
  | .str text => quoted text
  | .arr items => "[" ++ ",".intercalate (writeItems items) ++ "]"
  | .obj members => "\x7b" ++ ",".intercalate (writeMembers members) ++ "\x7d"

/-- The texts of the items of an array. -/
def writeItems : List Json → List String
  | [] => []
  | item :: rest => write item :: writeItems rest

/-- The texts of the members of an object. -/
def writeMembers : List (String × Json) → List String
  | [] => []
  | (key, value) :: rest => (quoted key ++ ":" ++ write value) :: writeMembers rest

end

/-- A trade number that fills its column, with a space behind it. -/
def paddedTradeNo : String := String.ofList (List.replicate 64 'T' ++ [' '])

/-- The signatures of the texts that are signed below, under the shop's secret. -/
def signatures : List (String × String) :=
  [("7001|T1|39.90|1789275496", "b6e1ac1d50a10a3d48a79229d383ca6095dda80ca9f26b42d560600d043c9c50"),
    ("7001|T2|39.90|1789275496", "ea5f084565d16c761dfb7c277f23c2648e0202631e2a9fb99edc75f8927cc777"),
    ("7001|" ++ paddedTradeNo ++ "|39.90|1789275496",
      "df08a88afa1a969eee5ee87836a8061ddfaa759ff3cce4505e320991edc74c9b"),
    ("7002|T2|19.95|1789275496", "5a1a06a022848d40a37ff2d7f841f477cc3533b0536f9931fb314d6ac1b1e82e")]

/-- A platform to try the services on: byte order as the collation, an open digest, and the
JSON writer above. -/
def platform : Platform where
  collate := id
  hmacSha256Hex _ text := (signatures.lookup text).getD ""
  writeString := write
  toStyledString := write
  secret := "mock-secret"
  exchange := none
  routingKeyNotify := none

/-- One product and one account; row numbers continue at 100. -/
def store : Shared Db where
  committed :=
    { products := [⟨1, ⟨"P1", "mug", 1995, 10, 1⟩⟩]
      accounts := [⟨1, ⟨"A1", 8, 10000, 0, 0⟩⟩] }
  counter := 100

/-- Two mugs for user 8. -/
def order (requestId : String) : Call := .createOrder ⟨requestId, "hash", 8, 1, 2⟩

/-- The channel reports an order as paid under a trade number. -/
def notice (requestId orderNo tradeNo amount : String) : Call :=
  .handleCallback
    { requestId := requestId
      orderNo := orderNo
      channel := "MOCK"
      channelTradeNo := tradeNo
      amount := amount
      timestamp := "1789275496"
      sign := platform.hmacSha256Hex platform.secret
        (orderNo ++ "|" ++ tradeNo ++ "|" ++ amount ++ "|1789275496") }
    "raw"

/-- The report about the two mugs of order 7001. -/
def callback (requestId tradeNo : String) : Call := notice requestId "7001" tradeNo "39.90"

/-- A caller's next requests; every id it asks for is the given one. -/
def advances (caller : Nat) (id : String) (count : Nat) : Schedule :=
  List.replicate count (.advance caller ⟨some id, 1789275496⟩)

/-- Execute a schedule from a store. -/
def runFrom (first : Shared Db) (check : Trade → Action Call Env Fault → Bool)
    (schedule : Schedule) : Option Trade :=
  (System.initial first).runWhere (engine platform.collate) (program platform) check schedule

/-- Execute a schedule from the shop's store. -/
def run : (Trade → Action Call Env Fault → Bool) → Schedule → Option Trade := runFrom store

/-- Two orders are placed, for two mugs and for one. The callback of the second begins first,
and the one of the first begins before it has committed. -/
def twoPaid : Option Trade :=
  run (fun _ _ => true)
    (.call (order "req-0001") :: advances 0 "7001" 11 ++
      .call (.createOrder ⟨"req-0002", "hash", 8, 1, 1⟩) :: advances 1 "7002" 11 ++
      .call (notice "cb-00002" "7002" "T2" "19.95") :: advances 2 "8002" 6 ++
      .call (callback "cb-00001" "T1") :: advances 3 "8001" 6 ++
      advances 2 "9002" 7 ++ advances 3 "9001" 7)

end Shop

end TradeReconcile
