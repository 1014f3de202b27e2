import TradeReconcile.Scripts
import TradeReconcile.Store

/-!
# The notify consumer and its surroundings

`NotifyConsumer::handleMessage` as a script of its database, HTTP and broker calls,
and the system it runs in: the queue with its unacknowledged deliveries, the dead
letter queue, the table of notify records and the merchant. The scheduler decides
what the merchant answers, which calls throw, when the connection is lost and when
the process dies. An exception that leaves `handleMessage` ends the thread and with
it the process, since nothing catches it.
-/

namespace TradeReconcile

open Scripts

namespace Json

/-- `Json::Value::isMember`, which throws unless the value is an object or null. -/
def isMember (key : String) : Json → Except Fault Bool
  | .null => .ok false
  | .obj members => .ok (members.any fun member => member.1 == key)
  | _ => .error .std

/-- `Json::Value::asString`, which throws on arrays and objects. Scalars are converted, a null
to the empty text. -/
def asString : Json → Except Fault String
  | .null => .ok ""
  | .bool value => .ok (if value then "true" else "false")
  | .int value => .ok (toString value)
  | .real text => .ok text
  | .str text => .ok text
  | .arr _ => .error .std
  | .obj _ => .error .std

/-- `json[key]` of an object; a missing member is null. -/
def member (key : String) : Json → Json
  | .obj members => ((members.find? fun member => member.1 == key).map Prod.snd).getD .null
  | _ => .null

end Json

/-- `t_notify_record.status`. -/
inductive NotifyStatus where
  | kPending
  | kSuccess
  | kFailed
deriving DecidableEq, Repr

/-- A row of `t_notify_record`. -/
structure NotifyRecord where
  notifyNo : String
  orderNo : String
  targetUrl : String
  status : NotifyStatus
  retryCount : Nat
  messageId : String
  responseBody : String
deriving DecidableEq, Repr

/-- The column types of the inserted values, after `Varchar.cut` has taken the spaces
past their ends. Notify numbers and addresses do not end in spaces. -/
def NotifyRecord.fits (record : NotifyRecord) : Bool :=
  record.notifyNo.length ≤ 32 && record.orderNo.length ≤ 32 && record.targetUrl.length ≤ 255 &&
    record.messageId.length ≤ 64

/-- What the consumer takes from outside: the JSON reader, which may throw, the
collation of the table's texts and the configured address. -/
structure ConsumerPlatform where
  parseFromStream : List UInt8 → Except Fault (Option Json)
  collate : String → String
  notifyBaseUrl : String

namespace NotifyConsumer

def kNotifyPath : String := "/api/v1/mock/notify"
def kMaxInProcessRetries : Nat := 2

/-- What `message_id` and its unique key keep of a message id. -/
def storedMessageId (messageId : String) : String := Varchar.cut 64 messageId

/-- What `response_body` keeps of a merchant's answer. -/
def storedResponse (responseBody : String) : String := Varchar.cutBytes (2 ^ 16 - 1) responseBody

/-- The row of an insert, as its columns store it. -/
def newRecord (notifyNo messageId orderNo targetUrl : String) : NotifyRecord :=
  ⟨notifyNo, Varchar.cut 32 orderNo, targetUrl, .kPending, 0, storedMessageId messageId, ""⟩

@[simp] theorem newRecord_messageId (notifyNo messageId orderNo targetUrl : String) :
    (newRecord notifyNo messageId orderNo targetUrl).messageId = storedMessageId messageId := rfl

@[simp] theorem newRecord_notifyNo (notifyNo messageId orderNo targetUrl : String) :
    (newRecord notifyNo messageId orderNo targetUrl).notifyNo = notifyNo := rfl

/-- The calls of `handleMessage`. `updateSuccess` and `updateFailed` are the two
UPDATE statements; the delivery tag is the one of the message at hand. -/
inductive Request where
  | nextId
  | insertWithDedup (notifyNo messageId orderNo targetUrl : String)
  | sendRequest (notifyNo orderNo amount : String)
  | markSuccess (notifyNo responseBody : String)
  | markFailed (notifyNo : String) (retryCount : Nat) (responseBody : String)
  | sleep (seconds : Nat)
  | basicAck
  | basicNack

/-- Affected rows, HTTP responses (none when the request failed), or nothing. -/
@[reducible] def Reply : Request → Type
  | .nextId => String
  | .insertWithDedup _ _ _ _ => Nat
  | .sendRequest _ _ _ => Option (Nat × String)
  | .markSuccess _ _ => Unit
  | .markFailed _ _ _ => Unit
  | .sleep _ => Unit
  | .basicAck => Unit
  | .basicNack => Unit

/-- The handling of a message as code over these calls. -/
abbrev Handler := Code Request Reply Fault

/-- One call of the handler. -/
def request (r : Request) : Handler (Reply r) := perform r

/-- The fields a message is read for. -/
structure Message where
  messageId : String
  orderNo : String
  amount : String
deriving DecidableEq, Repr

/-- The start of `process`: a poison message is nothing, an unexpected shape of the
JSON value throws. -/
def readMessage (C : ConsumerPlatform) (body : List UInt8) : Except Fault (Option Message) := do
  match ← C.parseFromStream body with
  | none => return none
  | some json =>
    if !(← json.isMember "messageId") then return none
    if !(← json.isMember "orderNo") then return none
    let messageId ← (json.member "messageId").asString
    let orderNo ← (json.member "orderNo").asString
    let amount ← if ← json.isMember "amount" then (json.member "amount").asString else pure ""
    return some ⟨messageId, orderNo, amount⟩

/-- The body of an answer with status 200. -/
def accepted (response : Option (Nat × String)) : Option String :=
  response.bind fun (status, body) => if status = 200 then some body else none

/-- The loop of `process`, with the retries that are left. A failed attempt is number
`kMaxInProcessRetries - retries + 1`. -/
def notifyMerchant (notifyNo orderNo amount : String) (retries : Nat) : Handler Bool := do
  let response : Option (Nat × String) ← request (.sendRequest notifyNo orderNo amount)
  match accepted response with
  | some body =>
    request (.markSuccess notifyNo body)
    return true
  | none =>
    match retries with
    | 0 =>
      request (.markFailed notifyNo (kMaxInProcessRetries + 1)
        ((response.map Prod.snd).getD "request failed"))
      return false
    | retries + 1 =>
      request (.sleep (kMaxInProcessRetries - retries))
      notifyMerchant notifyNo orderNo amount retries

/-- `process` for a message that could be read. A row that is there already is taken as done,
whatever has become of its notification. -/
def processMessage (C : ConsumerPlatform) (message : Message) : Handler Bool := do
  let notifyNo : String ← request .nextId
  let affectedRows : Nat ← request (.insertWithDedup notifyNo message.messageId message.orderNo
    (C.notifyBaseUrl ++ kNotifyPath))
  if affectedRows ≠ 1 then
    return true
  notifyMerchant notifyNo message.orderNo message.amount kMaxInProcessRetries

/-- A body that is set aside as malformed is a failure; a message is recorded and told.
Reading itself may throw, outside of the clauses that would turn it into a failure. -/
def process (C : ConsumerPlatform) (body : List UInt8) : Handler Bool :=
  match readMessage C body with
  | .error fault => throw fault
  | .ok none => return false
  | .ok (some message) => processMessage C message

/-- Success is acknowledged, failure sent to the dead letter queue. -/
def answer (processed : Bool) : Handler Unit :=
  if processed then request .basicAck else request .basicNack

/-- The handling of one delivery, answer included. -/
def handleMessage (C : ConsumerPlatform) (body : List UInt8) : Handler Unit :=
  process C body >>= answer

/-! The calls about one record, along any protocol. -/

/-- The calls that `process` makes with a notify number. -/
def concerns (notifyNo : String) : Request → Prop
  | .insertWithDedup number _ _ _ => number = notifyNo
  | .sendRequest number _ _ => number = notifyNo
  | .markSuccess number _ => number = notifyNo
  | .markFailed number _ _ => number = notifyNo
  | .sleep _ => True
  | _ => False

section Protocols

variable {State : Type} {P : Protocol Request (fun r => Except Fault (Reply r)) State}

/-- What is kept by the calls about a record holds when `process` returns: they are permitted,
what they return keeps it, and what they throw is accepted. The retries and the order of the
calls are `processMessage_follows`. -/
structure Keeps (P : Protocol Request (fun r => Except Fault (Reply r)) State)
    (accepted : State → Except Fault Bool → Prop) (holds : State → Prop) (notifyNo : String) :
    Prop where
  permitted : ∀ state r, holds state → concerns notifyNo r → P.permits state r
  returned : ∀ state r value, holds state → concerns notifyNo r → P.answers r (.ok value) →
    holds (P.after state r (.ok value))
  thrown : ∀ state r fault, holds state → concerns notifyNo r → P.answers r (.error fault) →
    accepted (P.after state r (.error fault)) (.error fault)
  ends : ∀ state processed, holds state → accepted state (.ok processed)

variable {accepted : State → Except Fault Bool → Prop} {holds : State → Prop} {notifyNo : String}

/-- One call about the record, followed by what keeps it. -/
theorem Keeps.call (keeps : Keeps P accepted holds notifyNo) {r : Request}
    {next : Reply r → Handler Bool} {state : State} (current : holds state)
    (own : concerns notifyNo r)
    (continues : ∀ value after, holds after → Script.Follows P accepted after (next value)) :
    Script.Follows P accepted state (request r >>= next : Handler Bool) := by
  apply follows_perform (keeps.permitted state r current own)
  · intro value answered
    exact continues value _ (keeps.returned state r value current own answered)
  · intro fault answered
    exact keeps.thrown state r fault current own answered

/-- The notifications of a message keep what each of them keeps. The induction is on the
retries. -/
theorem Keeps.notifyMerchant (keeps : Keeps P accepted holds notifyNo) (orderNo amount : String)
    (retries : Nat) {state : State} (start : holds state) :
    Script.Follows P accepted state (notifyMerchant notifyNo orderNo amount retries) := by
  induction retries generalizing state with
  | zero =>
    rw [notifyMerchant.eq_def]
    apply keeps.call (r := .sendRequest notifyNo orderNo amount) start rfl
    intro response sent current
    cases told : NotifyConsumer.accepted response with
    | some body => exact keeps.call current rfl fun _ marked => keeps.ends marked true
    | none => exact keeps.call current rfl fun _ marked => keeps.ends marked false
  | succ retries inductionHypothesis =>
    rw [notifyMerchant.eq_def]
    apply keeps.call (r := .sendRequest notifyNo orderNo amount) start rfl
    intro response sent current
    cases told : NotifyConsumer.accepted response with
    | some body => exact keeps.call current rfl fun _ marked => keeps.ends marked true
    | none => exact keeps.call current trivial fun _ paused => inductionHypothesis

/-- A message is processed under the number that the first call brings. -/
theorem processMessage_follows (C : ConsumerPlatform) (message : Message) {state : State}
    (permitted : P.permits state .nextId)
    (numbered : ∀ notifyNo, P.answers .nextId (.ok notifyNo) → ∃ holds : State → Prop,
      Keeps P accepted holds notifyNo ∧ holds (P.after state .nextId (.ok notifyNo)))
    (unnumbered : ∀ fault, P.answers .nextId (.error fault) →
      accepted (P.after state .nextId (.error fault)) (.error fault)) :
    Script.Follows P accepted state (processMessage C message) := by
  apply follows_perform permitted
  · intro notifyNo answered
    obtain ⟨holds, keeps, start⟩ := numbered notifyNo answered
    apply keeps.call (r := .insertWithDedup notifyNo message.messageId message.orderNo
      (C.notifyBaseUrl ++ kNotifyPath)) start rfl
    intro affectedRows inserted current
    by_cases duplicate : affectedRows ≠ 1
    · rw [if_pos duplicate]
      exact keeps.ends inserted true current
    · rw [if_neg duplicate]
      exact keeps.notifyMerchant message.orderNo message.amount kMaxInProcessRetries current
  · exact unnumbered

end Protocols

/-! The system around the consumer. -/

/-- One delivery of a message. -/
structure Delivery where
  tag : Nat
  body : List UInt8
deriving DecidableEq

/-- What the consumer thread is doing. `alive` tells whether the connection the
delivery came on still stands. -/
inductive Thread where
  | disconnected
  | waiting
  | handling (delivery : Delivery) (alive : Bool)
      (rest : Script Request (fun r => Except Fault (Reply r)) (Except Fault Unit))

/-- The table, the broker's queues and the consumer, with three histories: the
messages whose notifications the merchant has answered with 200, the copies that
were routed to the dead letter queue, and the messages for whose deliveries an
acknowledgement was sent. -/
structure World where
  records : List NotifyRecord
  ready : List (List UInt8)
  unacked : List Delivery
  nextTag : Nat
  thread : Thread
  told : List (List UInt8)
  dead : List (List UInt8)
  acked : List (List UInt8)

/-- Nothing has been published, stored or delivered. -/
def World.initial : World := ⟨[], [], [], 0, .disconnected, [], [], []⟩

/-- What a call meets outside: the id generator's answer (none when it throws), the
merchant's answer and whether it comes back, and whether the call throws, before or
after it took effect. -/
structure Turn where
  nextId : Option String
  merchant : Option (Nat × String)
  received : Bool
  thrown : Option (Fault × Bool)

/-- Both unique keys of the table. -/
def World.hasRecordKey (collate : String → String) (world : World) (notifyNo messageId : String) :
    Bool :=
  world.records.any fun record => collate record.notifyNo == collate notifyNo ||
    collate record.messageId == collate messageId

/-- `INSERT ... ON DUPLICATE KEY UPDATE notify_no = notify_no` of a row as its columns
store it. -/
def World.insertRecord (collate : String → String) (world : World) (record : NotifyRecord) :
    World × Except Fault Nat :=
  if !record.fits then (world, .error .db)
  else if world.hasRecordKey collate record.notifyNo record.messageId then (world, .ok 0)
  else ({ world with records := world.records ++ [record] }, .ok 1)

/-- `UPDATE ... WHERE notify_no = ?`. -/
def World.updateRecord (collate : String → String) (world : World) (notifyNo : String)
    (set : NotifyRecord → NotifyRecord) : World :=
  { world with records := world.records.map fun record =>
      if collate record.notifyNo == collate notifyNo then set record else record }

/-- The merchant answers a notification. -/
def World.tell (world : World) (body : List UInt8) (merchant : Option (Nat × String)) : World :=
  match accepted merchant with
  | some _ => { world with told := world.told ++ [body] }
  | none => world

/-- The two closing updates of a row. What their column keeps of the answer's text has
to fit it. -/
def World.mark (collate : String → String) (world : World) (turn : Turn)
    (notifyNo responseBody : String) (set : NotifyRecord → NotifyRecord) :
    World × Except Fault Unit :=
  if 2 ^ 16 ≤ (storedResponse responseBody).utf8ByteSize then (world, .error .db)
  else attempt turn.thrown world (world.updateRecord collate notifyNo set) (.ok ())

/-- The effect of one call of the handler of a delivery. An acknowledgement on a
lost connection reaches nobody. -/
def exec (C : ConsumerPlatform) (world : World) (delivery : Delivery) (alive : Bool) (turn : Turn) :
    (r : Request) → World × Except Fault (Reply r)
  | .nextId => (world, match turn.nextId with
      | some id => .ok id
      | none => .error .std)
  | .insertWithDedup notifyNo messageId orderNo targetUrl =>
    let inserted := world.insertRecord C.collate (newRecord notifyNo messageId orderNo targetUrl)
    attempt turn.thrown world inserted.1 inserted.2
  | .sendRequest _ _ _ =>
    attempt turn.thrown world (world.tell delivery.body turn.merchant)
      (.ok (if turn.received then turn.merchant else none))
  | .markSuccess notifyNo responseBody =>
    world.mark C.collate turn notifyNo responseBody fun record =>
      { record with status := .kSuccess, responseBody := storedResponse responseBody }
  | .markFailed notifyNo retryCount responseBody =>
    world.mark C.collate turn notifyNo responseBody fun record =>
      { record with
        status := .kFailed
        retryCount := retryCount
        responseBody := storedResponse responseBody }
  | .sleep _ => (world, .ok ())
  | .basicAck =>
    ({ world with
        acked := world.acked ++ [delivery.body]
        unacked := if alive then world.unacked.erase delivery else world.unacked }, .ok ())
  | .basicNack =>
    (if alive then
      { world with
        dead := world.dead ++ [delivery.body]
        unacked := world.unacked.erase delivery }
    else world, .ok ())

/-- An insert is rejected, finds a key taken or stores its row. Which key is taken the code
cannot tell, nor does it ask. -/
theorem insertRecord_cases (collate : String → String) (world : World) (record : NotifyRecord) :
    world.insertRecord collate record = (world, .error .db) ∨
      (world.hasRecordKey collate record.notifyNo record.messageId = true ∧
        world.insertRecord collate record = (world, .ok 0)) ∨
      world.insertRecord collate record =
        ({ world with records := world.records ++ [record] }, .ok 1) := by
  unfold World.insertRecord
  split
  · exact .inl rfl
  · split
    · rename_i taken
      exact .inr (.inl ⟨taken, rfl⟩)
    · exact .inr (.inr rfl)

/-- A closing update was made or not. -/
theorem mark_world (collate : String → String) (world : World) (turn : Turn)
    (notifyNo responseBody : String) (set : NotifyRecord → NotifyRecord) :
    (world.mark collate turn notifyNo responseBody set).1 = world ∨
      (world.mark collate turn notifyNo responseBody set).1 =
        world.updateRecord collate notifyNo set := by
  unfold World.mark
  split
  · exact .inl rfl
  · exact attempt_world turn.thrown world _ _

/-- The broker takes the unacknowledged deliveries back. -/
def World.requeue (world : World) : World :=
  { world with ready := world.unacked.map Delivery.body ++ world.ready, unacked := [] }

/-- The process dies and is started again. -/
def World.restart (world : World) : World := { world.requeue with thread := .disconnected }

/-- Continue the handler, or end it: with the next delivery, or with the process. No exception
of a handler is caught, so it ends the process and the broker requeues. -/
def World.resume (world : World) (delivery : Delivery) (alive : Bool)
    (rest : Script Request (fun r => Except Fault (Reply r)) (Except Fault Unit)) : World :=
  match rest with
  | .done (.ok ()) => { world with thread := if alive then .waiting else .disconnected }
  | .done (.error _) => world.restart
  | .call r k => { world with thread := .handling delivery alive (.call r k) }

/-- The scheduler's choices: what is published, the consumer's own steps, and the two ways in
which the connection goes. -/
inductive Event where
  | publish (body : List UInt8)
  | subscribe
  | deliver
  | perform (turn : Turn)
  | lose
  | crash

/-- One step of the system. A connection can be lost while it stands, and a process
can die at any time. -/
def step (C : ConsumerPlatform) (world : World) : Event → Option World
  | .publish body => some { world with ready := world.ready ++ [body] }
  | .subscribe =>
    match world.thread with
    | .disconnected => some { world with thread := .waiting }
    | _ => none
  | .deliver =>
    match world.thread, world.ready with
    | .waiting, body :: rest =>
      let delivery := ⟨world.nextTag, body⟩
      some ({ world with
        ready := rest
        unacked := world.unacked ++ [delivery]
        nextTag := world.nextTag + 1 }.resume delivery true (handleMessage C body))
    | _, _ => none
  | .perform turn =>
    match world.thread with
    | .handling delivery alive (.call r k) =>
      let (after, reply) := exec C world delivery alive turn r
      some (after.resume delivery alive (k reply))
    | _ => none
  | .lose =>
    match world.thread with
    | .waiting => some world.restart
    | .handling delivery true rest =>
      some { world.requeue with thread := .handling delivery false rest }
    | _ => none
  | .crash => some world.restart

end NotifyConsumer

end TradeReconcile
