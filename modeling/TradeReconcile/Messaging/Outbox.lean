import TradeReconcile.Messaging.MessageRelay
import TradeReconcile.Services.Payment

/-!
# From the outbox to the broker

The delivery protocol: committed payments add rows to `t_local_message`, rounds of the
relay publish them over the connection of the `MqClient`, and the notify consumer
declares the topology whenever it connects. The broker takes publications off a
connection some time after they were sent, and its confirms are on the way for some
time too; what a connection that was given up still carries may arrive or get lost.
The scheduler decides on all of that, on the replies of the library, on exceptions of
the database and on crashes of the process, which runs both the relay and the consumer.

A topic exchange is modelled for the binding keys that are used, which have no
wildcards. Delivery from the queue is left out: what counts is what was enqueued.
-/

namespace TradeReconcile

open Scripts Amqp

/-- What a publisher hands to the broker. -/
structure Publication where
  exchange : String
  routingKey : String
  payload : String
deriving DecidableEq, Repr

/-- A binding of a queue to an exchange. -/
structure Binding where
  queue : String
  exchange : String
  routingKey : String
deriving DecidableEq, Repr

/-- The broker's topology, which is durable, and the history of its queues. What matches no
binding is dropped without a trace. -/
structure Broker where
  exchanges : List String
  queues : List String
  bindings : List Binding
  enqueued : List (String × Publication)
deriving DecidableEq, Repr

namespace Broker

/-- A broker without any exchange or queue. -/
def empty : Broker := ⟨[], [], [], []⟩

/-- A copy for every queue whose binding matches; no match drops the message. To the publisher
both look the same, since it has not asked for the message back. -/
def route (broker : Broker) (p : Publication) : Broker :=
  { broker with enqueued := broker.enqueued ++
      (broker.bindings.filter fun binding =>
        binding.exchange == p.exchange && binding.routingKey == p.routingKey).map fun binding =>
          (binding.queue, p) }

/-- Whether a set-up request refers to existing objects. -/
def admits (broker : Broker) : Amqp.Request → Bool
  | .queueBind queue exchange _ => queue ∈ broker.queues && exchange ∈ broker.exchanges
  | .basicConsume queue => queue ∈ broker.queues
  | _ => true

/-- Declarations are idempotent. -/
def setUp (broker : Broker) : Amqp.Request → Broker
  | .exchangeDeclare exchange _ => { broker with exchanges := broker.exchanges.insert exchange }
  | .queueDeclare queue _ => { broker with queues := broker.queues.insert queue }
  | .queueBind queue exchange routingKey =>
    { broker with bindings := broker.bindings.insert ⟨queue, exchange, routingKey⟩ }
  | _ => broker

end Broker

/-- The relay's connection: publications on the way to the broker, frames on the way
back, and the number of publications the broker has taken. -/
structure Channel where
  confirming : Bool
  published : Nat
  inbox : List Publication
  frames : List Frame
deriving DecidableEq, Repr

namespace Channel

/-- A channel that has just been opened, without confirms. -/
def fresh : Channel := ⟨false, 0, [], []⟩

/-- The confirms that have not been read. -/
def acks (channel : Channel) : Nat := channel.frames.countP Frame.isAck

/-- The broker has taken a publication and says so, in confirm mode. Without that mode it says
nothing. -/
def answer (channel : Channel) (rest : List Publication) (frame : Nat → Frame) : Channel :=
  { channel with
    published := channel.published + 1
    inbox := rest
    frames := channel.frames ++
      if channel.confirming then [frame (channel.published + 1)] else [] }

end Channel

namespace Outbox

/-- The consumer thread. -/
inductive Consumer where
  | disconnected
  | connecting (rest : Script Amqp.Request (fun r => Except Fault (Amqp.Reply r))
      (Except Fault Bool))
  | consuming

/-- The outbox, the broker, the relay with its connection and the consumer. `strays`
are publications on connections that the relay has given up. -/
structure World where
  rows : List LocalMessage
  broker : Broker
  round : Option (Script MessageRelayTask.Request
    (fun r => Except Fault (MessageRelayTask.Reply r)) (Except Fault Unit))
  conn : Option Channel
  strays : List Publication
  consumer : Consumer

/-- No message, no topology and no connection. -/
def World.initial : World := ⟨[], .empty, none, none, [], .disconnected⟩

/-- What a call meets outside: an exception of the database, before or after the
statement took effect; which rows are due; whether the broker carries a request out;
and whether the library reports a success. -/
structure Turn where
  thrown : Option (Fault × Bool)
  due : LocalMessage → Bool
  carried : Bool
  succeeds : Bool

/-- `scanPending`: the first pending rows whose time has come. -/
def World.scanPending (world : World) (due : LocalMessage → Bool) (limit : Nat) :
    List LocalMessage :=
  (world.rows.filter fun row => row.status == .kPending && due row).take limit

/-- `UPDATE ... WHERE message_id = ?`. -/
def World.updateRow (collate : String → String) (world : World) (messageId : String)
    (set : LocalMessage → LocalMessage) : World :=
  { world with rows := world.rows.map fun row =>
      if collate row.messageId == collate messageId then set row else row }

/-- `AND status = 0`: only a pending row is confirmed. -/
def acknowledge (row : LocalMessage) : LocalMessage :=
  if row.status = .kPending then { row with status := .kAcked } else row

/-- The relay gives its connection up. -/
def World.dropConnection (world : World) : World :=
  { world with
    conn := none
    strays := world.strays ++ (world.conn.map Channel.inbox).getD [] }

/-- The first frame that has arrived. -/
def World.readFrame (world : World) : World × Option Frame :=
  match world.conn with
  | none => (world, none)
  | some channel =>
    match channel.frames with
    | [] => (world, none)
    | frame :: rest => ({ world with conn := some { channel with frames := rest } }, some frame)

/-- A request about the topology. Success is reported for what was carried out only. -/
def World.setUp (world : World) (turn : Turn) (r : Amqp.Request) : World × Bool :=
  if turn.carried && world.broker.admits r then
    ({ world with broker := world.broker.setUp r }, turn.succeeds)
  else (world, false)

/-- The library calls of the relay. -/
def execMq (world : World) (turn : Turn) : (r : Amqp.Request) → World × Amqp.Reply r
  | .connected => (world, world.conn.isSome)
  | .newConnection => ({ world.dropConnection with conn := some .fresh }, ())
  | .tcpSocketNew => (world, turn.succeeds)
  | .socketOpen => (world, turn.succeeds)
  | .login => (world, turn.succeeds)
  | .channelOpen => (world, turn.succeeds)
  | .exchangeDeclare exchange kind => world.setUp turn (.exchangeDeclare exchange kind)
  | .queueDeclare queue deadLetter => world.setUp turn (.queueDeclare queue deadLetter)
  | .queueBind queue exchange routingKey => world.setUp turn (.queueBind queue exchange routingKey)
  | .basicConsume queue => world.setUp turn (.basicConsume queue)
  | .confirmSelect =>
    (if turn.carried then
      { world with conn := world.conn.map fun channel => { channel with confirming := true } }
    else world, turn.carried && turn.succeeds)
  | .basicPublish exchange routingKey payload =>
    (if turn.carried then
      { world with conn := world.conn.map fun channel =>
          { channel with inbox := channel.inbox ++ [⟨exchange, routingKey, payload⟩] } }
    else world, turn.succeeds)
  | .waitFrame _ => if turn.succeeds then world.readFrame else (world, none)
  | .connectionClose => (world, ())
  | .destroyConnection => (world.dropConnection, ())

/-- The calls of a relay round. A marking statement may throw before or after its effect; the
library's calls do not throw. -/
def exec (collate : String → String) (world : World) (turn : Turn) :
    (r : MessageRelayTask.Request) → World × Except Fault (MessageRelayTask.Reply r)
  | .mqClient => attempt turn.thrown world world (.ok ())
  | .scanPending limit =>
    attempt turn.thrown world world (.ok (world.scanPending turn.due limit))
  | .markAcked messageId =>
    attempt turn.thrown world (world.updateRow collate messageId acknowledge) (.ok ())
  | .markFailed messageId retryCount _ =>
    attempt turn.thrown world
      (world.updateRow collate messageId fun row => { row with retryCount := retryCount }) (.ok ())
  | .markGiveUp messageId =>
    attempt turn.thrown world
      (world.updateRow collate messageId fun row => { row with status := .kFailed }) (.ok ())
  | .mq r => ((execMq world turn r).1, .ok (execMq world turn r).2)

/-- The library calls of the consumer, whose connection is its own. -/
def execConsumer (world : World) (turn : Turn) : (r : Amqp.Request) → World × Amqp.Reply r
  | .connected => (world, true)
  | .newConnection => (world, ())
  | .tcpSocketNew => (world, turn.succeeds)
  | .socketOpen => (world, turn.succeeds)
  | .login => (world, turn.succeeds)
  | .channelOpen => (world, turn.succeeds)
  | .exchangeDeclare exchange kind => world.setUp turn (.exchangeDeclare exchange kind)
  | .queueDeclare queue deadLetter => world.setUp turn (.queueDeclare queue deadLetter)
  | .queueBind queue exchange routingKey => world.setUp turn (.queueBind queue exchange routingKey)
  | .basicConsume queue => world.setUp turn (.basicConsume queue)
  | .confirmSelect => (world, turn.succeeds)
  | .basicPublish _ _ _ => (world, turn.succeeds)
  | .waitFrame _ => (world, none)
  | .connectionClose => (world, ())
  | .destroyConnection => (world, ())

/-- Continue a round, or end it; what a round throws is swallowed by the pool, and the rows
are left as the calls so far have made them. -/
def World.resumeRound (world : World)
    (rest : Script MessageRelayTask.Request (fun r => Except Fault (MessageRelayTask.Reply r))
      (Except Fault Unit)) : World :=
  match rest with
  | .done _ => { world with round := none }
  | .call r k => { world with round := some (.call r k) }

/-- Continue the consumer's attempt, or end it. -/
def World.resumeConsumer (world : World)
    (rest : Script Amqp.Request (fun r => Except Fault (Amqp.Reply r)) (Except Fault Bool)) :
    World :=
  match rest with
  | .done (.ok true) => { world with consumer := .consuming }
  | .done _ => { world with consumer := .disconnected }
  | .call r k => { world with consumer := .connecting (.call r k) }

/-- The broker takes the next publication of the relay's connection. Publishing to a
missing exchange closes the channel; a refused message is not routed; everything else
is routed and confirmed, whether or not a queue was found. -/
def World.accept (world : World) (refuses : Bool) : Option World :=
  match world.conn with
  | none => none
  | some channel =>
    match channel.inbox with
    | [] => none
    | p :: rest =>
      if p.exchange ∉ world.broker.exchanges then
        let closed := { channel with inbox := [], frames := channel.frames ++ [.method] }
        some { world with conn := some closed }
      else if refuses then
        some { world with conn := some (channel.answer rest .basicNack) }
      else
        some { world with
          broker := world.broker.route p
          conn := some (channel.answer rest .basicAck) }

/-- A publication of a connection that was given up arrives or is lost. Nobody hears of it any
more: the confirm would go to a connection that is closed. -/
def World.acceptStray (world : World) (index : Nat) (lost : Bool) : Option World :=
  match world.strays[index]? with
  | none => none
  | some p =>
    some { world with
      strays := world.strays.eraseIdx index
      broker := if lost || p.exchange ∉ world.broker.exchanges then world.broker
        else world.broker.route p }

/-- The shipped configuration. -/
def shipped (P : Platform) : Platform :=
  { P with exchange := some "trade.exchange", routingKeyNotify := some "order.paid" }

/-- A committed payment adds its message, unless its key is taken. -/
def World.pay (P : Platform) (world : World) (message : LocalMessage) : Option World :=
  if message.fits && world.rows.all fun row =>
      P.collate row.messageId != P.collate message.messageId then
    some { world with rows := world.rows ++ [message] }
  else none

/-- The scheduler's choices. The broker takes or refuses publications, and connections are
lost and set up again, whenever it likes. -/
inductive Event where
  | pay (req : PaymentCallbackReq) (order : Order) (messageId : String)
  | round
  | relay (turn : Turn)
  | accept (refuses : Bool)
  | stray (index : Nat) (lost : Bool)
  | frame (frame : Frame)
  | lose
  | connect
  | consumer (turn : Turn)
  | disconnect
  | crash

/-- Payments, the relay, the broker and the consumer's setup, in any order. The connection may
lose messages or frames may come unasked, but a confirm comes only as an answer. -/
def step (P : Platform) (world : World) : Event → Option World
  | .pay req order messageId =>
    world.pay P (PaymentService.buildMessage (shipped P) req order messageId)
  | .round =>
    match world.round with
    | none => some (world.resumeRound MessageRelayTask.relay)
    | some _ => none
  | .relay turn =>
    match world.round with
    | some (.call r k) =>
      let called := exec P.collate world turn r
      some (called.1.resumeRound (k called.2))
    | _ => none
  | .accept refuses => world.accept refuses
  | .stray index lost => world.acceptStray index lost
  | .frame frame =>
    -- Anything but a confirm may come unasked.
    if frame.isAck then none else
      some { world with conn := world.conn.map fun channel =>
        { channel with frames := channel.frames ++ [frame] } }
  | .lose =>
    some { world with conn := world.conn.map fun channel => { channel with inbox := [] } }
  | .connect =>
    match world.consumer with
    | .disconnected => some (world.resumeConsumer NotifyConsumer.connectAndSubscribe)
    | _ => none
  | .consumer turn =>
    match world.consumer with
    | .connecting (.call r k) =>
      let called := execConsumer world turn r
      some (called.1.resumeConsumer (k (.ok called.2)))
    | _ => none
  | .disconnect =>
    match world.consumer with
    | .consuming => some { world with consumer := .disconnected }
    | _ => none
  | .crash => some { world.dropConnection with round := none, consumer := .disconnected }

end Outbox

end TradeReconcile
