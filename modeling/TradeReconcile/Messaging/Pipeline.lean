import TradeReconcile.Messaging.NotifyConsumer
import TradeReconcile.Messaging.Outbox
import TradeReconcile.Services.Calls

/-!
# From the callback to the merchant

The parts of the process put together: the service calls over the database, the relay with
the broker, and the notify consumer with its table. They meet in two places. The outbox is
one table, so a callback that commits adds a row for the relay to scan; and what the broker
puts into the notify queue is what the consumer takes its deliveries from. The consumer's
thread connects, subscribes and consumes one after the other, and the process dies as a
whole; its calls may fail at any statement, as ever.
-/

namespace TradeReconcile

/-- The whole process: the services over their database, the relay and the broker, and the
consumer with its own table. -/
structure Pipeline where
  trade : Trade
  outbox : Outbox.World
  notify : NotifyConsumer.World

namespace Pipeline

/-- A store without messages, a broker without topology and no notification. -/
def initial (first : Transactions.Shared Db) : Pipeline := ⟨.initial first, .initial, .initial⟩

/-- The scheduler's choices. -/
inductive Action where
  | call (action : Transactions.Action Call Env Fault)
  | relay (event : Outbox.Event)
  | consumer (event : NotifyConsumer.Event)
  | crash

/-- The bytes of a message on the wire. -/
def bodyOf (p : Publication) : List UInt8 := p.payload.toUTF8.toList

/-- The messages that a step has committed. -/
def written (before after : Db) : List LocalMessage :=
  (after.messages.drop before.messages.length).map (·.val)

/-- What a step has put into the notify queue. -/
def arrivals (before after : Broker) : List (List UInt8) :=
  ((after.enqueued.drop before.enqueued.length).filter fun entry =>
    entry.1 == NotifyConsumer.kQueue).map fun entry => bodyOf entry.2

/-- Whether an event belongs to one part alone, and the consumer's thread is where it has to
be for it. Commits, arrivals and the end of the process are joint steps. -/
def enabled (pipeline : Pipeline) : Action → Bool
  | .relay (.pay _ _ _) | .relay .crash | .consumer (.publish _) | .consumer .crash => false
  | .relay .connect | .relay .disconnect =>
    match pipeline.notify.thread with
    | .disconnected => true
    | _ => false
  | .consumer .subscribe =>
    match pipeline.outbox.consumer with
    | .consuming => true
    | _ => false
  | _ => true

/-- A step of a service call. The messages that it commits become pending rows of the relay,
in the same step, since both are one table. -/
def serve (P : Platform) (pipeline : Pipeline) (action : Transactions.Action Call Env Fault) :
    Option Pipeline :=
  (pipeline.trade.step (engine P.collate) (program P) action).map fun trade =>
    { pipeline with
      trade := trade
      outbox := { pipeline.outbox with
        rows := pipeline.outbox.rows ++
          written pipeline.trade.shared.committed trade.shared.committed } }

/-- A step of the relay, of the broker or of the consumer's connection. The services' tables
are not touched. -/
def relay (P : Platform) (pipeline : Pipeline) (event : Outbox.Event) : Option Pipeline :=
  (Outbox.step P pipeline.outbox event).map fun outbox =>
    { pipeline with
      outbox := outbox
      notify := { pipeline.notify with
        ready := pipeline.notify.ready ++ arrivals pipeline.outbox.broker outbox.broker } }

/-- A step of the consumer's thread. -/
def consume (C : ConsumerPlatform) (pipeline : Pipeline) (event : NotifyConsumer.Event) :
    Option Pipeline :=
  (NotifyConsumer.step C pipeline.notify event).map fun notify => { pipeline with notify := notify }

/-- One action of one part; a crash takes all parts down. What was committed, and what the
broker holds, stays. -/
def act (P : Platform) (C : ConsumerPlatform) (pipeline : Pipeline) : Action → Option Pipeline
  | .call action => pipeline.serve P action
  | .relay event => pipeline.relay P event
  | .consumer event => pipeline.consume C event
  | .crash => (pipeline.relay P .crash).bind fun dropped => dropped.consume C .crash

/-- An action, where it leaves the parts connected: the outbox of the relay is the services'
table. -/
def step (P : Platform) (C : ConsumerPlatform) (pipeline : Pipeline) (action : Action) :
    Option Pipeline :=
  if pipeline.enabled action then pipeline.act P C action else none

end Pipeline

end TradeReconcile
