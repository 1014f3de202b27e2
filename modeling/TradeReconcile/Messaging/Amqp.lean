import TradeReconcile.Scripts
import TradeReconcile.Store

/-!
# The two AMQP clients

Both clients drive one connection through the library's calls: `MqClient` publishes
and waits for the broker's confirm, `NotifyConsumer::connectAndSubscribe` declares the
topology and subscribes. A library call together with the test of its reply is one
request here. The `conn_` pointer belongs to the surroundings, like the connection it
points to.
-/

namespace TradeReconcile

open Scripts

namespace Amqp

/-- What the client can read from a connection. The delivery tag of a confirm is not looked
at, so any confirm counts as the one that is waited for. -/
inductive Frame where
  | basicAck (deliveryTag : Nat)
  | basicNack (deliveryTag : Nat)
  | method
  | other
deriving DecidableEq, Repr

/-- An acknowledgement of a publication. -/
def Frame.isAck : Frame → Bool
  | .basicAck _ => true
  | _ => false

/-- Calls of the AMQP library. `connected` is a test of the `conn_` pointer, and the
destruction of a connection also clears it. -/
inductive Request where
  | connected
  | newConnection
  | tcpSocketNew
  | socketOpen
  | login
  | channelOpen
  | exchangeDeclare (exchange kind : String)
  | queueDeclare (queue : String) (deadLetter : Option (String × String))
  | queueBind (queue exchange routingKey : String)
  | basicConsume (queue : String)
  | confirmSelect
  | basicPublish (exchange routingKey payload : String)
  | waitFrame (timeoutSeconds : Nat)
  | connectionClose
  | destroyConnection
deriving DecidableEq, Repr

/-- Success or failure; a wait that ran out or broke off yields no frame. -/
@[reducible] def Reply : Request → Type
  | .connected => Bool
  | .newConnection => Unit
  | .tcpSocketNew => Bool
  | .socketOpen => Bool
  | .login => Bool
  | .channelOpen => Bool
  | .exchangeDeclare _ _ => Bool
  | .queueDeclare _ _ => Bool
  | .queueBind _ _ _ => Bool
  | .basicConsume _ => Bool
  | .confirmSelect => Bool
  | .basicPublish _ _ _ => Bool
  | .waitFrame _ => Option Frame
  | .connectionClose => Unit
  | .destroyConnection => Unit

/-- Code over these calls. -/
abbrev Client := Code Request Reply Fault

def request (r : Request) : Client (Reply r) := perform r

/-- Go on after a success, else clean up and report the failure. -/
def orElse (cleanUp : Client Unit) (attempt next : Client Bool) : Client Bool := do
  if ← attempt then
    next
  else
    cleanUp
    return false

/-- Along any protocol, the next call or the clean-up starts where the attempt ended. -/
theorem follows_orElse {State : Type}
    {P : Protocol Request (fun r => Except Fault (Reply r)) State}
    {accepted : State → Except Fault Bool → Prop} {cleanUp : Client Unit}
    {attempt next : Client Bool} {state : State}
    (attempted : Script.Follows P (fun after outcome =>
      (outcome = .ok true ∧ Script.Follows P accepted after next) ∨
      (outcome = .ok false ∧ Script.Follows P (fun last outcome =>
        outcome = .ok () ∧ accepted last (.ok false)) after cleanUp)) state attempt) :
    Script.Follows P accepted state (orElse cleanUp attempt next) := by
  apply follows_bind
  apply attempted.mono
  rintro after outcome (⟨rfl, continues⟩ | ⟨rfl, cleaned⟩)
  · exact continues
  · apply follows_bind
    apply cleaned.mono
    rintro last outcome ⟨rfl, ends⟩
    exact ends

end Amqp

open Amqp

namespace MqClient

def kConfirmTimeoutSeconds : Nat := 3
def kExchangeName : String := "trade.exchange"
def kExchangeType : String := "topic"

/-- An open connection is closed and given back. -/
def close : Client Unit := do
  if ← request .connected then
    request .connectionClose
    request .destroyConnection

/-- The durable topic exchange of the publisher. -/
def declareExchange : Client Bool := request (.exchangeDeclare kExchangeName kExchangeType)

/-- The exchange is declared before the confirm mode is selected. A connection that is there
is taken as it is, and any failure closes the new one. -/
def ensureConnected : Client Bool := do
  if ← request .connected then
    return true
  else
    request .newConnection
    orElse close (request .tcpSocketNew) <|
      orElse close (request .socketOpen) <|
      orElse close (request .login) <|
      orElse close (request .channelOpen) <|
      orElse close declareExchange <|
      orElse close (request .confirmSelect) <| pure true

/-- The first frame that arrives decides, if it arrives in time. -/
def waitConfirm (timeoutSeconds : Nat) : Client Bool := do
  let frame : Option Frame ← request (.waitFrame timeoutSeconds)
  return frame.any Frame.isAck

/-- A failed connect is tried once more, at once. The second failure is reported to the
caller. -/
def reconnect : Client Bool := do
  if ← ensureConnected then
    return true
  else
    close
    ensureConnected

/-- `publish`: true stands for the broker's confirm, false for a closed connection. The
message is sent with `mandatory` off, so that it was routed is not part of it. -/
def publish (exchange routingKey payload : String) : Client Bool := do
  if ← reconnect then
    orElse close (request (.basicPublish exchange routingKey payload)) <|
      orElse close (waitConfirm kConfirmTimeoutSeconds) <| pure true
  else
    return false

end MqClient

namespace NotifyConsumer

def kExchange : String := "trade.exchange"
def kQueue : String := "trade.notify.queue"
def kRoutingKey : String := "order.paid"
def kDeadExchange : String := "trade.dead.exchange"
def kDeadQueue : String := "trade.dead.queue"
def kDeadRoutingKey : String := "order.dead"

/-- The connection is given up before anything was said on it. -/
def discard : Client Unit := Amqp.request .destroyConnection

/-- The connection is closed and given up. -/
def disconnect : Client Unit := do
  Amqp.request .connectionClose
  Amqp.request .destroyConnection

/-- The topology and the subscription. A failure here leaves the connection as it is: the
seven exits return without closing or destroying it. -/
def subscribe : Client Bool :=
  orElse (pure ()) (Amqp.request (.exchangeDeclare kExchange "topic")) <|
    orElse (pure ()) (Amqp.request (.exchangeDeclare kDeadExchange "topic")) <|
    orElse (pure ()) (Amqp.request (.queueDeclare kDeadQueue none)) <|
    orElse (pure ()) (Amqp.request (.queueBind kDeadQueue kDeadExchange kDeadRoutingKey)) <|
    orElse (pure ()) (Amqp.request (.queueDeclare kQueue (some (kDeadExchange, kDeadRoutingKey)))) <|
    orElse (pure ()) (Amqp.request (.queueBind kQueue kExchange kRoutingKey)) <|
    orElse (pure ()) (Amqp.request (.basicConsume kQueue)) <| pure true

/-- A connection with a channel, and the topology on it. What fails before the channel is open
gives the connection back; `subscribe` does not. -/
def connectAndSubscribe : Client Bool := do
  Amqp.request .newConnection
  orElse discard (Amqp.request .tcpSocketNew) <|
    orElse discard (Amqp.request .socketOpen) <|
    orElse disconnect (Amqp.request .login) <|
    orElse disconnect (Amqp.request .channelOpen) subscribe

end NotifyConsumer

end TradeReconcile
