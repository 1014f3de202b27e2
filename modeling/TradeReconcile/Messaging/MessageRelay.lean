import TradeReconcile.Messaging.Amqp

/-!
# One round of the message relay

`MessageRelayTask::relay` scans the outbox for pending messages and publishes them one
after the other. What a message throws is caught and the next one goes on; the scan
and the creation of the client are outside of that.
-/

namespace TradeReconcile

open Scripts

namespace MessageRelayTask

def kBatchLimit : Nat := 200
def kMaxRetries : Nat := 8
def kBaseBackoffSeconds : Nat := 5

/-- The statements of `LocalMessageDao`, the creation of the client at its first use
and the client's calls. -/
inductive Request where
  | mqClient
  | scanPending (limit : Nat)
  | markAcked (messageId : String)
  | markFailed (messageId : String) (retryCount backoffSeconds : Nat)
  | markGiveUp (messageId : String)
  | mq (r : Amqp.Request)

/-- What each call returns. -/
@[reducible] def Reply : Request → Type
  | .mqClient => Unit
  | .scanPending _ => List LocalMessage
  | .markAcked _ => Unit
  | .markFailed _ _ _ => Unit
  | .markGiveUp _ => Unit
  | .mq r => Amqp.Reply r

/-- A round as code over these calls. -/
abbrev Relay := Code Request Reply Fault

def request (r : Request) : Relay (Reply r) := perform r

/-- `mqClient_->publish(...)`. -/
def publish (exchange routingKey payload : String) : Relay Bool :=
  ExceptT.mk (Script.lift Request.mq (MqClient.publish exchange routingKey payload))

/-- One message: confirmed, given up, or put off with a doubled delay. The count of the scan
is the one that is raised and written back. -/
def relayMessage (msg : LocalMessage) : Relay Unit := do
  if ← publish msg.exchange msg.routingKey msg.payload then
    request (.markAcked msg.messageId)
  else
    let next := msg.retryCount + 1
    if next ≥ kMaxRetries then
      request (.markGiveUp msg.messageId)
    else
      request (.markFailed msg.messageId next (kBaseBackoffSeconds * 2 ^ (next - 1)))

/-- The loop of `relay`. An exception about one message is caught, and the next message has
its turn. -/
def relayEach : List LocalMessage → Relay Unit
  | [] => pure ()
  | msg :: rest => do
    tryCatch (relayMessage msg) fun _ => pure ()
    relayEach rest

/-- One round: the client is created if it is missing, and the due messages are relayed one by
one. -/
def relay : Relay Unit := do
  request .mqClient
  let messages : List LocalMessage ← request (.scanPending kBatchLimit)
  relayEach messages

end MessageRelayTask

end TradeReconcile
