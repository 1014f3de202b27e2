import TradeReconcile.Messaging.MessageRelay

/-!
# Rounds of the message relay, call by call

`MessageRelayTask::relay` once more, with `publish` as one call whose result is given
from outside, and the outbox it works on, with its retry times and the clock of the
database. One round runs at a time. The scheduler decides on the results of `publish`,
on exceptions, before or after a statement took effect, on the time, on the payments
that add messages and on crashes between two calls.
-/

namespace TradeReconcile

open Scripts

namespace Rounds

open MessageRelayTask (kBatchLimit kMaxRetries kBaseBackoffSeconds)

/-- The calls of a round. `publish` is called with three fields of the message and is one call
here, whatever it does with the library. -/
inductive Request where
  | mqClient
  | scanPending (limit : Nat)
  | publish (msg : LocalMessage)
  | markAcked (messageId : String)
  | markFailed (messageId : String) (retryCount backoffSeconds : Nat)
  | markGiveUp (messageId : String)

/-- What each call returns. -/
@[reducible] def Reply : Request → Type
  | .mqClient => Unit
  | .scanPending _ => List LocalMessage
  | .publish _ => Bool
  | .markAcked _ => Unit
  | .markFailed _ _ _ => Unit
  | .markGiveUp _ => Unit

/-- A round as code over these calls. -/
abbrev Relay := Code Request Reply Fault

/-- What is left of a round. -/
abbrev Rest := Script Request (fun r => Except Fault (Reply r)) (Except Fault Unit)

def request (r : Request) : Relay (Reply r) := perform r

/-- `MessageRelayTask::relayMessage` with `publish` as one call. It is the full relay's code
otherwise, and a theorem carries one into the other. -/
def relayMessage (msg : LocalMessage) : Relay Unit := do
  if ← request (.publish msg) then
    request (.markAcked msg.messageId)
  else
    let next := msg.retryCount + 1
    if next ≥ kMaxRetries then
      request (.markGiveUp msg.messageId)
    else
      request (.markFailed msg.messageId next (kBaseBackoffSeconds * 2 ^ (next - 1)))

/-- The messages of a scan one by one; the exceptions of one do not reach the others. -/
def relayEach : List LocalMessage → Relay Unit
  | [] => pure ()
  | msg :: rest => do
    tryCatch (relayMessage msg) fun _ => pure ()
    relayEach rest

/-- A round with `publish` as one call. -/
def relay : Relay Unit := do
  request .mqClient
  let messages : List LocalMessage ← request (.scanPending kBatchLimit)
  relayEach messages

/-- Each call by the calls of the full round. -/
def implement : (r : Request) → Script MessageRelayTask.Request
    (fun r => Except Fault (MessageRelayTask.Reply r)) (Except Fault (Reply r))
  | .mqClient => MessageRelayTask.request .mqClient
  | .scanPending limit => MessageRelayTask.request (.scanPending limit)
  | .publish msg => MessageRelayTask.publish msg.exchange msg.routingKey msg.payload
  | .markAcked messageId => MessageRelayTask.request (.markAcked messageId)
  | .markFailed messageId retryCount backoffSeconds =>
    MessageRelayTask.request (.markFailed messageId retryCount backoffSeconds)
  | .markGiveUp messageId => MessageRelayTask.request (.markGiveUp messageId)

/-- With `publish` implemented by its own calls, this is the relay's code. The lemmas below
say so from a call up to the round. -/
theorem request_implemented (r : Request) : Script.substitute implement (request r) = implement r :=
  substitute_perform implement r

/-- The same of one message: the cases are what `publish` returned and whether the retries are
used up. -/
theorem relayMessage_implemented (msg : LocalMessage) :
    Script.substitute implement (relayMessage msg) = MessageRelayTask.relayMessage msg := by
  unfold relayMessage MessageRelayTask.relayMessage
  rw [substitute_sequence, request_implemented]
  congr 1
  funext confirmed
  cases confirmed with
  | true => exact request_implemented _
  | false =>
    dsimp only
    split
    · rename_i absurd'
      cases absurd'
    · split
      · exact request_implemented _
      · exact request_implemented _

/-- The same of the messages of a scan, by induction on them. -/
theorem relayEach_implemented (messages : List LocalMessage) :
    Script.substitute implement (relayEach messages) = MessageRelayTask.relayEach messages := by
  induction messages with
  | nil => rfl
  | cons msg rest inductionHypothesis =>
    unfold relayEach MessageRelayTask.relayEach
    rw [substitute_sequence, substitute_tryCatch, relayMessage_implemented]
    congr 1
    funext _
    exact inductionHypothesis

/-- The round is the full round, seen at the calls of `publish`. -/
theorem relay_implemented : Script.substitute implement relay = MessageRelayTask.relay := by
  unfold relay MessageRelayTask.relay
  rw [substitute_sequence, request_implemented]
  congr 1
  funext _
  rw [ExceptT.mk, substitute_sequence, request_implemented]
  congr 1
  funext messages
  exact relayEach_implemented messages

/-! The outbox. -/

/-- A row of `t_local_message`, with the columns that a round reads and writes. A DATETIME is
a number of seconds here. -/
structure Entry where
  messageId : String
  bizType : String
  bizId : String
  exchange : String
  routingKey : String
  payload : String
  status : MessageStatus
  retryCount : Nat
  nextRetryTime : Int
deriving DecidableEq, Repr

/-- What `scanPending` reads of a row; status and time keep their defaults. -/
def Entry.toMessage (entry : Entry) : LocalMessage :=
  ⟨entry.messageId, entry.bizType, entry.bizId, entry.exchange, entry.routingKey, entry.payload,
    .kPending, entry.retryCount, ""⟩

/-- A failure that `markFailed` recorded, and when. -/
structure Failure where
  messageId : String
  number : Nat
  time : Int
deriving DecidableEq, Repr

/-- The table, NOW(), the round that is running, the results of the `publish` calls and
the recorded failures. -/
structure World where
  rows : List Entry
  clock : Int
  running : Option Rest
  published : List (String × Bool)
  failures : List Failure

/-- An empty table at some time. -/
def World.initial (clock : Int) : World := ⟨[], clock, none, [], []⟩

/-- What a call meets outside: an exception, before or after the statement took effect,
and the result of `publish`. -/
structure Turn where
  thrown : Option (Fault × Bool)
  confirmed : Bool

/-- The pending messages that are due, in the order of their rows, up to a limit. -/
def World.scanPending (world : World) (limit : Nat) : List LocalMessage :=
  ((world.rows.filter fun row =>
    row.status == .kPending && row.nextRetryTime ≤ world.clock).take limit).map Entry.toMessage

/-- `UPDATE ... WHERE message_id = ?`. -/
def World.updateRow (collate : String → String) (world : World) (messageId : String)
    (set : Entry → Entry) : World :=
  { world with rows := world.rows.map fun row =>
      if collate row.messageId == collate messageId then set row else row }

/-- `AND status = 0`. -/
def acknowledge (row : Entry) : Entry :=
  if row.status = .kPending then { row with status := .kAcked } else row

/-- The UPDATE of `markFailed`, noted in the history. The due time is reckoned from the
database's clock at this statement. -/
def World.fail (collate : String → String) (world : World) (messageId : String)
    (retryCount backoffSeconds : Nat) : World :=
  { world.updateRow collate messageId fun row =>
      { row with retryCount := retryCount, nextRetryTime := world.clock + backoffSeconds } with
    failures := world.failures ++ [⟨messageId, retryCount, world.clock⟩] }

/-- One call with what it meets outside. A `publish` that throws has published nothing that is
counted; a mark that throws may or may not have been made. -/
def exec (collate : String → String) (world : World) (turn : Turn) :
    (r : Request) → World × Except Fault (Reply r)
  | .mqClient => attempt turn.thrown world world (.ok ())
  | .scanPending limit => attempt turn.thrown world world (.ok (world.scanPending limit))
  | .publish msg =>
    match turn.thrown with
    | some (fault, _) => (world, .error fault)
    | none => ({ world with published := world.published ++ [(msg.messageId, turn.confirmed)] },
        .ok turn.confirmed)
  | .markAcked messageId =>
    attempt turn.thrown world (world.updateRow collate messageId acknowledge) (.ok ())
  | .markFailed messageId retryCount backoffSeconds =>
    attempt turn.thrown world (world.fail collate messageId retryCount backoffSeconds) (.ok ())
  | .markGiveUp messageId =>
    attempt turn.thrown world
      (world.updateRow collate messageId fun row => { row with status := .kFailed }) (.ok ())

/-- What is left of the round; a round that has ended is over. -/
def World.resume (world : World) (rest : Rest) : World :=
  match rest with
  | .done _ => { world with running := none }
  | .call r k => { world with running := some (.call r k) }

/-- A committed payment adds its message, unless the key is taken. -/
def World.insert (collate : String → String) (world : World) (msg : LocalMessage) : Option World :=
  if world.rows.all fun row => collate row.messageId != collate msg.messageId then
    some { world with rows := world.rows ++
      [⟨msg.messageId, msg.bizType, msg.bizId, msg.exchange, msg.routingKey, msg.payload, .kPending,
        0, world.clock⟩] }
  else none

/-- The scheduler's choices. -/
inductive Event where
  | insert (msg : LocalMessage)
  | tick (clock : Int)
  | round
  | relay (turn : Turn)
  | crash

/-- Insertions, the clock, and the calls of a round. The clock may go on, stand still or go
back, and a crash ends the round where it is. -/
def step (collate : String → String) (world : World) : Event → Option World
  | .insert msg => world.insert collate msg
  | .tick clock => some { world with clock := clock }
  | .round =>
    match world.running with
    | none => some (world.resume relay)
    | some _ => none
  | .relay turn =>
    match world.running with
    | some (.call r k) =>
      let called := exec collate world turn r
      some (called.1.resume (k called.2))
    | _ => none
  | .crash => some { world with running := none }

end Rounds

end TradeReconcile
