import TradeReconcile.Messaging.Amqp

/-!
# The publishing client and its connections

A sequence of `MqClient::publish` calls, one at a time as the mutex has it, with the
connection `conn_` points to and the broker behind it. Messages are told apart by the
call that published them. The scheduler decides which set-up calls are carried out and
which report success, when the broker answers a message and how, which other frames
arrive, what the network loses and which waits run out. A connection that was given up
is never read again; what it still carries may reach the broker.
-/

namespace TradeReconcile

open Scripts Amqp

namespace MqClient

/-- A connection: what was set up on it, the messages published on it, those on the
way to the broker, and the frames that have not been read. A close by the broker is a
frame like any other until the client reads it. -/
structure Link where
  channelOpen : Bool
  exchangeDeclared : Bool
  confirmMode : Bool
  published : List Nat
  inbox : List Nat
  frames : List Frame
deriving DecidableEq, Repr

/-- A connection without a channel, a login or messages. -/
def Link.fresh : Link := ⟨false, false, false, [], [], []⟩

/-- The confirms that have not been read. -/
def Link.acks (link : Link) : Nat := link.frames.countP Frame.isAck

/-- The broker has taken a message and answers it, in confirm mode. -/
def Link.answer (link : Link) (index : Nat) (frame : Frame) : Link :=
  { link with
    inbox := link.inbox.eraseIdx index
    frames := link.frames ++ if link.confirmMode then [frame] else [] }

/-- The calls so far, the one that is running, the connection, the messages on
connections that were given up, the messages for which the broker has sent `basic.ack`
and what the calls returned. -/
structure World where
  calls : Nat
  running : Option (Script Amqp.Request (fun r => Except Fault (Amqp.Reply r)) (Except Fault Bool))
  conn : Option Link
  strays : List Nat
  acked : List Nat
  returned : List (Nat × Bool)

/-- Before the first call: no connection. -/
def World.initial : World := ⟨0, none, none, [], [], []⟩

/-- Whether the other side carries a request out, and whether the call succeeds. -/
structure Turn where
  carried : Bool
  succeeds : Bool

/-- The connection is given up, and what is unread on it is lost. -/
def World.dropConnection (world : World) : World :=
  { world with
    conn := none
    strays := world.strays ++ (world.conn.map Link.inbox).getD [] }

/-- A change of the open connection. -/
def World.onLink (world : World) (change : Link → Link) : World :=
  { world with conn := world.conn.map change }

/-- Success is reported for what was carried out only. -/
def World.setUp (world : World) (turn : Turn) (change : Link → Link) : World × Bool :=
  if turn.carried then (world.onLink change, turn.succeeds) else (world, false)

/-- The first frame that has arrived. -/
def World.readFrame (world : World) : World × Option Frame :=
  match world.conn with
  | none => (world, none)
  | some link =>
    match link.frames with
    | [] => (world, none)
    | frame :: rest => ({ world with conn := some { link with frames := rest } }, some frame)

/-- The library calls of the client. What they return is the environment's choice, save for
what the connection holds: its state, and the frames that have arrived. -/
def exec (world : World) (turn : Turn) : (r : Amqp.Request) → World × Amqp.Reply r
  | .connected => (world, world.conn.isSome)
  | .newConnection => ({ world.dropConnection with conn := some .fresh }, ())
  | .tcpSocketNew => (world, turn.succeeds)
  | .socketOpen => (world, turn.succeeds)
  | .login => (world, turn.succeeds)
  | .channelOpen => world.setUp turn fun link => { link with channelOpen := true }
  | .exchangeDeclare exchange _ => world.setUp turn fun link =>
    { link with exchangeDeclared := link.exchangeDeclared || exchange == kExchangeName }
  | .queueDeclare _ _ => (world, turn.succeeds)
  | .queueBind _ _ _ => (world, turn.succeeds)
  | .basicConsume _ => (world, turn.succeeds)
  | .confirmSelect => world.setUp turn fun link => { link with confirmMode := true }
  | .basicPublish _ _ _ =>
    (world.onLink fun link =>
      { link with
        published := link.published ++ [world.calls]
        inbox := if turn.carried then link.inbox ++ [world.calls] else link.inbox }, turn.succeeds)
  | .waitFrame _ => if turn.succeeds then world.readFrame else (world, none)
  | .connectionClose => (world, ())
  | .destroyConnection => (world.dropConnection, ())

/-- Continue the running call, or return from it. -/
def World.resume (world : World)
    (rest : Script Amqp.Request (fun r => Except Fault (Amqp.Reply r)) (Except Fault Bool)) :
    World :=
  match rest with
  | .done (.ok result) =>
    { world with running := none, returned := world.returned ++ [(world.calls, result)] }
  | .done (.error _) => { world with running := none }
  | .call r k => { world with running := some (.call r k) }

/-- The broker takes a message from the connection and answers it with a confirm or a refusal.
Messages may be taken in any order, or be lost before. -/
def World.answer (world : World) (index : Nat) (acks : Bool) : Option World :=
  match world.conn with
  | none => none
  | some link =>
    match link.inbox[index]? with
    | none => none
    | some message =>
      let frame := if acks then Frame.basicAck message else .basicNack message
      some { world with
        conn := some (link.answer index frame)
        acked := if acks && link.confirmMode then world.acked ++ [message] else world.acked }

/-- The broker takes a message of a connection that was given up; nobody reads the
answer. -/
def World.answerStray (world : World) (index : Nat) (acks : Bool) : Option World :=
  match world.strays[index]? with
  | none => none
  | some message =>
    some { world with
      strays := world.strays.eraseIdx index
      acked := if acks then world.acked ++ [message] else world.acked }

/-- The scheduler's choices. -/
inductive Event where
  | publish (exchange routingKey payload : String)
  | client (turn : Turn)
  | answer (index : Nat) (acks : Bool)
  | stray (index : Nat) (acks : Bool)
  | frame (frame : Frame)
  | lose (index : Nat)

/-- The calls of `publish`, the answers of the library and what the broker does meanwhile.
Answers to messages of an earlier connection come to nobody. -/
def step (world : World) : Event → Option World
  | .publish exchange routingKey payload =>
    match world.running with
    | none => some ({ world with calls := world.calls + 1 }.resume
        (MqClient.publish exchange routingKey payload))
    | some _ => none
  | .client turn =>
    match world.running with
    | some (.call r k) =>
      let called := exec world turn r
      some (called.1.resume (k (.ok called.2)))
    | _ => none
  | .answer index acks => world.answer index acks
  | .stray index acks => world.answerStray index acks
  | .frame frame =>
    -- Confirms answer messages; anything else may come unasked.
    if frame.isAck then none else
      some (world.onLink fun link => { link with frames := link.frames ++ [frame] })
  | .lose index =>
    some (world.onLink fun link => { link with inbox := link.inbox.eraseIdx index })

end MqClient

end TradeReconcile
