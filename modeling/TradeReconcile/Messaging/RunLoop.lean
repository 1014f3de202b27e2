import TradeReconcile.Messaging.Amqp
import TradeReconcile.Transitions

/-!
# The consumer's thread and its connections

`NotifyConsumer::runLoop` connects, consumes until the connection breaks, sleeps and starts
again. A connection lives in memory from `amqp_new_connection` until
`amqp_destroy_connection`; `conn_` points to the newest one or nowhere. The scheduler decides
which calls succeed and when the connection breaks. Handling a message only sends its answer
on the connection, so it is one step here.
-/

namespace TradeReconcile.RunLoop

open Scripts Amqp NotifyConsumer

/-- The connections created so far, numbered from zero, and a history: how many topology
calls have been refused. -/
structure Connections where
  created : Nat
  live : List Nat
  conn : Option Nat
  refusals : Nat
deriving DecidableEq, Repr

/-- `amqp_new_connection`. -/
def Connections.newConnection (connections : Connections) : Connections :=
  { connections with
    created := connections.created + 1
    live := connections.live ++ [connections.created]
    conn := some connections.created }

/-- `amqp_destroy_connection`. -/
def Connections.destroyConnection (connections : Connections) : Connections :=
  { connections with
    live := connections.live.filter fun id => some id != connections.conn
    conn := none }

/-- A topology call, which the broker accepts or refuses. -/
def Connections.declare (connections : Connections) (success : Bool) : Connections × Bool :=
  ({ connections with
      refusals := if success then connections.refusals else connections.refusals + 1 }, success)

/-- The effect and the reply of a library call. Only the topology calls are counted when they
fail, since only these leave the function with the connection open. -/
def exec (connections : Connections) (success : Bool) :
    (r : Amqp.Request) → Connections × Amqp.Reply r
  | .connected => (connections, connections.conn.isSome)
  | .newConnection => (connections.newConnection, ())
  | .tcpSocketNew => (connections, success)
  | .socketOpen => (connections, success)
  | .login => (connections, success)
  | .channelOpen => (connections, success)
  | .exchangeDeclare _ _ => connections.declare success
  | .queueDeclare _ _ => connections.declare success
  | .queueBind _ _ _ => connections.declare success
  | .basicConsume _ => connections.declare success
  | .confirmSelect => (connections, success)
  | .basicPublish _ _ _ => (connections, success)
  | .waitFrame _ => (connections, none)
  | .connectionClose => (connections, ())
  | .destroyConnection => (connections.destroyConnection, ())

/-- The calls that are left of a function. -/
abbrev Rest (α : Type) := Script Amqp.Request (fun r => Except Fault (Amqp.Reply r)) (Except Fault α)

/-- Where the thread is. -/
inductive Stage where
  | idle
  | connecting (rest : Rest Bool)
  | returned (subscribed : Bool)
  | consuming
  | leaving (rest : Rest Unit)

/-- The connections and where the loop stands. -/
structure State where
  connections : Connections
  stage : Stage

/-- No connection, and the loop about to sleep. -/
def State.initial : State := ⟨⟨0, [], none, 0⟩, .idle⟩

/-- `connectAndSubscribe` goes on or returns. -/
def connect (connections : Connections) : Rest Bool → Option State
  | .done (.ok subscribed) => some ⟨connections, .returned subscribed⟩
  | .done (.error _) => none
  | .call r k => some ⟨connections, .connecting (.call r k)⟩

/-- The end of `consumeLoop` goes on, or `runLoop` sleeps. -/
def leave (connections : Connections) : Rest Unit → Option State
  | .done (.ok ()) => some ⟨connections, .idle⟩
  | .done (.error _) => none
  | .call r k => some ⟨connections, .leaving (.call r k)⟩

/-- The scheduler's choices. -/
inductive Event where
  | wake
  | reply (success : Bool)
  | proceed
  | message
  | lose
deriving DecidableEq, Repr

/-- The loop wakes up, goes on after a reply of the library, handles a message, or loses its
connection. -/
def step (state : State) : Event → Option State
  | .wake =>
    match state.stage with
    | .idle => connect state.connections connectAndSubscribe
    | _ => none
  | .reply success =>
    match state.stage with
    | .connecting (.call r k) =>
      let (connections, reply) := exec state.connections success r
      connect connections (k (.ok reply))
    | .leaving (.call r k) =>
      let (connections, reply) := exec state.connections success r
      leave connections (k (.ok reply))
    | _ => none
  | .proceed =>
    match state.stage with
    | .returned true => some { state with stage := .consuming }
    | .returned false => some { state with stage := .idle }
    | _ => none
  | .message =>
    match state.stage with
    | .consuming => some state
    | _ => none
  | .lose =>
    match state.stage with
    | .consuming => leave state.connections disconnect
    | _ => none

end TradeReconcile.RunLoop
