import TradeReconcile.Messaging.RunLoop

/-!
# Connections of the consumer

An attempt to subscribe ends with its connection in use or destroyed, unless the broker
refuses one of the topology calls: then it returns without destroying the connection, which
the next attempt forgets. Every refusal so leaves one connection behind, and nothing else does.
-/

namespace TradeReconcile.RunLoop

open Scripts Amqp NotifyConsumer Transitions

/-! What an attempt holds. -/

/-- The connection of an attempt: not created yet, in use, or given up. The code never asks
for it; it is read off the calls. -/
inductive Holding where
  | before
  | held
  | gone
deriving DecidableEq, Repr

/-- A refused topology call ends the attempt. -/
def declared (holding : Holding) : Except Fault Bool → Holding
  | .ok false => .gone
  | _ => holding

/-- The order of the calls around a connection, with the replies that `exec` gives: first a
new one, then any others, and none once the connection is gone. -/
def keeping : Protocol Amqp.Request (fun r => Except Fault (Amqp.Reply r)) Holding where
  permits
    | .before, r => r = .newConnection
    | .held, r => r ≠ .newConnection
    | .gone, _ => False
  answers r reply := ∃ connections success, reply = .ok (exec connections success r).2
  after
    | _, .newConnection, _ => .held
    | _, .destroyConnection, _ => .gone
    | holding, .exchangeDeclare _ _, reply => declared holding reply
    | holding, .queueDeclare _ _, reply => declared holding reply
    | holding, .queueBind _ _ _, reply => declared holding reply
    | holding, .basicConsume _, reply => declared holding reply
    | holding, _, _ => holding

/-- True comes with the connection, false without. -/
def Subscribes (holding : Holding) (outcome : Except Fault Bool) : Prop :=
  (outcome = .ok true ∧ holding = .held) ∨ (outcome = .ok false ∧ holding = .gone)

/-- `consumeLoop` gives the connection up. -/
def Leaves (holding : Holding) (outcome : Except Fault Unit) : Prop :=
  outcome = .ok () ∧ holding = .gone

/-- Giving up before there is a channel leaves no connection. -/
theorem discard_leaves : Script.Follows keeping Leaves .held discard := by
  refine ⟨by simp [keeping], ?_⟩
  rintro _ ⟨connections, success, rfl⟩
  exact ⟨rfl, rfl⟩

/-- Nor does giving up after the login. -/
theorem disconnect_leaves : Script.Follows keeping Leaves .held disconnect := by
  apply follows_perform (r := Amqp.Request.connectionClose)
  · simp [keeping]
  · intro _ _
    exact discard_leaves
  · rintro fault ⟨connections, success, impossible⟩
    cases impossible

/-- A failed step before the topology is cleaned up. -/
theorem step_subscribes {cleanUp : Client Unit} {call next : Client Bool}
    (cleans : Script.Follows keeping Leaves .held cleanUp)
    (called : Script.Follows keeping (fun holding outcome =>
      (∃ success, outcome = .ok success) ∧ holding = .held) .held call)
    (continues : Script.Follows keeping Subscribes .held next) :
    Script.Follows keeping Subscribes .held (orElse cleanUp call next) := by
  apply follows_orElse
  apply called.mono
  rintro _ _ ⟨⟨success, rfl⟩, rfl⟩
  cases success with
  | true => exact .inl ⟨rfl, continues⟩
  | false =>
    refine .inr ⟨rfl, cleans.mono ?_⟩
    rintro holding _ ⟨rfl, gone⟩
    exact ⟨rfl, .inr ⟨rfl, gone⟩⟩

/-- A refused topology call is not. -/
theorem declare_subscribes {call next : Client Bool}
    (called : Script.Follows keeping Subscribes .held call)
    (continues : Script.Follows keeping Subscribes .held next) :
    Script.Follows keeping Subscribes .held (orElse (pure ()) call next) := by
  apply follows_orElse
  apply called.mono
  rintro _ _ (⟨rfl, rfl⟩ | ⟨rfl, rfl⟩)
  · exact .inl ⟨rfl, continues⟩
  · exact .inr ⟨rfl, rfl, .inr ⟨rfl, rfl⟩⟩

/-- The calls up to the channel leave the connection alone. -/
theorem connecting_calls :
    let Keeps := fun r : Amqp.Request => Script.Follows keeping
      (fun holding outcome => (∃ reply, outcome = .ok reply) ∧ holding = .held) .held (Amqp.request r)
    Keeps .tcpSocketNew ∧ Keeps .socketOpen ∧ Keeps .login ∧ Keeps .channelOpen := by
  refine ⟨?_, ?_, ?_, ?_⟩
  all_goals
    refine ⟨by simp [keeping], ?_⟩
    rintro _ ⟨connections, success, rfl⟩
    exact ⟨⟨_, rfl⟩, rfl⟩

/-- A topology call ends the attempt or not, depending on the broker. -/
theorem topology_calls :
    (∀ exchange kind, Script.Follows keeping Subscribes .held
      (Amqp.request (.exchangeDeclare exchange kind))) ∧
    (∀ queue deadLetter, Script.Follows keeping Subscribes .held
      (Amqp.request (.queueDeclare queue deadLetter))) ∧
    (∀ queue exchange routingKey, Script.Follows keeping Subscribes .held
      (Amqp.request (.queueBind queue exchange routingKey))) ∧
    ∀ queue, Script.Follows keeping Subscribes .held (Amqp.request (.basicConsume queue)) := by
  refine ⟨fun exchange kind => ?_, fun queue deadLetter => ?_, fun queue exchange routingKey => ?_,
    fun queue => ?_⟩
  all_goals
    refine ⟨by simp [keeping], ?_⟩
    rintro _ ⟨connections, success, rfl⟩
    cases success with
    | true => exact .inl ⟨rfl, rfl⟩
    | false => exact .inr ⟨rfl, rfl⟩

/-- The topology on an open connection: it is all there, or a call was refused and the
connection stays. -/
theorem subscribe_subscribes : Script.Follows keeping Subscribes .held subscribe := by
  obtain ⟨exchange, queue, bind, consume⟩ := topology_calls
  apply declare_subscribes (exchange kExchange "topic")
  apply declare_subscribes (exchange kDeadExchange "topic")
  apply declare_subscribes (queue kDeadQueue none)
  apply declare_subscribes (bind kDeadQueue kDeadExchange kDeadRoutingKey)
  apply declare_subscribes (queue kQueue (some (kDeadExchange, kDeadRoutingKey)))
  apply declare_subscribes (bind kQueue kExchange kRoutingKey)
  apply declare_subscribes (consume kQueue)
  exact .inl ⟨rfl, rfl⟩

/-- From no connection to a subscribed one, to none, or to a refusal. -/
theorem connectAndSubscribe_subscribes :
    Script.Follows keeping Subscribes .before connectAndSubscribe := by
  obtain ⟨socket, opened, login, channel⟩ := connecting_calls
  apply follows_perform (r := Amqp.Request.newConnection)
  · rfl
  · intro _ _
    apply step_subscribes discard_leaves socket
    apply step_subscribes discard_leaves opened
    apply step_subscribes disconnect_leaves login
    apply step_subscribes disconnect_leaves channel
    exact subscribe_subscribes
  · rintro fault ⟨connections, success, impossible⟩
    cases impossible

/-! What the thread holds. -/

/-- The connections that live, besides the one of the attempt. -/
def Holds (connections : Connections) : Holding → Prop
  | .held => ∃ older id, connections.live = older ++ [id] ∧ connections.conn = some id ∧
      (∀ other ∈ older, other < id) ∧ id < connections.created ∧ older.length = connections.refusals
  | _ => (∀ id ∈ connections.live, id < connections.created) ∧
      connections.live.length = connections.refusals

/-- A new connection is held. -/
theorem newConnection_holds {connections : Connections} (holds : Holds connections .before) :
    Holds connections.newConnection .held := by
  obtain ⟨fresh, count⟩ := holds
  exact ⟨connections.live, connections.created, rfl, rfl, fresh, Nat.lt_succ_self _, count⟩

/-- A connection that is given back is gone. -/
theorem destroyConnection_holds {connections : Connections} (holds : Holds connections .held) :
    Holds connections.destroyConnection .gone := by
  obtain ⟨older, id, live, conn, above, fresh, count⟩ := holds
  have left : connections.destroyConnection.live = older := by
    have kept : older.filter (fun other => some other != some id) = older := by
      rw [List.filter_eq_self]
      intro other member
      simpa using (above other member).ne
    simp [Connections.destroyConnection, live, conn, kept]
  constructor
  · rw [left]
    intro other member
    exact (above other member).trans fresh
  · rw [left]
    exact count

/-- A refusal leaves the connection behind. -/
theorem declare_holds {connections : Connections} (holds : Holds connections .held) (success : Bool) :
    Holds (connections.declare success).1 (declared .held (.ok success)) := by
  obtain ⟨older, id, live, conn, above, fresh, count⟩ := holds
  cases success with
  | true => exact ⟨older, id, live, conn, above, fresh, count⟩
  | false =>
    constructor
    · intro other member
      change other ∈ connections.live at member
      rw [live, List.mem_append, List.mem_singleton] at member
      obtain old | rfl := member
      · exact (above other old).trans fresh
      · exact fresh
    · change connections.live.length = connections.refusals + 1
      rw [live, List.length_append, count, List.length_singleton]

/-- A permitted call keeps the account. -/
theorem exec_holds {connections : Connections} {holding : Holding} (holds : Holds connections holding)
    (success : Bool) {r : Amqp.Request} (permitted : keeping.permits holding r) :
    Holds (exec connections success r).1
      (keeping.after holding r (.ok (exec connections success r).2)) := by
  cases holding with
  | before =>
    obtain rfl : r = .newConnection := permitted
    exact newConnection_holds holds
  | held =>
    cases r with
    | newConnection => exact absurd rfl permitted
    | destroyConnection => exact destroyConnection_holds holds
    | exchangeDeclare | queueDeclare | queueBind | basicConsume => exact declare_holds holds success
    | _ => exact holds
  | gone => exact permitted.elim

/-- The connections and the rest of the running function fit together: where the thread is
says whether it holds a connection, and the others were left behind by refusals. -/
def Sound (state : State) : Prop :=
  match state.stage with
  | .idle => Holds state.connections .gone
  | .connecting rest => ∃ holding, Holds state.connections holding ∧
      Script.Follows keeping Subscribes holding rest
  | .returned true => Holds state.connections .held
  | .returned false => Holds state.connections .gone
  | .consuming => Holds state.connections .held
  | .leaving rest => Holds state.connections .held ∧ (rest = disconnect ∨ rest = discard)

/-- Where the connecting code stops to ask the library, or ends, the connections are as its
progress says. -/
theorem connect_sound {connections : Connections} {rest : Rest Bool} {next : State}
    (holding : Holding) (holds : Holds connections holding)
    (follows : Script.Follows keeping Subscribes holding rest)
    (taken : connect connections rest = some next) :
    Sound next ∧ next.connections = connections := by
  cases rest with
  | done outcome =>
    obtain ⟨rfl, rfl⟩ | ⟨rfl, rfl⟩ := follows
    · obtain rfl := Option.some.inj taken
      exact ⟨holds, rfl⟩
    · obtain rfl := Option.some.inj taken
      exact ⟨holds, rfl⟩
  | call r k =>
    obtain rfl := Option.some.inj taken
    exact ⟨⟨holding, holds, follows⟩, rfl⟩

/-- The topology calls of an attempt. -/
def isTopology : Amqp.Request → Bool
  | .exchangeDeclare _ _ => true
  | .queueDeclare _ _ => true
  | .queueBind _ _ _ => true
  | .basicConsume _ => true
  | _ => false

/-- Refusals are counted where a topology call fails. -/
theorem exec_refusals (connections : Connections) (success : Bool) (r : Amqp.Request) :
    (exec connections success r).1.refusals =
      if isTopology r && !success then connections.refusals + 1 else connections.refusals := by
  cases r <;> cases success <;> rfl

/-- A refused topology call ends the attempt. -/
theorem refused_gone {connections : Connections} {holding : Holding} {r : Amqp.Request}
    (permitted : keeping.permits holding r) (topology : isTopology r = true) :
    keeping.after holding r (.ok (exec connections false r).2) = .gone := by
  cases r <;> first | rfl | cases topology

/-- Once the connection is gone nothing is left to do but to return false. -/
theorem gone_returns {rest : Rest Bool} (follows : Script.Follows keeping Subscribes .gone rest) :
    rest = .done (.ok false) := by
  cases rest with
  | done outcome =>
    obtain ⟨-, impossible⟩ | ⟨rfl, -⟩ := follows
    · cases impossible
    · rfl
  | call r k => exact follows.1.elim

/-- The broker accepts the topology call that is made, if one is made. -/
def Declares (state : State) : Event → Prop
  | .reply success => ∀ r k, state.stage = .connecting (.call r k) → isTopology r = true →
      success = true
  | _ => True

/-- The decidable form: the broker refuses no topology call. -/
def declares (state : State) : Event → Bool
  | .reply success =>
    match state.stage with
    | .connecting (.call r _) => !isTopology r || success
    | _ => true
  | _ => true

/-- What passes the test is no refusal. -/
theorem declares_sound (state : State) (event : Event) (checked : declares state event = true) :
    Declares state event := by
  cases event with
  | reply success =>
    intro r k stage topology
    simpa [declares, stage, topology] using checked
  | _ => trivial

/-- Every step keeps the account of connections. Only a refusal in the topology counts as one
that is left behind, and it ends the attempt in the same step, since nothing is left to call
after it. -/
theorem step_sound {state next : State} {event : Event} (sound : Sound state)
    (taken : step state event = some next) :
    Sound next ∧
      (Declares state event → next.connections.refusals = state.connections.refusals) ∧
      (¬Declares state event → next.stage = .returned false ∧
        next.connections.refusals = state.connections.refusals + 1) := by
  obtain ⟨connections, stage⟩ := state
  cases event with
  | wake =>
    cases stage with
    | idle =>
      obtain ⟨kept, same⟩ := connect_sound .before sound connectAndSubscribe_subscribes taken
      exact ⟨kept, fun _ => by rw [same], fun refused => absurd trivial refused⟩
    | _ => cases taken
  | reply success =>
    cases stage with
    | connecting rest =>
      cases rest with
      | done outcome => cases taken
      | call r k =>
        obtain ⟨holding, holds, permitted, continues⟩ := sound
        have followed := continues _ ⟨connections, success, rfl⟩
        have taken : connect (exec connections success r).1
            (k (.ok (exec connections success r).2)) = some next := taken
        obtain ⟨kept, same⟩ := connect_sound _ (exec_holds holds success permitted) followed taken
        have count := exec_refusals connections success r
        rw [← same] at count
        by_cases refused : isTopology r = true ∧ success = false
        · -- Nothing is left to call after a refusal, so the attempt returns in this very step.
          obtain ⟨topology, rfl⟩ := refused
          rw [refused_gone permitted topology] at followed
          have returns : next = ⟨(exec connections false r).1, .returned false⟩ := by
            rw [gone_returns followed] at taken
            exact (Option.some.inj taken).symm
          refine ⟨kept, fun declares => ?_, fun _ => ⟨by rw [returns], ?_⟩⟩
          · cases declares r k rfl topology
          · simpa [topology] using count
        · have accepted : Declares ⟨connections, .connecting (.call r k)⟩ (.reply success) := by
            rintro _ _ ⟨⟩ topology
            simpa [topology] using refused
          refine ⟨kept, fun _ => ?_, fun refusal => absurd accepted refusal⟩
          cases topology : isTopology r <;> cases success <;> simp_all
    | leaving rest =>
      obtain ⟨holds, rfl | rfl⟩ := sound
      · obtain rfl := Option.some.inj taken
        refine ⟨⟨holds, .inr rfl⟩, fun _ => rfl, fun refused => absurd ?_ refused⟩
        rintro r k ⟨⟩
      · obtain rfl := Option.some.inj taken
        refine ⟨destroyConnection_holds holds, fun _ => rfl, fun refused => absurd ?_ refused⟩
        rintro r k ⟨⟩
    | _ => cases taken
  | proceed =>
    cases stage with
    | returned subscribed =>
      cases subscribed with
      | true =>
        obtain rfl := Option.some.inj taken
        exact ⟨sound, fun _ => rfl, fun refused => absurd trivial refused⟩
      | false =>
        obtain rfl := Option.some.inj taken
        exact ⟨sound, fun _ => rfl, fun refused => absurd trivial refused⟩
    | _ => cases taken
  | message =>
    cases stage with
    | consuming =>
      obtain rfl := Option.some.inj taken
      exact ⟨sound, fun _ => rfl, fun refused => absurd trivial refused⟩
    | _ => cases taken
  | lose =>
    cases stage with
    | consuming =>
      obtain rfl := Option.some.inj taken
      exact ⟨⟨sound, .inl rfl⟩, fun _ => rfl, fun refused => absurd trivial refused⟩
    | _ => cases taken

/-! Whole runs. -/

/-- At most one connection lives, and none after an attempt that returned false. -/
def OneConnection (state : State) : Prop :=
  state.connections.live.length ≤ 1 ∧ (state.stage = .returned false → state.connections.live = [])

/-- Holding a connection or not, besides those left behind. The number of live connections is
therefore the number of refusals so far, or one more. -/
theorem Sound.live {state : State} (sound : Sound state) :
    state.connections.live.length = state.connections.refusals ∨
      state.connections.live.length = state.connections.refusals + 1 := by
  have counted : ∀ holding, Holds state.connections holding →
      state.connections.live.length = state.connections.refusals ∨
        state.connections.live.length = state.connections.refusals + 1 := by
    intro holding holds
    cases holding with
    | held =>
      obtain ⟨older, id, live, -, -, -, count⟩ := holds
      rw [live, List.length_append, List.length_singleton, count]
      exact .inr rfl
    | before => exact .inl holds.2
    | gone => exact .inl holds.2
  obtain ⟨connections, stage⟩ := state
  cases stage with
  | idle => exact counted .gone sound
  | connecting rest =>
    obtain ⟨holding, holds, -⟩ := sound
    exact counted holding holds
  | returned subscribed =>
    cases subscribed with
    | true => exact counted .held sound
    | false => exact counted .gone sound
  | consuming => exact counted .held sound
  | leaving rest => exact counted .held sound.1

/-- After a failed attempt exactly the connections left behind live. -/
theorem Sound.failed {state : State} (sound : Sound state) (failed : state.stage = .returned false) :
    state.connections.live.length = state.connections.refusals := by
  obtain ⟨connections, stage⟩ := state
  obtain rfl : stage = .returned false := failed
  exact sound.2

/-- Without refusals there is one connection at most: the one that the loop holds. -/
theorem Sound.oneConnection {state : State} (sound : Sound state)
    (accepted : state.connections.refusals = 0) : OneConnection state := by
  constructor
  · have live := sound.live
    omega
  · intro failed
    rw [← List.length_eq_zero_iff, sound.failed failed, accepted]

/-- No connection and none held. -/
theorem initial_sound : Sound .initial := by
  constructor
  · simp [State.initial]
  · rfl

/-- In every run the connections left behind are the refusals: as many live on without an
owner as topology calls were refused. -/
theorem reached_sound {state : State} (reached : Reached step (fun _ _ => True) .initial state) :
    Sound state :=
  reached.invariant initial_sound fun _ _ _ sound _ taken => (step_sound sound taken).1

/-- No connection has been left behind so far. -/
def Accepted (state : State) : Prop := Sound state ∧ state.connections.refusals = 0

/-- Without a refusal none is left behind. -/
theorem reached_accepted {state : State} (reached : Reached step Declares .initial state) :
    Accepted state := by
  refine reached.invariant ⟨initial_sound, rfl⟩ ?_
  rintro _ _ next ⟨sound, accepted⟩ declares taken
  obtain ⟨kept, same, -⟩ := step_sound sound taken
  exact ⟨kept, (same declares).trans accepted⟩

/-- There is at most one connection throughout a run exactly when the broker refuses no
topology call in it. Every other failure, of the login, of a read, of a library call, gives
the connection back; each of the seven topology calls returns without doing so. -/
theorem run_oneConnection_iff {past : List State} {state : State}
    (run : Run step (fun _ _ => True) .initial past state) :
    (∀ reached ∈ past ++ [state], OneConnection reached) ↔ Run step Declares .initial past state := by
  constructor
  · intro bounded
    induction run with
    | initial => exact .initial
    | @step past state next event before _ taken inductionHypothesis =>
      have earlier := inductionHypothesis fun reached member =>
        bounded reached (List.mem_append_left _ member)
      refine .step event earlier ?_ taken
      -- A refusal would return false and leave its connection behind.
      by_contra refused
      obtain ⟨kept, -, returns⟩ := step_sound (reached_sound before.reached) taken
      obtain ⟨failed, count⟩ := returns refused
      have one := (bounded next (by simp)).2 failed
      have left := kept.failed failed
      rw [one, count] at left
      cases left
  · intro accepted reached member
    have follows : Reached step Declares .initial reached := by
      obtain old | new := List.mem_append.mp member
      · exact accepted.past_reached reached old
      · rw [List.mem_singleton.mp new]
        exact accepted.reached
    obtain ⟨sound, none⟩ := reached_accepted follows
    exact sound.oneConnection none

/-- A login that fails, a subscription that breaks after a message, and a broker that is away. -/
def unsteadyBroker : List Event :=
  [.wake, .reply true, .reply true, .reply true, .reply false, .reply true, .reply true, .proceed,
   .wake, .reply true, .reply true, .reply true, .reply true, .reply true,
   .reply true, .reply true, .reply true, .reply true, .reply true, .reply true, .reply true,
   .proceed, .message, .lose, .reply true, .reply true,
   .wake, .reply true, .reply true, .reply false, .reply true]

/-- Three connections are opened and given back one after another, and there is never a second
one. -/
theorem unsteady_oneConnection :
    ∃ past, Run step (fun _ _ => True) .initial past ⟨⟨3, [], none, 0⟩, .returned false⟩ ∧
      ∀ reached ∈ past ++ [⟨⟨3, [], none, 0⟩, .returned false⟩], OneConnection reached := by
  have ran : runWhere step declares .initial unsteadyBroker =
      some ⟨⟨3, [], none, 0⟩, .returned false⟩ := rfl
  obtain ⟨past, accepted⟩ := (Reached.of_runWhere declares_sound .initial ran).run
  have run := accepted.mono fun _ _ _ => trivial
  exact ⟨past, run, (run_oneConnection_iff run).mpr accepted⟩

/-- Twice the broker refuses the first exchange. -/
def refusingBroker : List Event :=
  [.wake, .reply true, .reply true, .reply true, .reply true, .reply true, .reply false, .proceed,
   .wake, .reply true, .reply true, .reply true, .reply true, .reply true, .reply false]

/-- The first exchange is refused twice, and both connections live on. -/
theorem refused_connections :
    ¬∀ state, Reached step (fun _ _ => True) .initial state → OneConnection state := by
  intro bounded
  have ran : runWhere step (fun _ _ => true) .initial refusingBroker =
      some ⟨⟨2, [0, 1], some 1, 2⟩, .returned false⟩ := rfl
  have one := (bounded _ (Reached.of_runWhere (fun _ _ _ => trivial) .initial ran)).1
  exact absurd one (by decide)

end TradeReconcile.RunLoop
