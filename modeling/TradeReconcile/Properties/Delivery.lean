import TradeReconcile.Messaging.Outbox
import TradeReconcile.Services.Calls
import TradeReconcile.Transitions

/-!
# What a confirmed message has gone through

The relay marks a row as confirmed after `publish` returned true, and `publish` returns
true on the first confirm it reads. A connection never carries more than one
unanswered publication: after anything but a confirm it is given up. So the confirm is
the one of the message at hand, and the message was routed. Being routed means being
enqueued only if the queue is bound; the confirm does not tell.
-/

namespace TradeReconcile

namespace Outbox

open Scripts Amqp

variable {P : Platform}

/-- The publication a row stands for. -/
def publicationOf (row : LocalMessage) : Publication := ⟨row.exchange, row.routingKey, row.payload⟩

/-- The publication was put into the notify queue. -/
def Enqueued (world : World) (p : Publication) : Prop :=
  (NotifyConsumer.kQueue, p) ∈ world.broker.enqueued

/-- Every confirmed row has been enqueued. -/
def ConfirmedEnqueued (world : World) : Prop :=
  ∀ row ∈ world.rows, row.status = .kAcked → Enqueued world (publicationOf row)

/-- The notify queue is bound. -/
def Bound (world : World) : Prop :=
  ⟨NotifyConsumer.kQueue, NotifyConsumer.kExchange, NotifyConsumer.kRoutingKey⟩ ∈
    world.broker.bindings

/-- The broker accepts publications of the relay's connection only while the notify
queue is bound. -/
def BoundFirst (world : World) : Event → Prop
  | .accept false => Bound world
  | _ => True

/-! The relay's side of the protocol. -/

/-- What the relay knows of its connection: nothing is under way, one publication is,
or nothing is and the last one was confirmed. -/
inductive Phase where
  | quiet
  | sent (p : Publication)
  | confirmed (p : Publication)

/-- No publication is on its way. -/
def Phase.clear : Phase → Prop
  | .sent _ => False
  | _ => True

/-- A confirm has been read. -/
def Phase.acked : Phase → Phase
  | .sent p => .confirmed p
  | phase => phase

/-- How far the round is: what it has scanned, and where its publication stands. -/
structure Progress where
  scanned : List LocalMessage
  phase : Phase

/-- A call of the AMQP library. -/
def isMq : MessageRelayTask.Request → Bool
  | .mq _ => true
  | _ => false

/-- Only scanned messages are published, one at a time, and only the message that was
confirmed last is marked. Library calls do not throw. -/
def relaying : Protocol MessageRelayTask.Request
    (fun r => Except Fault (MessageRelayTask.Reply r)) Progress where
  permits state
    | .markAcked messageId => ∃ row ∈ state.scanned, row.messageId = messageId ∧
        state.phase = .confirmed (publicationOf row)
    | .mq (.basicPublish exchange routingKey payload) => state.phase.clear ∧
        ∃ row ∈ state.scanned, publicationOf row = ⟨exchange, routingKey, payload⟩
    | _ => True
  answers r reply := isMq r = true → reply.isOk = true
  after state
    | .scanPending _, .ok rows => { state with scanned := rows }
    | .mq (.basicPublish exchange routingKey payload), _ =>
      { state with phase := .sent ⟨exchange, routingKey, payload⟩ }
    | .mq (.waitFrame _), .ok (some (.basicAck _)) => { state with phase := state.phase.acked }
    | .mq .destroyConnection, _ => { state with phase := .quiet }
    | .mq .connected, .ok false => { state with phase := .quiet }
    | _, _ => state

/-- The same for the calls of the client alone. -/
abbrev publishing : Protocol Amqp.Request (fun r => Except Fault (Amqp.Reply r)) Progress :=
  relaying.restrict MessageRelayTask.Request.mq

/-- A library call returns. -/
theorem follows_call {α : Type} {r : Amqp.Request} {next : Amqp.Reply r → Client α}
    {accepted : Progress → Except Fault α → Prop} {state : Progress}
    (permitted : publishing.permits state r)
    (continues : ∀ value, Script.Follows publishing accepted (publishing.after state r (.ok value))
      (next value)) :
    Script.Follows publishing accepted state (Amqp.request r >>= next : Client α) := by
  apply follows_perform permitted
  · intro value _
    exact continues value
  · intro fault returned
    cases returned rfl

/-- After `close` nothing is under way. -/
theorem close_follows (state : Progress) :
    Script.Follows publishing (fun after outcome => outcome = .ok () ∧
      after = { state with phase := .quiet }) state MqClient.close := by
  apply follows_call (r := .connected) trivial
  intro connected
  cases connected with
  | false => exact ⟨rfl, rfl⟩
  | true =>
    apply follows_call (r := .connectionClose) trivial
    intro _
    refine ⟨trivial, ?_⟩
    rintro (fault | value) returned
    · cases returned rfl
    · exact ⟨rfl, rfl⟩

/-- The outcome of a step that may give the connection up. -/
def Settles (state : Progress) (value : Progress → Prop) (after : Progress)
    (outcome : Except Fault Bool) : Prop :=
  (outcome = .ok true ∧ value after) ∨
    (outcome = .ok false ∧ after = { state with phase := .quiet })

/-- A failed attempt is cleaned up, a successful one goes on. -/
theorem orElse_follows {attempt next : Client Bool} {value : Progress → Prop}
    {state first : Progress}
    (attempted : Script.Follows publishing (fun after outcome =>
      after.scanned = state.scanned ∧
        (outcome = .ok true ∧ Script.Follows publishing (Settles state value) after next ∨
          outcome = .ok false)) first attempt) :
    Script.Follows publishing (Settles state value) first
      (orElse MqClient.close attempt next) := by
  apply follows_orElse
  apply attempted.mono
  rintro after outcome ⟨same, ⟨rfl, continues⟩ | rfl⟩
  · exact .inl ⟨rfl, continues⟩
  · refine .inr ⟨rfl, (close_follows after).mono ?_⟩
    rintro closed _ ⟨rfl, rfl⟩
    exact ⟨rfl, .inr ⟨rfl, by rw [same]⟩⟩

/-- A call that does not change what is under way. -/
def Steady (call : Client Bool) : Prop :=
  ∀ state, Script.Follows publishing (fun after outcome =>
    after = state ∧ ∃ answer, outcome = .ok answer) state call

/-- The calls that make a connection. -/
theorem connecting_steady : Steady (Amqp.request .tcpSocketNew) ∧
    Steady (Amqp.request .socketOpen) ∧ Steady (Amqp.request .login) ∧
    Steady (Amqp.request .channelOpen) ∧ Steady MqClient.declareExchange ∧
    Steady (Amqp.request .confirmSelect) := by
  refine ⟨?_, ?_, ?_, ?_, ?_, ?_⟩ <;>
  · intro state
    refine ⟨trivial, ?_⟩
    rintro (fault | answer) returned
    · cases returned rfl
    · exact ⟨rfl, answer, rfl⟩

/-- A step of the setup that fails closes the connection; one that works goes on. -/
theorem Steady.orElse {attempt next : Client Bool} {value : Progress → Prop} {state : Progress}
    (steady : Steady attempt)
    (continues : Script.Follows publishing (Settles state value) state next) :
    Script.Follows publishing (Settles state value) state
      (Amqp.orElse MqClient.close attempt next) := by
  apply orElse_follows
  apply (steady state).mono
  rintro after outcome ⟨rfl, answer, rfl⟩
  refine ⟨rfl, ?_⟩
  cases answer with
  | true => exact .inl ⟨rfl, continues⟩
  | false => exact .inr rfl

/-- A connection is there, or nothing is under way. -/
theorem ensureConnected_follows {state : Progress} (clear : state.phase.clear) :
    Script.Follows publishing (Settles state fun after =>
      after.phase.clear ∧ after.scanned = state.scanned) state MqClient.ensureConnected := by
  apply follows_call (r := .connected) trivial
  intro connected
  cases connected with
  | true => exact .inl ⟨rfl, clear, rfl⟩
  | false =>
    obtain ⟨socket, opened, login, channel, declared, selected⟩ := connecting_steady
    apply follows_call (r := .newConnection) trivial
    intro _
    let fresh : Progress := { state with phase := .quiet }
    have ends : Script.Follows publishing (Settles fresh fun after =>
        after.phase.clear ∧ after.scanned = state.scanned) fresh (pure true : Client Bool) :=
      .inl ⟨rfl, trivial, rfl⟩
    exact socket.orElse <| opened.orElse <| login.orElse <| channel.orElse <|
      declared.orElse <| selected.orElse ends

/-- Connecting again publishes nothing, whether it works or not. -/
theorem reconnect_follows {state : Progress} (clear : state.phase.clear) :
    Script.Follows publishing (Settles state fun after =>
      after.phase.clear ∧ after.scanned = state.scanned) state MqClient.reconnect := by
  apply follows_bind
  apply (ensureConnected_follows clear).mono
  rintro after outcome (⟨rfl, kept⟩ | ⟨rfl, rfl⟩)
  · exact .inl ⟨rfl, kept⟩
  · apply follows_bind
    apply (close_follows _).mono
    rintro closed _ ⟨rfl, rfl⟩
    have again := @ensureConnected_follows { state with phase := .quiet } trivial
    exact again

/-- `waitConfirm` returns true only after a confirm was read. -/
theorem waitConfirm_follows (state : Progress) (seconds : Nat) :
    Script.Follows publishing (fun after outcome => after.scanned = state.scanned ∧
      (outcome = .ok true ∧ after.phase = state.phase.acked ∨ outcome = .ok false)) state
      (MqClient.waitConfirm seconds) := by
  apply follows_call (r := .waitFrame seconds) trivial
  rintro (_ | ⟨tag⟩ | ⟨tag⟩ | _ | _)
  · exact ⟨rfl, .inr rfl⟩
  · exact ⟨rfl, .inl ⟨rfl, rfl⟩⟩
  · exact ⟨rfl, .inr rfl⟩
  · exact ⟨rfl, .inr rfl⟩
  · exact ⟨rfl, .inr rfl⟩

/-- `publish` returns true when its own message was confirmed, and otherwise leaves no
connection. -/
theorem publish_follows {state : Progress} {row : LocalMessage} (clear : state.phase.clear)
    (scanned : row ∈ state.scanned) :
    Script.Follows publishing (Settles state fun after =>
      after.phase = .confirmed (publicationOf row) ∧ after.scanned = state.scanned) state
      (MqClient.publish row.exchange row.routingKey row.payload) := by
  apply follows_bind
  apply (reconnect_follows clear).mono
  rintro ready outcome (⟨rfl, clear, same⟩ | ⟨rfl, rfl⟩)
  · apply orElse_follows
    refine ⟨⟨clear, row, by rw [same]; exact scanned, rfl⟩, ?_⟩
    rintro (fault | sent) returned
    · cases returned rfl
    · refine ⟨same, ?_⟩
      cases sent with
      | false => exact .inr rfl
      | true =>
        refine .inl ⟨rfl, ?_⟩
        apply orElse_follows
        apply (waitConfirm_follows _ _).mono
        rintro after outcome ⟨kept, ⟨rfl, acked⟩ | rfl⟩
        · exact ⟨kept.trans same, .inl ⟨rfl, .inl ⟨rfl, acked, kept.trans same⟩⟩⟩
        · exact ⟨kept.trans same, .inr rfl⟩
  · exact .inr ⟨rfl, rfl⟩

/-- One message is published before it is marked, and marked as confirmed only after its own
confirm. -/
theorem relayMessage_follows {state : Progress} {row : LocalMessage} (clear : state.phase.clear)
    (scanned : row ∈ state.scanned) :
    Script.Follows relaying (fun after _ => after.phase.clear ∧ after.scanned = state.scanned) state
      (MessageRelayTask.relayMessage row) := by
  apply follows_bind
  apply (publish_follows clear scanned).lift.mono
  rintro after outcome (⟨rfl, confirmed, same⟩ | ⟨rfl, rfl⟩)
  · refine ⟨⟨row, by rw [same]; exact scanned, rfl, confirmed⟩, fun reply _ => ?_⟩
    have clear : after.phase.clear := by
      rw [confirmed]
      trivial
    exact ⟨clear, same⟩
  · change Script.Follows relaying _ _ (ite _ _ _)
    split
    · exact ⟨trivial, fun reply _ => ⟨trivial, rfl⟩⟩
    · exact ⟨trivial, fun reply _ => ⟨trivial, rfl⟩⟩

/-- The messages one after the other, by induction on what was scanned. -/
theorem relayEach_follows (rows : List LocalMessage) {state : Progress}
    (clear : state.phase.clear) (scanned : rows ⊆ state.scanned) :
    Script.Follows relaying (fun after _ => after.phase.clear) state
      (MessageRelayTask.relayEach rows) := by
  induction rows generalizing state with
  | nil => exact clear
  | cons row rest inductionHypothesis =>
    rw [List.cons_subset] at scanned
    apply follows_bind
    apply follows_tryCatch
    apply (relayMessage_follows clear scanned.1).mono
    rintro after (fault | value) ⟨clear, same⟩ <;>
      exact inductionHypothesis clear (same ▸ scanned.2)

/-- A round of the relay keeps to its protocol. -/
theorem relay_follows {state : Progress} (clear : state.phase.clear) :
    Script.Follows relaying (fun after _ => after.phase.clear) state MessageRelayTask.relay := by
  refine ⟨trivial, ?_⟩
  rintro (fault | _) _
  · exact clear
  · refine ⟨trivial, ?_⟩
    rintro (fault | rows) _
    · exact clear
    · exact relayEach_follows rows clear (List.Subset.refl rows)

/-! The whole system. -/

/-- Addressed as shipped. -/
def Shipped (p : Publication) : Prop :=
  p.exchange = NotifyConsumer.kExchange ∧ p.routingKey = NotifyConsumer.kRoutingKey

/-- Nothing is on its way in either direction that could be taken for a confirm. -/
def Idle (channel : Channel) : Prop := channel.inbox = [] ∧ channel.acks = 0

/-- What the relay knows of its connection is so. An unread confirm is the one of the
publication under way, which was enqueued. -/
def Tracks (world : World) : Phase → Prop
  | .quiet => ∀ channel ∈ world.conn, Idle channel
  | .sent p => Shipped p ∧ ∀ channel ∈ world.conn,
      (channel.inbox = [p] ∧ channel.acks = 0) ∨
        (channel.inbox = [] ∧ (channel.acks = 0 ∨ (channel.acks = 1 ∧ Enqueued world p)))
  | .confirmed p => Enqueued world p ∧ ∀ channel ∈ world.conn, Idle channel

/-- A scanned row is a version of a stored one. -/
def Scanned (world : World) (rows : List LocalMessage) : Prop :=
  ∀ row ∈ rows, ∃ stored ∈ world.rows, stored.messageId = row.messageId ∧
    publicationOf stored = publicationOf row

/-- The outbox: unique message ids, shipped addresses, and confirmed rows enqueued. The last
one is the promise that the relay has to keep. -/
structure Kept (P : Platform) (world : World) : Prop where
  keys : (world.rows.map fun row => P.collate row.messageId).Nodup
  shipped : ∀ row ∈ world.rows, Shipped (publicationOf row)
  confirmed : ConfirmedEnqueued world

/-- The relay's knowledge fits the system: what it has scanned is in the table, and its
publication is where it takes it to be. -/
structure Attuned (world : World) (progress : Progress) : Prop where
  scanned : Scanned world progress.scanned
  tracks : Tracks world progress.phase

/-- The rest of a round keeps to the protocol from here. -/
def Relays (progress : Progress) (rest : Script MessageRelayTask.Request
    (fun r => Except Fault (MessageRelayTask.Reply r)) (Except Fault Unit)) : Prop :=
  Script.Follows relaying (fun after _ => after.phase.clear) progress rest

/-- What holds between the events: the outbox is as promised, and the round in progress stands
where its publication is. -/
structure Sound (P : Platform) (world : World) : Prop where
  kept : Kept P world
  resting : world.round = none → ∀ channel ∈ world.conn, Idle channel
  relaying : ∀ rest, world.round = some rest → ∃ progress, Relays progress rest ∧
    Attuned world progress

/-- Unless a publication is on its way, there is none on the connection. -/
theorem Tracks.idle {world : World} {phase : Phase} (tracks : Tracks world phase)
    (clear : phase.clear) : ∀ channel ∈ world.conn, Idle channel := by
  cases phase with
  | quiet => exact tracks
  | sent => exact clear.elim
  | confirmed => exact tracks.2

/-- Nothing but the broker has changed, and it has lost nothing of its queues. -/
structure Grows (before after : World) : Prop where
  rows : after.rows = before.rows
  conn : after.conn = before.conn
  enqueued : before.broker.enqueued ⊆ after.broker.enqueued

/-- The connection is idle, or it is the old one with its confirms and at most its
publications. -/
def Thins (before after : World) : Prop :=
  ∀ channel ∈ after.conn, Idle channel ∨ ∃ old ∈ before.conn,
    (channel.inbox = old.inbox ∨ channel.inbox = []) ∧ channel.acks = old.acks

/-- The phase of the round stays when publications only become fewer and nothing leaves the
queue. -/
theorem Tracks.thinned {before after : World} {phase : Phase} (tracks : Tracks before phase)
    (thins : Thins before after)
    (enqueued : before.broker.enqueued ⊆ after.broker.enqueued) : Tracks after phase := by
  have idle : (∀ channel ∈ before.conn, Idle channel) → ∀ channel ∈ after.conn, Idle channel := by
    intro quiet channel here
    rcases thins channel here with idle | ⟨old, there, inbox, acks⟩
    · exact idle
    · obtain ⟨empty, none⟩ := quiet old there
      exact ⟨by rcases inbox with same | none <;> simp [*], acks.trans none⟩
  cases phase with
  | quiet => exact idle tracks
  | confirmed p => exact ⟨enqueued tracks.1, idle tracks.2⟩
  | sent p =>
    refine ⟨tracks.1, fun channel here => ?_⟩
    rcases thins channel here with ⟨empty, none⟩ | ⟨old, there, inbox, acks⟩
    · exact .inr ⟨empty, .inl none⟩
    · rw [acks]
      rcases tracks.2 old there with ⟨one, none⟩ | ⟨empty, rest⟩
      · rcases inbox with same | lost
        · exact .inl ⟨same.trans one, none⟩
        · exact .inr ⟨lost, .inl none⟩
      · refine .inr ⟨by rcases inbox with same | lost <;> simp [*], ?_⟩
        rcases rest with none | ⟨one, arrived⟩
        · exact .inl none
        · exact .inr ⟨one, enqueued arrived⟩

/-- It stays when only the queue grows. -/
theorem Tracks.grown {before after : World} {phase : Phase} (tracks : Tracks before phase)
    (conn : after.conn = before.conn)
    (enqueued : before.broker.enqueued ⊆ after.broker.enqueued) : Tracks after phase := by
  refine tracks.thinned ?_ enqueued
  intro channel here
  exact .inr ⟨channel, conn ▸ here, .inl rfl, rfl⟩

/-- Confirmed messages stay enqueued when the queue grows. -/
theorem Kept.grown {before after : World} (kept : Kept P before) (rows : after.rows = before.rows)
    (enqueued : before.broker.enqueued ⊆ after.broker.enqueued) : Kept P after where
  keys := rows ▸ kept.keys
  shipped := rows ▸ kept.shipped
  confirmed := by
    rw [ConfirmedEnqueued, rows]
    exact fun row member acked => enqueued (kept.confirmed row member acked)

/-- What was scanned is in the same rows. -/
theorem Scanned.grown {before after : World} {rows : List LocalMessage}
    (scanned : Scanned before rows) (same : after.rows = before.rows) : Scanned after rows := by
  rw [Scanned, same]
  exact scanned

/-- A round stays in step with a world that only grows. -/
theorem Attuned.grown {before after : World} {progress : Progress}
    (attuned : Attuned before progress) (grows : Grows before after) : Attuned after progress :=
  ⟨attuned.scanned.grown grows.rows, attuned.tracks.grown grows.conn grows.enqueued⟩

/-- A change of the broker, of the consumer or on the connection leaves the relay where
it is. -/
theorem Sound.thinned {before after : World} (sound : Sound P before)
    (rows : after.rows = before.rows) (round : after.round = before.round)
    (thins : Thins before after)
    (enqueued : before.broker.enqueued ⊆ after.broker.enqueued) : Sound P after where
  kept := sound.kept.grown rows enqueued
  resting stopped := by
    have quiet : Tracks before .quiet := sound.resting (round.symm.trans stopped)
    exact quiet.thinned thins enqueued
  relaying rest running := by
    obtain ⟨progress, relays, attuned⟩ := sound.relaying rest (round.symm.trans running)
    exact ⟨progress, relays, attuned.scanned.grown rows, attuned.tracks.thinned thins enqueued⟩

/-- And a sound world stays sound. -/
theorem Sound.grown {before after : World} (sound : Sound P before) (grows : Grows before after)
    (round : after.round = before.round) : Sound P after :=
  sound.thinned grows.rows round
    (fun channel here => .inr ⟨channel, grows.conn ▸ here, .inl rfl, rfl⟩) grows.enqueued

/-- A round that goes on or ends leaves a sound system. -/
theorem resumed_sound {world : World} {progress : Progress} (kept : Kept P world)
    (attuned : Attuned world progress)
    {rest : Script MessageRelayTask.Request
      (fun r => Except Fault (MessageRelayTask.Reply r)) (Except Fault Unit)}
    (relays : Relays progress rest) : Sound P (world.resumeRound rest) := by
  cases rest with
  | done value =>
    exact
      { kept := kept.grown rfl (List.Subset.refl _)
        resting := fun _ => attuned.tracks.idle relays
        relaying := fun _ running => nomatch running }
  | call r k =>
    refine
      { kept := kept.grown rfl (List.Subset.refl _)
        resting := fun stopped => nomatch stopped
        relaying := fun rest running => ?_ }
    cases running
    exact ⟨progress, relays, attuned.grown ⟨rfl, rfl, List.Subset.refl _⟩⟩

/-! The calls of a round. -/

/-- What a call of the relay establishes: the rows and what was published stay sound, and the
progress of the round knows what the reply has told. -/
structure Called (P : Platform) (progress : Progress) (r : MessageRelayTask.Request)
    (called : World × Except Fault (MessageRelayTask.Reply r)) : Prop where
  kept : Kept P called.1
  answers : relaying.answers r called.2
  attuned : Attuned called.1 (relaying.after progress r called.2)

/-- Setting up a connection moves no message. -/
theorem setUp_grows (world : World) (turn : Turn) (r : Amqp.Request) :
    Grows world (world.setUp turn r).1 ∧ (world.setUp turn r).1.round = world.round := by
  unfold World.setUp
  split
  · refine ⟨⟨rfl, rfl, ?_⟩, rfl⟩
    cases r <;> exact List.Subset.refl _
  · exact ⟨⟨rfl, rfl, List.Subset.refl _⟩, rfl⟩

section Calls

variable {world : World} {progress : Progress} {turn : Turn}

/-- A call that leaves rows and connection alone and does not move the protocol. -/
theorem grown_called {r : MessageRelayTask.Request}
    {called : World × Except Fault (MessageRelayTask.Reply r)} (kept : Kept P world)
    (attuned : Attuned world progress) (grows : Grows world called.1)
    (answers : relaying.answers r called.2)
    (still : relaying.after progress r called.2 = progress) : Called P progress r called where
  kept := kept.grown grows.rows grows.enqueued
  answers := answers
  attuned := by
    rw [still]
    exact attuned.grown grows

/-- An update that keeps a message's id and address. -/
structure Relabels (set : LocalMessage → LocalMessage) : Prop where
  messageId : ∀ row, (set row).messageId = row.messageId
  publication : ∀ row, publicationOf (set row) = publicationOf row

/-- A change of a row's status keeps the promise if it confirms only what has been
enqueued. -/
theorem updateRow_kept {messageId : String} {set : LocalMessage → LocalMessage} (kept : Kept P world)
    (relabels : Relabels set)
    (acked : ∀ row ∈ world.rows, P.collate row.messageId = P.collate messageId →
      (set row).status = .kAcked → row.status = .kAcked ∨ Enqueued world (publicationOf row)) :
    Kept P (world.updateRow P.collate messageId set) := by
  refine ⟨?_, ?_, ?_⟩
  · have same : ((world.updateRow P.collate messageId set).rows.map
        fun row => P.collate row.messageId) = world.rows.map fun row => P.collate row.messageId := by
      rw [World.updateRow, List.map_map]
      refine List.map_congr_left fun row _ => ?_
      simp only [Function.comp_apply]
      split
      · rw [relabels.messageId]
      · rfl
    rw [same]
    exact kept.keys
  · intro row member
    obtain ⟨old, stored, rfl⟩ := List.mem_map.mp member
    split
    · rw [relabels.publication]
      exact kept.shipped old stored
    · exact kept.shipped old stored
  · intro row member status
    obtain ⟨old, stored, rfl⟩ := List.mem_map.mp member
    by_cases mine : P.collate old.messageId = P.collate messageId
    · simp only [mine, beq_self_eq_true, if_true] at status ⊢
      rw [relabels.publication]
      rcases acked old stored mine status with already | enqueued
      · exact kept.confirmed old stored already
      · exact enqueued
    · simp only [beq_eq_false_iff_ne.mpr mine] at status ⊢
      exact kept.confirmed old stored status

/-- A change of status leaves what was scanned in the table. -/
theorem updateRow_scanned {collate : String → String} {messageId : String}
    {set : LocalMessage → LocalMessage} {rows : List LocalMessage} (relabels : Relabels set)
    (scanned : Scanned world rows) : Scanned (world.updateRow collate messageId set) rows := by
  intro row member
  obtain ⟨stored, present, sameId, same⟩ := scanned row member
  refine ⟨_, List.mem_map_of_mem present, ?_⟩
  split
  · exact ⟨(relabels.messageId stored).trans sameId, (relabels.publication stored).trans same⟩
  · exact ⟨sameId, same⟩

/-- A marking statement, whether or not it throws. It changes the status or the schedule of
one row and neither its address nor what has been published. -/
theorem mark_called {r : MessageRelayTask.Request} {messageId : String}
    {set : LocalMessage → LocalMessage} {reply : Except Fault (MessageRelayTask.Reply r)}
    (kept : Kept P world) (attuned : Attuned world progress) (relabels : Relabels set)
    (acked : ∀ row ∈ world.rows, P.collate row.messageId = P.collate messageId →
      (set row).status = .kAcked → row.status = .kAcked ∨ Enqueued world (publicationOf row))
    (unlibrary : isMq r = false) (still : ∀ reply, relaying.after progress r reply = progress) :
    Called P progress r
      (attempt turn.thrown world (world.updateRow P.collate messageId set) reply) := by
  have answers : ∀ reply, relaying.answers r reply := by
    intro reply library
    rw [unlibrary] at library
    cases library
  rcases attempt_world turn.thrown world (world.updateRow P.collate messageId set) reply with
    same | same
  · exact grown_called kept attuned (by rw [same]; exact ⟨rfl, rfl, List.Subset.refl _⟩)
      (answers _) (still _)
  · refine ⟨?_, answers _, ?_⟩
    · rw [same]
      exact updateRow_kept kept relabels acked
    · rw [same, still]
      exact ⟨updateRow_scanned relabels attuned.scanned,
        attuned.tracks.grown rfl (List.Subset.refl _)⟩

/-- A row with the id of the message at hand is that message. -/
theorem Kept.same_message {row stored : LocalMessage} (kept : Kept P world)
    (member : row ∈ world.rows) (present : stored ∈ world.rows)
    (same : P.collate row.messageId = P.collate stored.messageId) : row = stored :=
  List.inj_on_of_nodup_map kept.keys member present same

/-- Reading a frame: a confirm is the one of the publication under way, and says that the
broker has taken charge of it. Without a connection or a frame nothing is learnt and nothing
changes. -/
theorem readFrame_called {seconds : Nat} (kept : Kept P world) (attuned : Attuned world progress) :
    Called P progress (.mq (.waitFrame seconds)) (world.readFrame.1, .ok world.readFrame.2) := by
  have nothing : Called P progress (.mq (.waitFrame seconds)) (world, .ok none) :=
    grown_called kept attuned ⟨rfl, rfl, List.Subset.refl _⟩ (fun _ => rfl) rfl
  unfold World.readFrame
  split
  · exact nothing
  · rename_i channel found
    split
    · exact nothing
    · rename_i frame rest frames
      refine ⟨kept.grown rfl (List.Subset.refl _), fun _ => rfl, ?_⟩
      have count : channel.acks = rest.countP Frame.isAck + if frame.isAck then 1 else 0 := by
        rw [Channel.acks, frames, List.countP_cons]
      cases frame with
      | basicAck tag =>
        refine ⟨attuned.scanned.grown rfl, ?_⟩
        have tracks := attuned.tracks
        simp only [Frame.isAck, if_true] at count
        simp only [relaying]
        cases phase : progress.phase with
        | quiet =>
          rw [phase] at tracks
          have none := (tracks channel found).2
          omega
        | confirmed p =>
          rw [phase] at tracks
          have none := (tracks.2 channel found).2
          omega
        | sent p =>
          rw [phase] at tracks
          rcases tracks.2 channel found with ⟨-, none⟩ | ⟨empty, none | ⟨one, enqueued⟩⟩
          · omega
          · omega
          · refine ⟨enqueued, ?_⟩
            rintro _ ⟨⟩
            refine ⟨empty, ?_⟩
            change rest.countP Frame.isAck = 0
            omega
      | basicNack | method | other =>
        refine ⟨attuned.scanned.grown rfl, attuned.tracks.thinned ?_ (List.Subset.refl _)⟩
        rintro _ ⟨⟩
        exact .inr ⟨channel, found, .inl rfl, count.symm⟩

/-- A call of the library. It returns, and its effect on the connection is the one the
protocol follows. -/
theorem execMq_called {r : Amqp.Request} (kept : Kept P world) (attuned : Attuned world progress)
    (permitted : relaying.permits progress (.mq r)) :
    Called P progress (.mq r) ((execMq world turn r).1, .ok (execMq world turn r).2) := by
  have returns : ∀ value : Amqp.Reply r, relaying.answers (.mq r) (.ok value) := fun _ _ => rfl
  cases r with
  | connected =>
    cases found : world.conn with
    | some channel =>
      exact grown_called kept attuned ⟨rfl, rfl, List.Subset.refl _⟩ (returns _)
        (by simp [execMq, found, relaying])
    | none =>
      refine ⟨kept, returns _, ?_⟩
      simp only [execMq, found, relaying]
      exact ⟨attuned.scanned, by simp [Tracks, found]⟩
  | tcpSocketNew | socketOpen | login | channelOpen | connectionClose =>
    exact grown_called kept attuned ⟨rfl, rfl, List.Subset.refl _⟩ (returns _) rfl
  | exchangeDeclare exchange kind =>
    exact grown_called kept attuned (setUp_grows world turn _).1 (returns _) rfl
  | queueDeclare queue deadLetter =>
    exact grown_called kept attuned (setUp_grows world turn _).1 (returns _) rfl
  | queueBind queue exchange routingKey =>
    exact grown_called kept attuned (setUp_grows world turn _).1 (returns _) rfl
  | basicConsume queue =>
    exact grown_called kept attuned (setUp_grows world turn _).1 (returns _) rfl
  | newConnection =>
    refine ⟨kept.grown rfl (List.Subset.refl _), returns _, attuned.scanned.grown rfl, ?_⟩
    refine attuned.tracks.thinned ?_ (List.Subset.refl _)
    rintro channel ⟨⟩
    exact .inl ⟨rfl, rfl⟩
  | confirmSelect =>
    unfold execMq
    split
    · refine ⟨kept.grown rfl (List.Subset.refl _), returns _, attuned.scanned.grown rfl, ?_⟩
      refine attuned.tracks.thinned ?_ (List.Subset.refl _)
      intro channel here
      obtain ⟨old, there, rfl⟩ := Option.map_eq_some_iff.mp here
      exact .inr ⟨old, there, .inl rfl, rfl⟩
    · exact grown_called kept attuned ⟨rfl, rfl, List.Subset.refl _⟩ (returns _) rfl
  | basicPublish exchange routingKey payload =>
    obtain ⟨clear, row, scanned, same⟩ := permitted
    have quiet := attuned.tracks.idle clear
    have shipped : Shipped ⟨exchange, routingKey, payload⟩ := by
      obtain ⟨stored, present, -, version⟩ := attuned.scanned row scanned
      rw [← same, ← version]
      exact kept.shipped stored present
    unfold execMq
    split
    · refine ⟨kept.grown rfl (List.Subset.refl _), returns _, attuned.scanned.grown rfl, shipped, ?_⟩
      intro channel here
      obtain ⟨old, there, rfl⟩ := Option.map_eq_some_iff.mp here
      obtain ⟨empty, none⟩ := quiet old there
      exact .inl ⟨by simp [empty], none⟩
    · refine ⟨kept, returns _, attuned.scanned, shipped, fun channel here => ?_⟩
      obtain ⟨empty, none⟩ := quiet channel here
      exact .inr ⟨empty, .inl none⟩
  | waitFrame seconds =>
    simp only [execMq]
    split
    · exact readFrame_called kept attuned
    · exact grown_called kept attuned ⟨rfl, rfl, List.Subset.refl _⟩ (returns _) rfl
  | destroyConnection =>
    refine ⟨kept.grown rfl (List.Subset.refl _), returns _, attuned.scanned.grown rfl, ?_⟩
    simp [relaying, Tracks, execMq, World.dropConnection]

/-- One call of a round. A confirm is read only for a publication that the broker has taken,
and by the condition it takes one only while the queue is bound; marks come after that. -/
theorem exec_called {r : MessageRelayTask.Request} (kept : Kept P world)
    (attuned : Attuned world progress) (permitted : relaying.permits progress r) :
    Called P progress r (exec P.collate world turn r) := by
  have still : ∀ {r : MessageRelayTask.Request} (reply : Except Fault (MessageRelayTask.Reply r)),
      Grows world (attempt turn.thrown world world reply).1 := by
    intro r reply
    rcases attempt_world turn.thrown world world reply with same | same <;>
      exact ⟨by rw [same], by rw [same], by rw [same]; exact List.Subset.refl _⟩
  cases r with
  | mqClient => exact grown_called kept attuned (still _) (fun library => nomatch library) rfl
  | scanPending limit =>
    cases thrown : turn.thrown with
    | some exception =>
      obtain ⟨fault, applied⟩ := exception
      have failed : exec P.collate world turn (.scanPending limit) = (world, .error fault) := by
        cases applied <;> simp [exec, attempt, thrown]
      rw [failed]
      exact grown_called kept attuned ⟨rfl, rfl, List.Subset.refl _⟩ (by simp [relaying, isMq]) rfl
    | none =>
      have found : exec P.collate world turn (.scanPending limit) =
          (world, .ok (world.scanPending turn.due limit)) := by
        simp [exec, attempt, thrown]
      rw [found]
      refine ⟨kept, by simp [relaying, isMq], ?_, attuned.tracks⟩
      intro row member
      have stored := (List.mem_filter.mp (List.mem_of_mem_take member)).1
      exact ⟨row, stored, rfl, rfl⟩
  | markAcked messageId =>
    obtain ⟨row, scanned, rfl, confirmed⟩ := permitted
    obtain ⟨stored, present, sameId, same⟩ := attuned.scanned row scanned
    have enqueued : Enqueued world (publicationOf row) := by
      have tracks := attuned.tracks
      rw [confirmed] at tracks
      exact tracks.1
    refine mark_called kept attuned ⟨?_, ?_⟩ ?_ rfl fun _ => rfl
    · intro row
      unfold acknowledge
      split <;> rfl
    · intro row
      unfold acknowledge
      split <;> rfl
    · intro found member key _
      rw [kept.same_message member present (by rw [key, sameId]), same]
      exact .inr enqueued
  | markFailed messageId retryCount backoffSeconds =>
    exact mark_called kept attuned ⟨fun _ => rfl, fun _ => rfl⟩ (fun _ _ _ acked => .inl acked) rfl
      fun _ => rfl
  | markGiveUp messageId =>
    exact mark_called kept attuned ⟨fun _ => rfl, fun _ => rfl⟩ (fun _ _ _ acked => nomatch acked)
      rfl fun _ => rfl
  | mq r => exact execMq_called kept attuned permitted

end Calls

/-! The events of the system. -/

section Events

variable {world next : World}

/-- A committed payment adds a pending message with the shipped address. Nothing has been
published for it, so nothing that is known about the other messages is affected. -/
theorem pay_sound {message : LocalMessage} (sound : Sound P world)
    (shipped : Shipped (publicationOf message)) (pending : message.status = .kPending)
    (taken : world.pay P message = some next) : Sound P next := by
  unfold World.pay at taken
  split at taken
  · rename_i accepted
    cases taken
    simp only [Bool.and_eq_true, List.all_eq_true, bne_iff_ne] at accepted
    refine ⟨⟨?_, ?_, ?_⟩, sound.resting, ?_⟩
    · rw [List.map_append, List.map_singleton]
      refine List.nodup_append.mpr ⟨sound.kept.keys, by simp, ?_⟩
      intro key member other last same
      obtain ⟨row, stored, rfl⟩ := List.mem_map.mp member
      rw [List.mem_singleton.mp last] at same
      exact accepted.2 row stored same
    · intro row member
      rcases List.mem_append.mp member with old | new
      · exact sound.kept.shipped row old
      · rw [List.mem_singleton.mp new]
        exact shipped
    · intro row member acked
      rcases List.mem_append.mp member with old | new
      · exact sound.kept.confirmed row old acked
      · rw [List.mem_singleton.mp new, pending] at acked
        cases acked
    · intro rest running
      obtain ⟨progress, relays, attuned⟩ := sound.relaying rest running
      refine ⟨progress, relays, fun row member => ?_, attuned.tracks.grown rfl (List.Subset.refl _)⟩
      obtain ⟨stored, present, same⟩ := attuned.scanned row member
      exact ⟨stored, List.mem_append_left _ present, same⟩
  · cases taken

/-- Routing with the notify queue bound enqueues a message with the shipped address. -/
theorem route_enqueued {broker : Broker} {p : Publication} (shipped : Shipped p)
    (bound : ⟨NotifyConsumer.kQueue, NotifyConsumer.kExchange, NotifyConsumer.kRoutingKey⟩ ∈
      broker.bindings) : (NotifyConsumer.kQueue, p) ∈ (broker.route p).enqueued := by
  refine List.mem_append_right _ (List.mem_map.mpr ⟨_, List.mem_filter.mpr ⟨bound, ?_⟩, rfl⟩)
  simp [shipped.1, shipped.2]

/-- Routing adds to the queue, or drops. -/
theorem route_grows (broker : Broker) (p : Publication) :
    broker.enqueued ⊆ (broker.route p).enqueued :=
  List.subset_append_left _ _

/-- A publication on its way is the one that the relay has sent, alone and unconfirmed. This
is what lets the broker's next confirm be counted for it. -/
theorem Sound.sent {channel : Channel} {p : Publication} {others : List Publication}
    (sound : Sound P world) (found : world.conn = some channel)
    (inbox : channel.inbox = p :: others) :
    others = [] ∧ channel.acks = 0 ∧ ∃ rest progress, world.round = some rest ∧
      Relays progress rest ∧ Attuned world progress ∧ progress.phase = .sent p := by
  have busy : ¬Idle channel := by
    rintro ⟨empty, -⟩
    rw [inbox] at empty
    cases empty
  cases running : world.round with
  | none => exact absurd (sound.resting running channel found) busy
  | some rest =>
    obtain ⟨progress, relays, attuned⟩ := sound.relaying rest running
    have tracks := attuned.tracks
    cases phase : progress.phase with
    | quiet =>
      rw [phase] at tracks
      exact absurd (tracks channel found) busy
    | confirmed p =>
      rw [phase] at tracks
      exact absurd (tracks.2 channel found) busy
    | sent q =>
      rw [phase] at tracks
      rcases tracks.2 channel found with ⟨one, none⟩ | ⟨empty, -⟩
      · rw [inbox] at one
        obtain ⟨rfl, rfl⟩ := List.cons.inj one
        exact ⟨rfl, none, rest, progress, rfl, relays, attuned, phase⟩
      · rw [inbox] at empty
        cases empty

/-- The broker takes the publication under way, closes the channel, refuses it, or
routes it and confirms it. -/
theorem accept_sound {refuses : Bool} (sound : Sound P world)
    (bound : refuses = false → Bound world) (taken : world.accept refuses = some next) :
    Sound P next := by
  unfold World.accept at taken
  split at taken
  · cases taken
  rename_i channel found
  split at taken
  · cases taken
  rename_i p others inbox
  obtain ⟨rfl, none, rest, progress, running, relays, attuned, phase⟩ := sound.sent found inbox
  -- No confirm is added unless the message is routed.
  have silent : ∀ after : Channel, after.inbox = [] → after.acks = channel.acks →
      Sound P { world with conn := some after } := by
    intro after empty acks
    refine sound.thinned rfl rfl ?_ (List.Subset.refl _)
    rintro _ ⟨⟩
    exact .inr ⟨channel, found, .inr empty, acks⟩
  split at taken
  · cases taken
    exact silent _ rfl (by simp [Channel.acks, Frame.isAck])
  split at taken
  · cases taken
    apply silent _ rfl
    cases confirming : channel.confirming <;>
      simp [Channel.acks, Channel.answer, confirming, Frame.isAck]
  · rename_i accepts
    cases taken
    have tracks := attuned.tracks
    rw [phase] at tracks
    have arrived := route_enqueued tracks.1 (bound (by simpa using accepts))
    have grows := route_grows world.broker p
    refine ⟨sound.kept.grown rfl grows, fun stopped => ?_, fun script same => ?_⟩
    · rw [running] at stopped
      cases stopped
    · cases running.symm.trans same
      refine ⟨progress, relays, attuned.scanned.grown rfl, ?_⟩
      rw [phase]
      refine ⟨tracks.1, ?_⟩
      rintro _ ⟨⟩
      refine .inr ⟨rfl, ?_⟩
      have count : (channel.answer [] .basicAck).acks =
          channel.acks + if channel.confirming then 1 else 0 := by
        cases confirming : channel.confirming <;>
          simp [Channel.acks, Channel.answer, confirming, Frame.isAck]
      rw [count, none]
      cases channel.confirming with
      | false => exact .inl rfl
      | true => exact .inr ⟨rfl, arrived⟩

/-- Where the consumer stands does not matter to the relay. -/
theorem Sound.resumeConsumer (sound : Sound P world)
    (rest : Script Amqp.Request (fun r => Except Fault (Amqp.Reply r)) (Except Fault Bool)) :
    Sound P (world.resumeConsumer rest) := by
  unfold World.resumeConsumer
  split <;> exact sound.grown ⟨rfl, rfl, List.Subset.refl _⟩ rfl

/-- The consumer's calls touch the topology at most. -/
theorem execConsumer_grows (world : World) (turn : Turn) (r : Amqp.Request) :
    Grows world (execConsumer world turn r).1 ∧
      (execConsumer world turn r).1.round = world.round := by
  have nothing : Grows world world := ⟨rfl, rfl, List.Subset.refl _⟩
  cases r with
  | exchangeDeclare exchange kind => exact setUp_grows world turn (.exchangeDeclare exchange kind)
  | queueDeclare queue deadLetter => exact setUp_grows world turn (.queueDeclare queue deadLetter)
  | queueBind queue exchange routingKey => exact setUp_grows world turn (.queueBind queue exchange routingKey)
  | basicConsume queue => exact setUp_grows world turn (.basicConsume queue)
  | connected | newConnection | tcpSocketNew | socketOpen | login | channelOpen | confirmSelect
  | basicPublish | waitFrame | connectionClose | destroyConnection => exact ⟨nothing, rfl⟩

/-- Every event whose broker steps find the queue bound keeps the system sound. The condition
is used in one place: where the broker accepts. -/
theorem step_sound {event : Event} (sound : Sound P world) (bound : BoundFirst world event)
    (taken : step P world event = some next) : Sound P next := by
  cases event with
  | pay req order messageId => exact pay_sound sound ⟨rfl, rfl⟩ rfl taken
  | round =>
    simp only [step] at taken
    split at taken
    · rename_i resting
      cases taken
      have attuned : Attuned world ⟨[], .quiet⟩ := by
        refine ⟨?_, sound.resting resting⟩
        simp [Scanned]
      exact resumed_sound sound.kept attuned (relay_follows trivial)
    · cases taken
  | relay turn =>
    simp only [step] at taken
    split at taken
    · rename_i r k running
      cases taken
      obtain ⟨progress, relays, attuned⟩ := sound.relaying _ running
      have called : Called P progress r (exec P.collate world turn r) :=
        exec_called sound.kept attuned relays.1
      exact resumed_sound called.kept called.attuned (relays.2 _ called.answers)
    · cases taken
  | accept refuses =>
    refine accept_sound sound ?_ taken
    rintro rfl
    exact bound
  | stray index lost =>
    simp only [step, World.acceptStray] at taken
    split at taken
    · cases taken
    · cases taken
      refine sound.grown ⟨rfl, rfl, ?_⟩ rfl
      dsimp only
      split
      · exact List.Subset.refl _
      · exact route_grows _ _
  | frame frame =>
    simp only [step] at taken
    split at taken
    · cases taken
    · rename_i other
      cases taken
      refine sound.thinned rfl rfl ?_ (List.Subset.refl _)
      intro channel here
      obtain ⟨old, there, rfl⟩ := Option.map_eq_some_iff.mp here
      exact .inr ⟨old, there, .inl rfl, by simp [Channel.acks, other]⟩
  | lose =>
    cases taken
    refine sound.thinned rfl rfl ?_ (List.Subset.refl _)
    intro channel here
    obtain ⟨old, there, rfl⟩ := Option.map_eq_some_iff.mp here
    exact .inr ⟨old, there, .inr rfl, rfl⟩
  | connect =>
    simp only [step] at taken
    split at taken
    · cases taken
      exact sound.resumeConsumer _
    · cases taken
  | consumer turn =>
    simp only [step] at taken
    split at taken
    · rename_i r k connecting
      cases taken
      obtain ⟨grows, round⟩ := execConsumer_grows world turn r
      exact (sound.grown grows round).resumeConsumer _
    · cases taken
  | disconnect =>
    simp only [step] at taken
    split at taken
    · cases taken
      exact sound.grown ⟨rfl, rfl, List.Subset.refl _⟩ rfl
    · cases taken
  | crash =>
    cases taken
    refine ⟨sound.kept.grown rfl (List.Subset.refl _), ?_, ?_⟩
    · intro _ channel here
      nomatch here
    · intro _ running
      nomatch running

end Events

/-- In every run in which the broker accepts publications only while the notify queue is
bound, whatever else happens in whichever order, a confirmed message has been enqueued.
`mandatory` is 0, so without the condition a confirm says nothing about a queue. -/
theorem reached_confirmedEnqueued {world : World}
    (reached : Transitions.Reached (step P) BoundFirst .initial world) :
    ConfirmedEnqueued world := by
  have started : Sound P .initial :=
    ⟨⟨by simp [World.initial], by simp [World.initial], by simp [ConfirmedEnqueued, World.initial]⟩,
      by simp [World.initial], by simp [World.initial]⟩
  exact (reached.invariant started fun _ _ _ sound bound taken => step_sound sound bound taken).kept.confirmed

/-- `BoundFirst` as a test. -/
def boundFirst (world : World) : Event → Bool
  | .accept false => decide
      (⟨NotifyConsumer.kQueue, NotifyConsumer.kExchange, NotifyConsumer.kRoutingKey⟩ ∈
        world.broker.bindings)
  | _ => true

/-- The decidable form of the condition. -/
theorem boundFirst_sound {world : World} {event : Event} (passed : boundFirst world event = true) :
    BoundFirst world event := by
  unfold BoundFirst
  split
  · have bound : Bound world := by simpa [boundFirst, Bound] using passed
    exact bound
  · trivial

/-- A call without any trouble. -/
def smooth : Turn := ⟨none, fun _ => true, true, true⟩

/-- An order is paid. -/
def paying : Event :=
  .pay ⟨"req-0002", "7001", "MOCK", "T1", "39.90", "1760000000", "sign"⟩
    ⟨"7001", "req-0001", 8, 1, 2, 1995, 3990, .kPendingPayment, "2025-10-09 16:53:20", ""⟩ "m1"

/-- A round in which everything goes well: the relay connects and publishes, the broker
takes the message, and the relay reads the confirm and marks the row. -/
def wholeRound : List Event :=
  .round :: List.replicate 11 (.relay smooth) ++ .accept false :: List.replicate 2 (.relay smooth)

/-- The statuses in the outbox and what was enqueued. -/
def delivered (world : World) : List MessageStatus × List String :=
  (world.rows.map (·.status), world.broker.enqueued.map (·.1))

/-- The consumer connects and binds the queue before the first round: the confirmed message is
enqueued. -/
theorem shop_confirmedEnqueued : ∃ world,
    Transitions.Reached (step Shop.platform) BoundFirst .initial world ∧
      delivered world = ([.kAcked], [NotifyConsumer.kQueue]) ∧ ConfirmedEnqueued world := by
  have ran : ((Transitions.runWhere (step Shop.platform) boundFirst .initial
      (paying :: .connect :: List.replicate 12 (.consumer smooth) ++ wholeRound)).map delivered) =
        some ([.kAcked], [NotifyConsumer.kQueue]) := by
    decide +kernel
  obtain ⟨world, last, shown⟩ := Option.map_eq_some_iff.mp ran
  have reached := Transitions.Reached.of_runWhere
    (fun world event => @boundFirst_sound world event) .initial last
  exact ⟨world, reached, shown, reached_confirmedEnqueued reached⟩

/-- The first round runs before the consumer has connected: the exchange is there, the
queue is not, the broker drops the message and confirms it. -/
theorem shop_confirmedDropped : ∃ world,
    Transitions.Reached (step Shop.platform) (fun _ _ => True) .initial world ∧
      ¬ConfirmedEnqueued world := by
  have ran : ((Transitions.runWhere (step Shop.platform) (fun _ _ => true) .initial
      (paying :: wholeRound)).map delivered) = some ([.kAcked], []) := by
    decide +kernel
  obtain ⟨world, last, shown⟩ := Option.map_eq_some_iff.mp ran
  refine ⟨world, .of_runWhere (fun _ _ _ => trivial) .initial last, fun confirmed => ?_⟩
  obtain ⟨statuses, none⟩ := Prod.mk.inj shown
  have acked : MessageStatus.kAcked ∈ world.rows.map (·.status) := by simp [statuses]
  obtain ⟨row, member, status⟩ := List.mem_map.mp acked
  have enqueued := confirmed row member status
  rw [Enqueued, List.map_eq_nil_iff.mp none] at enqueued
  cases enqueued

end Outbox

end TradeReconcile
