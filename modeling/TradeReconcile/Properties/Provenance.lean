import TradeReconcile.Messaging.Pipeline
import TradeReconcile.Properties.Delivery

/-!
# Where notifications come from

On both sides of the broker nothing is made up. The relay publishes rows of the outbox as they
stand there, on connections that may be given up and with confirms that may be lost; the
consumer reads what it tells the merchant and what it writes into its table in the body of the
delivery at hand. And a body that has reached the consumer's side stays there: it waits, is
being handled, was answered or lies among the dead letters.
-/

namespace TradeReconcile

namespace Outbox

open Scripts Amqp

variable {P : Platform}

/-- What a round never changes of a row. -/
def stamp (row : LocalMessage) : String × Publication := (row.messageId, publicationOf row)

/-- The publications on the way to the broker, on connections that were given up, and in
the queues. -/
def World.publications (world : World) : List Publication :=
  (world.conn.map Channel.inbox).getD [] ++ world.strays ++ world.broker.enqueued.map Prod.snd

/-- A publication of a stored row. -/
def Sent (world : World) (p : Publication) : Prop := ∃ row ∈ world.rows, publicationOf row = p

/-- Everything published stems from the outbox, and a round goes on like that. A publication
on its way, also on a connection that was given up, counts as published. -/
structure Traced (world : World) : Prop where
  sent : ∀ p ∈ world.publications, Sent world p
  relaying : ∀ rest, world.round = some rest → ∃ progress, Relays progress rest ∧
    Scanned world progress.scanned

/-- Rows keep their stamps and queues only grow. -/
structure Extends (before after : World) : Prop where
  stamps : after.rows.map stamp = before.rows.map stamp
  queues : before.broker.enqueued <+: after.broker.enqueued

/-- Without an event the rows are the same and nothing more has been enqueued. -/
theorem Extends.refl (world : World) : Extends world world := ⟨rfl, List.prefix_refl _⟩

/-- Events that touch neither the rows nor the queue. -/
theorem Extends.same {before after : World} (rows : after.rows = before.rows)
    (queues : after.broker.enqueued = before.broker.enqueued) : Extends before after :=
  ⟨by rw [rows], by rw [queues]⟩

/-- A publication stays one of a row: rows keep their stamps, whatever becomes of their
status. -/
theorem Sent.extended {before after : World} {p : Publication} (sent : Sent before p)
    (stamps : after.rows.map stamp = before.rows.map stamp) : Sent after p := by
  obtain ⟨row, stored, rfl⟩ := sent
  have kept : stamp row ∈ after.rows.map stamp := stamps ▸ List.mem_map_of_mem stored
  obtain ⟨found, present, same⟩ := List.mem_map.mp kept
  exact ⟨found, present, congrArg Prod.snd same⟩

/-- What a round has scanned stays in the table, up to the status of the rows. -/
theorem Scanned.extended {before after : World} {rows : List LocalMessage}
    (scanned : Scanned before rows) (stamps : after.rows.map stamp = before.rows.map stamp) :
    Scanned after rows := by
  intro row member
  obtain ⟨stored, present, sameId, same⟩ := scanned row member
  have kept : stamp stored ∈ after.rows.map stamp := stamps ▸ List.mem_map_of_mem present
  obtain ⟨found, there, equal⟩ := List.mem_map.mp kept
  exact ⟨found, there, (congrArg Prod.fst equal).trans sameId, (congrArg Prod.snd equal).trans same⟩

/-- The publications of a world in which one channel may have been given up. -/
theorem dropped_publications {world : World} {p : Publication}
    (member : p ∈ world.dropConnection.publications) : p ∈ world.publications := by
  simp only [World.publications, World.dropConnection, Option.map_none, Option.getD_none,
    List.nil_append, List.mem_append] at member ⊢
  tauto

/-- A step that publishes nothing new and leaves rows and round alone. -/
theorem Traced.thinned {before after : World} (traced : Traced before)
    (rows : after.rows = before.rows) (round : after.round = before.round)
    (publications : after.publications ⊆ before.publications) : Traced after where
  sent p member := (traced.sent p (publications member)).extended (by rw [rows])
  relaying rest running := by
    obtain ⟨progress, relays, scanned⟩ := traced.relaying rest (round.symm.trans running)
    exact ⟨progress, relays, scanned.extended (by rw [rows])⟩

/-- Rows are added. -/
theorem Traced.written {world : World} (traced : Traced world) (more : List LocalMessage) :
    Traced { world with rows := world.rows ++ more } where
  sent p member := by
    obtain ⟨row, stored, same⟩ := traced.sent p member
    exact ⟨row, List.mem_append_left _ stored, same⟩
  relaying rest running := by
    obtain ⟨progress, relays, scanned⟩ := traced.relaying rest running
    refine ⟨progress, relays, fun row member => ?_⟩
    obtain ⟨stored, present, same⟩ := scanned row member
    exact ⟨stored, List.mem_append_left _ present, same⟩

/-- What a call of a round leaves behind. -/
structure Traces (progress : Progress) (r : MessageRelayTask.Request) (before : World)
    (called : World × Except Fault (MessageRelayTask.Reply r)) : Prop where
  kept : Extends before called.1
  sent : ∀ p ∈ called.1.publications, Sent called.1 p
  answers : relaying.answers r called.2
  scanned : Scanned called.1 (relaying.after progress r called.2).scanned

section Calls

variable {world : World} {progress : Progress} {turn : Turn}

/-- A call that publishes nothing and scans nothing. -/
theorem traces_still {r : MessageRelayTask.Request}
    {called : World × Except Fault (MessageRelayTask.Reply r)}
    (sent : ∀ p ∈ world.publications, Sent world p) (scanned : Scanned world progress.scanned)
    (extended : Extends world called.1) (publications : called.1.publications ⊆ world.publications)
    (answers : relaying.answers r called.2)
    (still : (relaying.after progress r called.2).scanned = progress.scanned) :
    Traces progress r world called where
  kept := extended
  sent p member := (sent p (publications member)).extended extended.stamps
  answers := answers
  scanned := by
    rw [still]
    exact scanned.extended extended.stamps

/-- Setting up a connection publishes nothing and enqueues nothing. -/
theorem setUp_publications (world : World) (turn : Turn) (r : Amqp.Request) :
    (world.setUp turn r).1.publications = world.publications ∧
      Extends world (world.setUp turn r).1 := by
  unfold World.setUp
  split
  · cases r <;> exact ⟨rfl, rfl, List.prefix_refl _⟩
  · exact ⟨rfl, .refl world⟩

/-- A statement of the round changes no stamp. -/
theorem updateRow_extends (collate : String → String) (messageId : String)
    {set : LocalMessage → LocalMessage} (relabels : Relabels set) :
    Extends world (world.updateRow collate messageId set) := by
  refine ⟨?_, List.prefix_refl _⟩
  simp only [World.updateRow, List.map_map]
  refine List.map_congr_left fun row _ => ?_
  simp only [Function.comp_apply]
  split
  · simp only [stamp, relabels.messageId, relabels.publication]
  · rfl

/-- A marking statement, whether or not it throws. -/
theorem mark_traces {r : MessageRelayTask.Request} {messageId : String}
    {set : LocalMessage → LocalMessage} {reply : Except Fault (MessageRelayTask.Reply r)}
    (sent : ∀ p ∈ world.publications, Sent world p) (scanned : Scanned world progress.scanned)
    (relabels : Relabels set) (unlibrary : isMq r = false)
    (still : ∀ reply, (relaying.after progress r reply).scanned = progress.scanned) :
    Traces progress r world
      (attempt turn.thrown world (world.updateRow P.collate messageId set) reply) := by
  have answers : ∀ reply, relaying.answers r reply := by
    intro reply library
    rw [unlibrary] at library
    cases library
  rcases attempt_world turn.thrown world (world.updateRow P.collate messageId set) reply with
    same | same
  · exact traces_still sent scanned (by rw [same]; exact .refl world) (by rw [same]; exact List.Subset.refl _)
      (answers _) (still _)
  · exact traces_still sent scanned (by rw [same]; exact updateRow_extends P.collate messageId relabels)
      (by rw [same]; exact List.Subset.refl _) (answers _) (still _)

/-- A call of the library: only `basic.publish` publishes, and it publishes a scanned row. The
calls that build or drop a connection keep or lose publications, and add none. -/
theorem execMq_traces {r : Amqp.Request} (sent : ∀ p ∈ world.publications, Sent world p)
    (scanned : Scanned world progress.scanned) (permitted : relaying.permits progress (.mq r)) :
    Traces progress (.mq r) world ((execMq world turn r).1, .ok (execMq world turn r).2) := by
  have returns : ∀ value : Amqp.Reply r, relaying.answers (.mq r) (.ok value) := fun _ _ => rfl
  have still : Extends world world := .refl world
  have all : world.publications ⊆ world.publications := List.Subset.refl _
  cases r with
  | connected =>
    refine traces_still sent scanned still all (returns _) ?_
    cases found : world.conn <;> simp [execMq, found, relaying]
  | tcpSocketNew | socketOpen | login | channelOpen | connectionClose =>
    exact traces_still sent scanned still all (returns _) rfl
  | exchangeDeclare exchange kind =>
    obtain ⟨same, kept⟩ := setUp_publications world turn (.exchangeDeclare exchange kind)
    exact traces_still sent scanned kept (by rw [execMq, same]; exact all) (returns _) rfl
  | queueDeclare queue deadLetter =>
    obtain ⟨same, kept⟩ := setUp_publications world turn (.queueDeclare queue deadLetter)
    exact traces_still sent scanned kept (by rw [execMq, same]; exact all) (returns _) rfl
  | queueBind queue exchange routingKey =>
    obtain ⟨same, kept⟩ := setUp_publications world turn (.queueBind queue exchange routingKey)
    exact traces_still sent scanned kept (by rw [execMq, same]; exact all) (returns _) rfl
  | basicConsume queue =>
    obtain ⟨same, kept⟩ := setUp_publications world turn (.basicConsume queue)
    exact traces_still sent scanned kept (by rw [execMq, same]; exact all) (returns _) rfl
  | newConnection | destroyConnection =>
    exact traces_still sent scanned ⟨rfl, List.prefix_refl _⟩
      (fun p member => dropped_publications member) (returns _) rfl
  | confirmSelect =>
    unfold execMq
    split
    · refine traces_still sent scanned ⟨rfl, List.prefix_refl _⟩ ?_ (returns _) rfl
      cases found : world.conn <;> simp [World.publications, found]
    · exact traces_still sent scanned still all (returns _) rfl
  | basicPublish exchange routingKey payload =>
    obtain ⟨-, row, member, same⟩ := permitted
    obtain ⟨stored, present, -, version⟩ := scanned row member
    have own : Sent world ⟨exchange, routingKey, payload⟩ := ⟨stored, present, version.trans same⟩
    unfold execMq
    split
    · refine ⟨⟨rfl, List.prefix_refl _⟩, fun p published => ?_, returns _, scanned⟩
      cases found : world.conn with
      | none => exact sent p (by simpa [World.publications, found] using published)
      | some channel =>
        simp only [World.publications, found, Option.map_some, Option.getD_some, List.mem_append,
          List.mem_singleton] at published
        rcases published with ((old | rfl) | stray) | queued
        · exact sent p (by simp [World.publications, found, old])
        · exact own
        · exact sent p (by simp [World.publications, stray])
        · exact sent p (by simp only [World.publications, List.mem_append]; exact .inr queued)
    · exact traces_still sent scanned still all (returns _) rfl
  | waitFrame seconds =>
    have read : Extends world world.readFrame.1 ∧ world.readFrame.1.publications ⊆ world.publications := by
      unfold World.readFrame
      split
      · exact ⟨still, all⟩
      · rename_i channel found
        split
        · exact ⟨still, all⟩
        · exact ⟨⟨rfl, List.prefix_refl _⟩, by simp [World.publications, found]⟩
    simp only [execMq]
    split
    · refine traces_still sent scanned read.1 read.2 (returns _) ?_
      cases world.readFrame.2 with
      | none => rfl
      | some frame => cases frame <;> rfl
    · exact traces_still sent scanned still all (returns _) rfl

/-- One call of a round: what it publishes comes from a row that the round has scanned, and
what it enqueues has been published. Scans and marks are the other cases; they read stamps and
leave them alone. -/
theorem exec_traces {r : MessageRelayTask.Request} (sent : ∀ p ∈ world.publications, Sent world p)
    (scanned : Scanned world progress.scanned) (permitted : relaying.permits progress r) :
    Traces progress r world (exec P.collate world turn r) := by
  have still : Extends world world := .refl world
  have all : world.publications ⊆ world.publications := List.Subset.refl _
  cases r with
  | mqClient =>
    rcases attempt_world turn.thrown world world (.ok ()) with same | same <;>
    · refine traces_still sent scanned ?_ ?_ (by simp [relaying, isMq]) rfl
      · rw [exec, same]
        exact still
      · rw [exec, same]
        exact all
  | scanPending limit =>
    have found : ∀ row ∈ world.scanPending turn.due limit, row ∈ world.rows := fun row member =>
      (List.mem_filter.mp (List.mem_of_mem_take member)).1
    cases thrown : turn.thrown with
    | some exception =>
      obtain ⟨fault, applied⟩ := exception
      have failed : exec P.collate world turn (.scanPending limit) = (world, .error fault) := by
        cases applied <;> simp [exec, attempt, thrown]
      rw [failed]
      exact traces_still sent scanned still all (by simp [relaying, isMq]) rfl
    | none =>
      have answered : exec P.collate world turn (.scanPending limit) =
          (world, .ok (world.scanPending turn.due limit)) := by
        simp [exec, attempt, thrown]
      rw [answered]
      exact ⟨still, sent, by simp [relaying, isMq], fun row member => ⟨row, found row member, rfl, rfl⟩⟩
  | markAcked messageId =>
    refine mark_traces sent scanned ⟨fun row => ?_, fun row => ?_⟩ rfl fun _ => rfl
    · unfold acknowledge
      split <;> rfl
    · unfold acknowledge
      split <;> rfl
  | markFailed messageId retryCount backoffSeconds =>
    exact mark_traces sent scanned ⟨fun _ => rfl, fun _ => rfl⟩ rfl fun _ => rfl
  | markGiveUp messageId =>
    exact mark_traces sent scanned ⟨fun _ => rfl, fun _ => rfl⟩ rfl fun _ => rfl
  | mq r => exact execMq_traces sent scanned permitted

end Calls

section Events

variable {world next : World}

/-- Routing only puts copies of the publication into the queues. -/
theorem route_publications (broker : Broker) (p : Publication) :
    ∀ q ∈ (broker.route p).enqueued.map Prod.snd, q = p ∨ q ∈ broker.enqueued.map Prod.snd := by
  intro q member
  simp only [Broker.route, List.map_append, List.mem_append, List.map_map, List.mem_map,
    Function.comp_apply] at member
  rcases member with old | ⟨binding, -, rfl⟩
  · exact .inr (by simpa using old)
  · exact .inl rfl

/-- The broker enqueues only what was published on the channel, and drops the rest. In each of
its ways to go on, refused, unroutable or routed, every publication it keeps is one it was
given. -/
theorem accept_traced {refuses : Bool} (traced : Traced world)
    (taken : world.accept refuses = some next) : Extends world next ∧ Traced next := by
  unfold World.accept at taken
  split at taken
  · cases taken
  rename_i channel found
  split at taken
  · cases taken
  rename_i p rest inbox
  have own : ∀ q, q = p ∨ q ∈ rest → q ∈ world.publications := by
    intro q member
    simp only [World.publications, found, Option.map_some, Option.getD_some, inbox, List.mem_append,
      List.mem_cons]
    tauto
  have others : ∀ q, q ∈ world.strays ∨ q ∈ world.broker.enqueued.map Prod.snd →
      q ∈ world.publications := by
    intro q member
    simp only [World.publications, List.mem_append]
    tauto
  split at taken
  · cases taken
    refine ⟨⟨rfl, List.prefix_refl _⟩, traced.thinned rfl rfl fun q member => ?_⟩
    simp only [World.publications, Option.map_some, Option.getD_some, List.nil_append,
      List.mem_append] at member
    exact others q member
  split at taken
  · cases taken
    refine ⟨⟨rfl, List.prefix_refl _⟩, traced.thinned rfl rfl fun q member => ?_⟩
    simp only [World.publications, Option.map_some, Option.getD_some, Channel.answer,
      List.mem_append] at member
    rcases member with (inside | stray) | queued
    · exact own q (.inr inside)
    · exact others q (.inl stray)
    · exact others q (.inr queued)
  · cases taken
    refine ⟨⟨rfl, List.prefix_append _ _⟩, traced.thinned rfl rfl fun q member => ?_⟩
    simp only [World.publications, Option.map_some, Option.getD_some, Channel.answer,
      List.mem_append] at member
    rcases member with (inside | stray) | queued
    · exact own q (.inr inside)
    · exact others q (.inl stray)
    · rcases route_publications world.broker p q queued with rfl | old
      · exact own q (.inl rfl)
      · exact others q (.inr old)

/-- A publication of a connection that was given up may arrive late; it was published all the
same. -/
theorem acceptStray_traced {index : Nat} {lost : Bool} (traced : Traced world)
    (taken : world.acceptStray index lost = some next) : Extends world next ∧ Traced next := by
  unfold World.acceptStray at taken
  split at taken
  · cases taken
  rename_i p found
  cases taken
  have own : p ∈ world.strays := List.mem_of_getElem? found
  have part : ∀ q, q ∈ world.strays.eraseIdx index → q ∈ world.strays := fun q member =>
    (List.eraseIdx_sublist world.strays index).subset member
  by_cases routed : (lost || decide (p.exchange ∉ world.broker.exchanges)) = true
  · rw [if_pos routed]
    refine ⟨⟨rfl, List.prefix_refl _⟩, traced.thinned rfl rfl fun q member => ?_⟩
    simp only [World.publications, List.mem_append] at member ⊢
    rcases member with (inside | stray) | queued
    · exact .inl (.inl inside)
    · exact .inl (.inr (part q stray))
    · exact .inr queued
  · rw [if_neg routed]
    refine ⟨⟨rfl, List.prefix_append _ _⟩, traced.thinned rfl rfl fun q member => ?_⟩
    simp only [World.publications, List.mem_append] at member ⊢
    rcases member with (inside | stray) | queued
    · exact .inl (.inl inside)
    · exact .inl (.inr (part q stray))
    · rcases route_publications world.broker p q queued with rfl | old
      · exact .inl (.inr own)
      · exact .inr old

/-- A round that goes on or ends. -/
theorem resumed_traced {progress : Progress}
    (sent : ∀ p ∈ world.publications, Sent world p) (scanned : Scanned world progress.scanned)
    {rest : Script MessageRelayTask.Request
      (fun r => Except Fault (MessageRelayTask.Reply r)) (Except Fault Unit)}
    (relays : Relays progress rest) : Traced (world.resumeRound rest) := by
  cases rest with
  | done value => exact ⟨sent, fun script running => by cases running⟩
  | call r k =>
    refine ⟨sent, fun script running => ?_⟩
    cases running
    exact ⟨progress, relays, scanned⟩

/-- That a round goes on or ends is no event for the rows or the queue. -/
theorem resumeRound_extends (world : World) (rest : Script MessageRelayTask.Request
    (fun r => Except Fault (MessageRelayTask.Reply r)) (Except Fault Unit)) :
    Extends world (world.resumeRound rest) := by
  cases rest <;> exact .same rfl rfl

/-- Nor is it for the consumer, even when it gives its connection back. -/
theorem resumeConsumer_extends (world : World)
    (rest : Script Amqp.Request (fun r => Except Fault (Amqp.Reply r)) (Except Fault Bool)) :
    Extends world (world.resumeConsumer rest) := by
  unfold World.resumeConsumer
  split <;> exact .same rfl rfl

/-- The consumer's calls publish nothing: it declares, binds and reads. -/
theorem execConsumer_publications (world : World) (turn : Turn) (r : Amqp.Request) :
    Extends world (execConsumer world turn r).1 ∧
      (execConsumer world turn r).1.publications = world.publications := by
  cases r with
  | exchangeDeclare exchange kind =>
    exact (setUp_publications world turn (.exchangeDeclare exchange kind)).symm
  | queueDeclare queue deadLetter =>
    exact (setUp_publications world turn (.queueDeclare queue deadLetter)).symm
  | queueBind queue exchange routingKey =>
    exact (setUp_publications world turn (.queueBind queue exchange routingKey)).symm
  | basicConsume queue => exact (setUp_publications world turn (.basicConsume queue)).symm
  | connected | newConnection | tcpSocketNew | socketOpen | login | channelOpen | confirmSelect
  | basicPublish | waitFrame | connectionClose | destroyConnection => exact ⟨.same rfl rfl, rfl⟩

/-- What was traced stays traced when the consumer gives its connection back: publications
only become fewer. -/
theorem Traced.resumed (traced : Traced world)
    (rest : Script Amqp.Request (fun r => Except Fault (Amqp.Reply r)) (Except Fault Bool)) :
    Traced (world.resumeConsumer rest) := by
  unfold World.resumeConsumer
  split <;> exact traced.thinned rfl rfl (List.Subset.refl _)

/-- Every event but a payment keeps the publications traced to scanned rows: a round and its
calls, the broker's turns, and whatever takes the connection away. -/
theorem step_traced {event : Event} (traced : Traced world)
    (other : ∀ req order messageId, event ≠ .pay req order messageId)
    (taken : step P world event = some next) : Extends world next ∧ Traced next := by
  cases event with
  | pay req order messageId => exact absurd rfl (other req order messageId)
  | round =>
    simp only [step] at taken
    split at taken
    · cases taken
      have relays : Relays ⟨[], .quiet⟩ MessageRelayTask.relay := relay_follows trivial
      exact ⟨resumeRound_extends world _, resumed_traced traced.sent (by simp [Scanned]) relays⟩
    · cases taken
  | relay turn =>
    simp only [step] at taken
    split at taken
    · rename_i r k running
      cases taken
      obtain ⟨progress, relays, scanned⟩ := traced.relaying _ running
      have traces : Traces progress r world (exec P.collate world turn r) :=
        exec_traces traced.sent scanned relays.1
      have after := resumeRound_extends (exec P.collate world turn r).1
        (k (exec P.collate world turn r).2)
      exact ⟨⟨after.stamps.trans traces.kept.stamps, traces.kept.queues.trans after.queues⟩,
        resumed_traced traces.sent traces.scanned (relays.2 _ traces.answers)⟩
    · cases taken
  | accept refuses => exact accept_traced traced taken
  | stray index lost => exact acceptStray_traced traced taken
  | frame frame =>
    simp only [step] at taken
    split at taken
    · cases taken
    · cases taken
      refine ⟨.same rfl rfl, traced.thinned rfl rfl fun q member => ?_⟩
      cases found : world.conn <;> simpa [World.publications, found] using member
  | lose =>
    cases taken
    refine ⟨.same rfl rfl, traced.thinned rfl rfl fun q member => ?_⟩
    cases found : world.conn with
    | none => simpa [World.publications, found] using member
    | some channel =>
      simp only [World.publications, found, Option.map_some, Option.getD_some, List.nil_append,
        List.mem_append] at member ⊢
      tauto
  | connect =>
    simp only [step] at taken
    split at taken
    · cases taken
      exact ⟨resumeConsumer_extends world _, traced.resumed _⟩
    · cases taken
  | consumer turn =>
    simp only [step] at taken
    split at taken
    · rename_i r k connecting
      cases taken
      obtain ⟨grows, running⟩ := execConsumer_grows world turn r
      obtain ⟨called, before⟩ := execConsumer_publications world turn r
      have resumed := resumeConsumer_extends (execConsumer world turn r).1
        (k (.ok (execConsumer world turn r).2))
      have after := traced.thinned grows.rows running (by rw [before]; exact List.Subset.refl _)
      refine ⟨⟨resumed.stamps.trans called.stamps, called.queues.trans resumed.queues⟩, ?_⟩
      exact after.resumed _
    · cases taken
  | disconnect =>
    simp only [step] at taken
    split at taken
    · cases taken
      exact ⟨.same rfl rfl, traced.thinned rfl rfl (List.Subset.refl _)⟩
    · cases taken
  | crash =>
    cases taken
    refine ⟨.same rfl rfl, ⟨fun p member => ?_, fun rest running => by cases running⟩⟩
    exact traced.sent p (dropped_publications member)

end Events

end Outbox

namespace NotifyConsumer

open Scripts

variable {C : ConsumerPlatform} {body : List UInt8}

/-! What the handler says about a message is what it reads in it. -/

/-- A call that names what the body says: a row for its message id and order, or a request to
the merchant with its order and amount. -/
def Speaks (C : ConsumerPlatform) (body : List UInt8) : Request → Prop
  | .insertWithDedup _ messageId orderNo _ =>
      ∃ amount, readMessage C body = .ok (some ⟨messageId, orderNo, amount⟩)
  | .sendRequest _ orderNo amount =>
      ∃ messageId, readMessage C body = .ok (some ⟨messageId, orderNo, amount⟩)
  | _ => True

/-- Calls about the body, whatever comes back. -/
def speaking (C : ConsumerPlatform) (body : List UInt8) :
    Protocol Request (fun r => Except Fault (Reply r)) Unit where
  permits _ := Speaks C body
  answers _ _ := True
  after _ _ _ := ()

/-- The rest of a handler speaks about the body. -/
abbrev Spoken (C : ConsumerPlatform) (body : List UInt8) {α : Type}
    (rest : Script Request (fun r => Except Fault (Reply r)) α) : Prop :=
  Script.Follows (speaking C body) (fun _ _ => True) () rest

/-- A request that may be made, followed by code that makes only such requests. -/
theorem spoken_call {α : Type} {r : Request} {next : Reply r → Handler α}
    (speaks : Speaks C body r) (continues : ∀ value, Spoken C body (next value)) :
    Spoken C body (request r >>= next : Handler α) :=
  follows_perform speaks (fun value _ => continues value) fun _ _ => trivial

/-- Code that speaks of the body throughout, also where its first part has failed. -/
theorem spoken_bind {α β : Type} {code : Handler α} {next : α → Handler β}
    (first : Spoken C body code) (rest : ∀ value, Spoken C body (next value)) :
    Spoken C body (code >>= next : Handler β) := by
  apply follows_bind
  apply first.mono
  rintro ⟨⟩ (fault | value) _
  · trivial
  · exact rest value

/-- The retries of a notification repeat its order number and amount, which are the message's.
The induction is on the retries that are left. -/
theorem notifyMerchant_spoken {message : Message} (read : readMessage C body = .ok (some message))
    (notifyNo : String) (retries : Nat) :
    Spoken C body (notifyMerchant notifyNo message.orderNo message.amount retries) := by
  have pure_spoken (processed : Bool) : Spoken C body (pure processed : Handler Bool) := trivial
  induction retries with
  | zero =>
    rw [notifyMerchant.eq_def]
    refine spoken_call ⟨message.messageId, read⟩ fun response => ?_
    cases accepted response with
    | some text => exact spoken_call trivial fun _ => pure_spoken true
    | none => exact spoken_call trivial fun _ => pure_spoken false
  | succ retries inductionHypothesis =>
    rw [notifyMerchant.eq_def]
    refine spoken_call ⟨message.messageId, read⟩ fun response => ?_
    cases accepted response with
    | some text => exact spoken_call trivial fun _ => pure_spoken true
    | none => exact spoken_call trivial fun _ => inductionHypothesis

/-- The handler records and notifies nothing but what it has read in the body, on every path
through it. -/
theorem handleMessage_spoken (C : ConsumerPlatform) (body : List UInt8) :
    Spoken C body (handleMessage C body) := by
  have processed : Spoken C body (process C body) := by
    rw [process]
    split
    · trivial
    · trivial
    · rename_i message read
      refine spoken_call trivial fun notifyNo => ?_
      refine spoken_call ⟨message.amount, read⟩ fun affectedRows => ?_
      split
      · trivial
      · exact notifyMerchant_spoken read notifyNo kMaxInProcessRetries
  refine spoken_bind processed fun done => ?_
  cases done <;> exact ⟨trivial, fun _ _ => trivial⟩

/-! Bodies on their way through the queue and the table. -/

/-- A row of the notify table that was made for what is read in a body: the columns keep
the message's id and order number up to spaces past their ends. -/
def MadeFor (C : ConsumerPlatform) (body : List UInt8) (record : NotifyRecord) : Prop :=
  ∃ message, readMessage C body = .ok (some message) ∧
    record.messageId = storedMessageId message.messageId ∧
    record.orderNo = Varchar.cut 32 message.orderNo

/-- All that the consumer's side holds was published before: queued, unanswered, answered and
told bodies, and the records. -/
structure Stems (C : ConsumerPlatform) (published : List UInt8 → Prop) (world : World) : Prop where
  ready : ∀ body ∈ world.ready, published body
  unacked : ∀ delivery ∈ world.unacked, published delivery.body
  told : ∀ body ∈ world.told, published body
  dead : ∀ body ∈ world.dead, published body
  acked : ∀ body ∈ world.acked, published body
  records : ∀ record ∈ world.records, ∃ body, published body ∧ MadeFor C body record

/-- And so is what its thread is handling. -/
structure Traced (C : ConsumerPlatform) (published : List UInt8 → Prop) (world : World) : Prop where
  stems : Stems C published world
  handling : ∀ delivery alive rest, world.thread = .handling delivery alive rest →
    published delivery.body ∧ Spoken C delivery.body rest

/-- A body is still there: waiting, being handled, answered or among the dead letters. -/
def Holds (world : World) (body : List UInt8) : Prop :=
  body ∈ world.ready ∨ body ∈ world.unacked.map Delivery.body ∨ body ∈ world.dead ∨
    body ∈ world.acked

section Steps

variable {published : List UInt8 → Prop} {world next : World}

/-- What a call of the handler leaves alone or extends. Bodies are neither made nor lost by
it, and rows keep what identifies them. -/
structure Passes (C : ConsumerPlatform) (delivery : Delivery) (before after : World) : Prop where
  ready : after.ready = before.ready
  unacked : after.unacked ⊆ before.unacked
  told : ∀ body ∈ after.told, body ∈ before.told ∨ body = delivery.body
  dead : ∀ body ∈ after.dead, body ∈ before.dead ∨ body = delivery.body
  acked : ∀ body ∈ after.acked, body ∈ before.acked ∨ body = delivery.body
  records : ∀ record ∈ after.records,
    (∃ old ∈ before.records, old.messageId = record.messageId ∧ old.orderNo = record.orderNo) ∨
      MadeFor C delivery.body record
  holds : ∀ body, Holds before body → Holds after body

/-- A delivery that has done nothing has passed. -/
theorem Passes.refl (C : ConsumerPlatform) (delivery : Delivery) (world : World) :
    Passes C delivery world world where
  ready := rfl
  unacked := List.Subset.refl _
  told _ member := .inl member
  dead _ member := .inl member
  acked _ member := .inl member
  records record member := .inl ⟨record, member, rfl, rfl⟩
  holds _ held := held

/-- An update of a row keeps what identifies it. -/
theorem updateRecord_passes (collate : String → String) (delivery : Delivery) (world : World)
    (notifyNo : String) {set : NotifyRecord → NotifyRecord}
    (same : ∀ record, (set record).messageId = record.messageId ∧
      (set record).orderNo = record.orderNo) :
    Passes C delivery world (world.updateRecord collate notifyNo set) where
  ready := rfl
  unacked := List.Subset.refl _
  told _ member := .inl member
  dead _ member := .inl member
  acked _ member := .inl member
  records := by
    intro record member
    obtain ⟨old, present, rfl⟩ := List.mem_map.mp member
    refine .inl ⟨old, present, ?_⟩
    split
    · exact ⟨(same old).1.symm, (same old).2.symm⟩
    · exact ⟨rfl, rfl⟩
  holds _ held := held

/-- An update of a record leaves the ids and the order numbers of the records alone, whichever
of the other columns it sets. -/
theorem mark_passes (collate : String → String) (delivery : Delivery) (turn : Turn)
    (notifyNo responseBody : String) {set : NotifyRecord → NotifyRecord}
    (same : ∀ record, (set record).messageId = record.messageId ∧
      (set record).orderNo = record.orderNo) :
    Passes C delivery world (world.mark collate turn notifyNo responseBody set).1 := by
  rcases mark_world collate world turn notifyNo responseBody set with before | after
  · rw [before]
    exact .refl C delivery world
  · rw [after]
    exact updateRecord_passes collate delivery world notifyNo same

/-- A body that is taken off the unacknowledged deliveries is another one or was answered. -/
theorem mem_erase_body {unacked : List Delivery} (delivery : Delivery) {body : List UInt8}
    (member : body ∈ unacked.map Delivery.body) :
    body ∈ (unacked.erase delivery).map Delivery.body ∨ body = delivery.body := by
  obtain ⟨other, present, rfl⟩ := List.mem_map.mp member
  by_cases same : other = delivery
  · exact .inr (by rw [same])
  · exact .inl (List.mem_map_of_mem ((List.mem_erase_of_ne same).mpr present))

/-- Every call of the handler keeps to its body. The cases are the calls; each writes what it
was given, and `Spoken` says what that is. -/
theorem exec_passes {delivery : Delivery} {alive : Bool} {turn : Turn} {r : Request}
    (speaks : Speaks C delivery.body r) :
    Passes C delivery world (exec C world delivery alive turn r).1 := by
  have same : Passes C delivery world world := .refl C delivery world
  cases r with
  | nextId | sleep => exact same
  | insertWithDedup notifyNo messageId orderNo targetUrl =>
    let record := newRecord notifyNo messageId orderNo targetUrl
    have inserted : Passes C delivery world (world.insertRecord C.collate record).1 := by
      rcases insertRecord_cases C.collate world record with rejected | ⟨-, duplicate⟩ | stored
      · rw [rejected]
        exact same
      · rw [duplicate]
        exact same
      · rw [stored]
        refine { same with records := fun found member => ?_ }
        rcases List.mem_append.mp member with old | new
        · exact .inl ⟨found, old, rfl, rfl⟩
        · obtain ⟨amount, read⟩ := speaks
          rw [List.mem_singleton.mp new]
          exact .inr ⟨_, read, rfl, rfl⟩
    rcases attempt_world turn.thrown world (world.insertRecord C.collate record).1
      (world.insertRecord C.collate record).2 with before | after
    · exact before.symm ▸ same
    · exact after.symm ▸ inserted
  | sendRequest notifyNo orderNo amount =>
    have told : Passes C delivery world (world.tell delivery.body turn.merchant) := by
      unfold World.tell
      split
      · exact { same with told := fun body member => by simpa using member }
      · exact same
    rcases attempt_world turn.thrown world (world.tell delivery.body turn.merchant)
      (.ok (if turn.received then turn.merchant else none)) with before | after
    · exact before.symm ▸ same
    · exact after.symm ▸ told
  | markSuccess notifyNo responseBody =>
    exact mark_passes C.collate delivery turn notifyNo responseBody fun _ => ⟨rfl, rfl⟩
  | markFailed notifyNo retryCount responseBody =>
    exact mark_passes C.collate delivery turn notifyNo responseBody fun _ => ⟨rfl, rfl⟩
  | basicAck =>
    have erased : (if alive then world.unacked.erase delivery else world.unacked) ⊆ world.unacked := by
      split
      · exact List.erase_subset
      · exact List.Subset.refl _
    refine { same with
      unacked := erased
      acked := fun body member => by simpa [exec] using member
      holds := fun body held => ?_ }
    simp only [Holds, exec, List.mem_append, List.mem_singleton] at held ⊢
    rcases held with ready | unacked | dead | acked
    · exact .inl ready
    · by_cases alive = true
      · rename_i connected
        rcases mem_erase_body delivery unacked with other | own
        · exact .inr (.inl (by rwa [if_pos connected]))
        · exact .inr (.inr (.inr (.inr own)))
      · rename_i cut
        exact .inr (.inl (by rwa [if_neg cut]))
    · exact .inr (.inr (.inl dead))
    · exact .inr (.inr (.inr (.inl acked)))
  | basicNack =>
    cases alive with
    | false => exact same
    | true =>
      refine { same with
        unacked := List.erase_subset
        dead := fun body member => by simpa [exec] using member
        holds := fun body held => ?_ }
      simp only [Holds, exec, if_true, List.mem_append, List.mem_singleton] at held ⊢
      rcases held with ready | unacked | dead | acked
      · exact .inl ready
      · rcases mem_erase_body delivery unacked with other | own
        · exact .inr (.inl other)
        · exact .inr (.inr (.inl (.inr own)))
      · exact .inr (.inr (.inl (.inl dead)))
      · exact .inr (.inr (.inr acked))

/-- What is recorded and told stems from published bodies, and after a request of a delivery
of such a body it still does. -/
theorem Stems.passed {delivery : Delivery} (stems : Stems C published world)
    (own : published delivery.body) (passes : Passes C delivery world next) :
    Stems C published next where
  ready := passes.ready ▸ stems.ready
  unacked other member := stems.unacked other (passes.unacked member)
  told body member := by
    rcases passes.told body member with old | rfl
    · exact stems.told body old
    · exact own
  dead body member := by
    rcases passes.dead body member with old | rfl
    · exact stems.dead body old
    · exact own
  acked body member := by
    rcases passes.acked body member with old | rfl
    · exact stems.acked body old
    · exact own
  records record member := by
    rcases passes.records record member with ⟨old, present, sameId, sameNo⟩ | made
    · obtain ⟨body, known, message, read, itsId, itsNo⟩ := stems.records old present
      exact ⟨body, known, message, read, sameId.symm.trans itsId, sameNo.symm.trans itsNo⟩
    · exact ⟨delivery.body, own, made⟩

/-- A delivery that goes back into the queue is of the same body. -/
theorem Stems.requeue (stems : Stems C published world) : Stems C published world.requeue where
  ready body member := by
    rcases List.mem_append.mp member with back | old
    · obtain ⟨delivery, present, rfl⟩ := List.mem_map.mp back
      exact stems.unacked delivery present
    · exact stems.ready body old
  unacked delivery member := by simp [World.requeue] at member
  told := stems.told
  dead := stems.dead
  acked := stems.acked
  records := stems.records

/-- A body that is held is held after it has gone back into the queue. -/
theorem Holds.requeue {body : List UInt8} (held : Holds world body) : Holds world.requeue body := by
  simp only [Holds, World.requeue, List.map_nil, List.not_mem_nil, false_or, List.mem_append] at held ⊢
  tauto

/-- Idle threads handle nothing. -/
theorem Stems.idle (stems : Stems C published world) {thread : Thread}
    (idle : thread = .disconnected ∨ thread = .waiting) :
    Traced C published { world with thread := thread } where
  stems := ⟨stems.ready, stems.unacked, stems.told, stems.dead, stems.acked, stems.records⟩
  handling delivery alive rest here := by
    have same : thread = .handling delivery alive rest := here
    rcases idle with rfl | rfl <;> cases same

/-- A handler that goes on or ends, with its delivery or with the process. -/
theorem Stems.resumed {delivery : Delivery} {alive : Bool}
    {rest : Script Request (fun r => Except Fault (Reply r)) (Except Fault Unit)}
    (stems : Stems C published world) (own : published delivery.body)
    (spoken : Spoken C delivery.body rest) : Traced C published (world.resume delivery alive rest) := by
  unfold World.resume
  split
  · apply stems.idle
    cases alive with
    | true => exact .inr rfl
    | false => exact .inl rfl
  · exact stems.requeue.idle (.inl rfl)
  · refine ⟨⟨stems.ready, stems.unacked, stems.told, stems.dead, stems.acked, stems.records⟩, ?_⟩
    intro other connected script here
    cases here
    exact ⟨own, spoken⟩

/-- A delivery's end, alive or not, leaves its body queued, answered or recorded. -/
theorem Holds.resumed {delivery : Delivery} {alive : Bool}
    {rest : Script Request (fun r => Except Fault (Reply r)) (Except Fault Unit)} {body : List UInt8}
    (held : Holds world body) : Holds (world.resume delivery alive rest) body := by
  unfold World.resume
  split
  · exact held
  · exact held.requeue
  · exact held

/-- More is published, and some of it arrives. -/
theorem Traced.arrived {later : List UInt8 → Prop} (traced : Traced C published world)
    (grows : ∀ body, published body → later body) {more : List (List UInt8)}
    (arrived : ∀ body ∈ more, later body) :
    Traced C later { world with ready := world.ready ++ more } where
  stems :=
    { ready := fun body member => by
        rcases List.mem_append.mp member with old | new
        · exact grows body (traced.stems.ready body old)
        · exact arrived body new
      unacked := fun delivery member => grows _ (traced.stems.unacked delivery member)
      told := fun body member => grows body (traced.stems.told body member)
      dead := fun body member => grows body (traced.stems.dead body member)
      acked := fun body member => grows body (traced.stems.acked body member)
      records := fun record member => by
        obtain ⟨body, known, made⟩ := traced.stems.records record member
        exact ⟨body, grows body known, made⟩ }
  handling delivery alive rest here := by
    obtain ⟨known, spoken⟩ := traced.handling delivery alive rest here
    exact ⟨grows _ known, spoken⟩

/-- More arrivals push no body out. -/
theorem Holds.arrived {body : List UInt8} (held : Holds world body) (more : List (List UInt8)) :
    Holds { world with ready := world.ready ++ more } body := by
  rcases held with ready | rest
  · exact .inl (List.mem_append_left _ ready)
  · exact .inr rest

/-- Every event but a publication handles published bodies only and loses none. A body moves
between the queue, the handler, the acknowledged and the dead ones, or comes back from a lost
connection. -/
theorem step_traced {event : Event} (traced : Traced C published world)
    (other : ∀ body, event ≠ .publish body) (taken : step C world event = some next) :
    Traced C published next ∧ ∀ body, Holds world body → Holds next body := by
  have stems := traced.stems
  cases event with
  | publish body => exact absurd rfl (other body)
  | subscribe =>
    simp only [step] at taken
    split at taken
    · cases taken
      exact ⟨stems.idle (.inr rfl), fun body held => held⟩
    · cases taken
  | deliver =>
    simp only [step] at taken
    split at taken
    · rename_i body rest waiting queued
      cases taken
      have own : published body := stems.ready body (by simp [queued])
      have moved : Stems C published { world with
          ready := rest
          unacked := world.unacked ++ [⟨world.nextTag, body⟩]
          nextTag := world.nextTag + 1 } :=
        { stems with
          ready := fun found member => stems.ready found (by simp [queued, member])
          unacked := fun delivery member => by
            rcases List.mem_append.mp member with old | new
            · exact stems.unacked delivery old
            · rw [List.mem_singleton.mp new]
              exact own }
      refine ⟨moved.resumed own (handleMessage_spoken C body), fun found held => ?_⟩
      apply Holds.resumed
      simp only [Holds, queued, List.mem_cons, List.map_append, List.map_singleton,
        List.mem_append] at held ⊢
      tauto
    · cases taken
  | perform turn =>
    simp only [step] at taken
    split at taken
    · rename_i delivery alive r k thread
      cases taken
      obtain ⟨own, spoken⟩ := traced.handling delivery alive _ thread
      have passes : Passes C delivery world (exec C world delivery alive turn r).1 :=
        exec_passes spoken.1
      exact ⟨(stems.passed own passes).resumed own (spoken.2 _ trivial),
        fun body held => (passes.holds body held).resumed⟩
    · cases taken
  | lose =>
    simp only [step] at taken
    split at taken
    · cases taken
      exact ⟨stems.requeue.idle (.inl rfl), fun body held => held.requeue⟩
    · rename_i delivery rest thread
      cases taken
      have back := stems.requeue
      refine ⟨⟨⟨back.ready, back.unacked, back.told, back.dead, back.acked, back.records⟩, ?_⟩,
        fun body held => held.requeue⟩
      intro found alive script here
      cases here
      exact traced.handling delivery true rest thread
    · cases taken
  | crash =>
    cases taken
    exact ⟨stems.requeue.idle (.inl rfl), fun body held => held.requeue⟩

end Steps

end NotifyConsumer

end TradeReconcile
