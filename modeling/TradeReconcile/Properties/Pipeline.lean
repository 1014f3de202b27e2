import TradeReconcile.Properties.Provenance
import TradeReconcile.Properties.Refusals

/-!
# The merchant hears of paid orders only, and no message is lost

Over every run of the whole process, with calls, rounds and deliveries interleaved and with
failures and crashes anywhere: what the consumer holds, writes into its table or is about to
tell the merchant goes back to a message that a callback committed, and that message tells of
an order that is paid. In the other direction every committed message stays in the outbox,
and once it is confirmed there, the consumer's side has it too, provided that the broker does
not take messages before the queue is bound.
-/

namespace TradeReconcile

open Transactions

/-- A message that tells of an order: the order is paid and has a payment of its total, and
the message's text is the one a callback writes about it. -/
structure Announces (P : Platform) (db : Db) (message : LocalMessage) (order : Order) : Prop where
  paid : order.status = .kPaid
  text : message.payload = P.toStyledString (PaymentService.messagePayload order message.messageId)
  received : ∃ payment ∈ db.payments, P.collate payment.val.orderNo = P.collate order.orderNo ∧
    payment.val.amountFen = order.totalAmountFen

/-- A message that tells of some order of the store. -/
def Announced (P : Platform) (db : Db) (message : LocalMessage) : Prop :=
  ∃ order ∈ db.orders, Announces P db message order.val

section Messages

variable {P : Platform} {before after : Db}

/-- An announced order stays announced: it stays paid, and its payment stays. -/
theorem Announced.evolved {message : LocalMessage} (announced : Announced P before message)
    (evolves : Evolves before after) : Announced P after message := by
  obtain ⟨order, present, paid, text, payment, received, facts⟩ := announced
  obtain ⟨later, stored, -, -, fixed⟩ := evolves.orders order present
  obtain rfl := fixed (by simp [paid])
  exact ⟨later, stored, paid, text, payment, evolves.payments received, facts⟩

/-- A settled callback writes a message about the order it has paid. -/
theorem Settled.announced {req : PaymentCallbackReq} {rawBody : String} {settlement : Settlement}
    (settled : Settled P req rawBody settlement before after) :
    Announced P after settlement.message.val := by
  obtain ⟨messageId, nextRetryTime, written⟩ := settled.message
  obtain ⟨paymentNo, callbackTime, -, made⟩ := settled.payment
  refine ⟨settlement.paidOrder, settled.orders.new_mem, rfl, ?_, settlement.payment, ?_, ?_, ?_⟩
  · simp only [written, PaymentService.buildMessage]
    rfl
  · rw [settled.payments]
    simp
  · rw [made]
    exact settled.named.symm
  · rw [made]
    rfl

/-- A message is committed together with the payment it tells of. -/
theorem Commit.announced {call : Call} (commit : Commit P call before after)
    (holds : ∀ message ∈ before.messages, Announced P before message.val) :
    ∀ message ∈ after.messages, Announced P after message.val := by
  have old : ∀ message ∈ before.messages, Announced P after message.val := fun message member =>
    (holds message member).evolved commit.evolves
  cases commit with
  | placed placed => exact placed.messages ▸ old
  | settled settled =>
    intro message member
    rw [settled.messages] at member
    rcases List.mem_append.mp member with earlier | new
    · exact old message earlier
    · rw [List.mem_singleton.mp new]
      exact settled.announced
  | reconciled reconciled => exact reconciled.messages ▸ old
  | handled handled =>
    rw [handled.frame] at old ⊢
    exact old

/-- Messages are only added. -/
theorem Commit.messages_grow {call : Call} (commit : Commit P call before after) :
    before.messages <+: after.messages := by
  cases commit with
  | placed placed => exact placed.messages ▸ List.prefix_refl _
  | settled settled => exact settled.messages ▸ List.prefix_append _ _
  | reconciled reconciled => exact reconciled.messages ▸ List.prefix_refl _
  | handled handled =>
    rw [handled.frame]

end Messages

namespace Pipeline

variable {P : Platform} {C : ConsumerPlatform} {first : Shared Db} {pipeline next : Pipeline}

/-- Bodies that were put into the notify queue. -/
def Published (broker : Broker) (body : List UInt8) : Prop :=
  ∃ p, (NotifyConsumer.kQueue, p) ∈ broker.enqueued ∧ bodyOf p = body

/-- The parts of the process agree: the outbox has the services' messages, what was published
comes from it, and what the consumer holds, records or tells was published. -/
structure Flows (P : Platform) (C : ConsumerPlatform) (first : Shared Db) (pipeline : Pipeline) :
    Prop where
  trade : Reached P (Admits fun _ => True) first pipeline.trade
  rows : pipeline.outbox.rows.map Outbox.stamp =
    pipeline.trade.shared.committed.messages.map fun message => Outbox.stamp message.val
  outbox : Outbox.Traced pipeline.outbox
  notify : NotifyConsumer.Traced C (Published pipeline.outbox.broker) pipeline.notify
  held : ∀ p, (NotifyConsumer.kQueue, p) ∈ pipeline.outbox.broker.enqueued →
    NotifyConsumer.Holds pipeline.notify (bodyOf p)

/-- Before the first message nothing flows. -/
theorem initial_flows (empty : first.committed.messages = []) : Flows P C first (initial first) where
  trade := .initial
  rows := by simp [initial, Outbox.World.initial, System.initial, empty]
  outbox := ⟨by simp [initial, Outbox.World.initial, Outbox.World.publications, Broker.empty],
    fun rest running => by cases running⟩
  notify := ⟨⟨by simp [initial, NotifyConsumer.World.initial],
    by simp [initial, NotifyConsumer.World.initial], by simp [initial, NotifyConsumer.World.initial],
    by simp [initial, NotifyConsumer.World.initial], by simp [initial, NotifyConsumer.World.initial],
    by simp [initial, NotifyConsumer.World.initial]⟩, fun delivery alive rest here => by cases here⟩
  held p member := by simp [initial, Outbox.World.initial, Broker.empty] at member

/-- The relay's side has moved: what it put into the queue has arrived. -/
theorem arrivals_published {before after : Broker} (grown : before.enqueued <+: after.enqueued) :
    (∀ body ∈ arrivals before after, Published after body) ∧
      ∀ p, (NotifyConsumer.kQueue, p) ∈ after.enqueued →
        (NotifyConsumer.kQueue, p) ∈ before.enqueued ∨ bodyOf p ∈ arrivals before after := by
  have parts := List.prefix_iff_eq_append.mp grown
  constructor
  · intro body member
    obtain ⟨⟨queue, p⟩, inside, rfl⟩ := List.mem_map.mp member
    obtain ⟨dropped, named⟩ := List.mem_filter.mp inside
    obtain rfl : queue = NotifyConsumer.kQueue := by simpa using named
    exact ⟨p, List.mem_of_mem_drop dropped, rfl⟩
  · intro p member
    rw [← parts] at member
    rcases List.mem_append.mp member with old | new
    · exact .inl old
    · exact .inr (List.mem_map.mpr ⟨_, List.mem_filter.mpr ⟨new, by simp⟩, rfl⟩)

/-- A step of a service call, which may commit a message. -/
theorem serve_flows {action : Transactions.Action Call Env Fault}
    (formed : WellFormed P.collate first) (flows : Flows P C first pipeline)
    (taken : pipeline.serve P action = some next) : Flows P C first next := by
  obtain ⟨trade, moved, rfl⟩ := Option.map_eq_some_iff.mp taken
  have grown : pipeline.trade.shared.committed.messages <+: trade.shared.committed.messages := by
    rcases reached_commit formed flows.trade moved with same | ⟨call, commit⟩
    · rw [same]
    · exact commit.messages_grow
  refine ⟨flows.trade.step action (by cases action <;> trivial) moved, ?_, flows.outbox.written _,
    flows.notify, flows.held⟩
  have parts := List.prefix_iff_eq_append.mp grown
  rw [List.map_append, flows.rows, written, List.map_map, ← parts, List.map_append, parts]
  rfl

/-- A step of the relay's side. -/
theorem relay_flows {event : Outbox.Event} (flows : Flows P C first pipeline)
    (other : ∀ req order messageId, event ≠ .pay req order messageId)
    (taken : pipeline.relay P event = some next) : Flows P C first next := by
  obtain ⟨outbox, moved, rfl⟩ := Option.map_eq_some_iff.mp taken
  obtain ⟨extended, traced⟩ := Outbox.step_traced flows.outbox other moved
  obtain ⟨published, arrived⟩ := arrivals_published extended.queues
  have grows : ∀ body, Published pipeline.outbox.broker body → Published outbox.broker body := by
    rintro body ⟨p, queued, same⟩
    exact ⟨p, extended.queues.subset queued, same⟩
  refine ⟨flows.trade, extended.stamps.trans flows.rows, traced, flows.notify.arrived grows published, ?_⟩
  intro p queued
  rcases arrived p queued with old | new
  · exact (flows.held p old).arrived _
  · exact .inl (List.mem_append_right _ new)

/-- A step of the consumer's side. -/
theorem consume_flows {event : NotifyConsumer.Event} (flows : Flows P C first pipeline)
    (other : ∀ body, event ≠ .publish body) (taken : pipeline.consume C event = some next) :
    Flows P C first next := by
  obtain ⟨notify, moved, rfl⟩ := Option.map_eq_some_iff.mp taken
  obtain ⟨traced, kept⟩ := NotifyConsumer.step_traced flows.notify other moved
  exact ⟨flows.trade, flows.rows, flows.outbox, traced, fun p queued => kept _ (flows.held p queued)⟩

/-- Every action keeps the flow: a commit adds to the outbox what the relay will find, the
relay publishes from it, and the consumer is given what was enqueued. -/
theorem step_flows {action : Action} (formed : WellFormed P.collate first)
    (flows : Flows P C first pipeline) (taken : step P C pipeline action = some next) :
    Flows P C first next := by
  unfold step at taken
  split at taken
  · rename_i able
    cases action with
    | call action => exact serve_flows formed flows taken
    | relay event =>
      refine relay_flows flows (fun req order messageId => ?_) taken
      rintro rfl
      cases able
    | consumer event =>
      refine consume_flows flows (fun body => ?_) taken
      rintro rfl
      cases able
    | crash =>
      simp only [act, Option.bind_eq_some_iff] at taken
      obtain ⟨dropped, lost, died⟩ := taken
      exact consume_flows (relay_flows flows (by simp) lost) (by simp) died
  · cases taken

/-- At every moment of every run the parts agree. By induction on the run; a crash takes the
parts down and leaves the tables. -/
theorem reached_flows {admits : Pipeline → Action → Prop} (formed : WellFormed P.collate first)
    (empty : first.committed.messages = [])
    (reached : Transitions.Reached (step P C) admits (initial first) pipeline) :
    Flows P C first pipeline :=
  reached.invariant (initial_flows empty) fun _ _ _ flows _ taken => step_flows formed flows taken

/-- A published body is the payload of a committed message. -/
theorem Flows.message {body : List UInt8} (flows : Flows P C first pipeline)
    (published : Published pipeline.outbox.broker body) :
    ∃ message ∈ pipeline.trade.shared.committed.messages,
      body = bodyOf (Outbox.publicationOf message.val) := by
  obtain ⟨p, queued, rfl⟩ := published
  obtain ⟨row, stored, same⟩ := flows.outbox.sent p (by
    simp only [Outbox.World.publications, List.mem_append]
    exact .inr (List.mem_map_of_mem queued))
  have stamped := List.mem_map_of_mem (f := Outbox.stamp) stored
  rw [flows.rows] at stamped
  obtain ⟨message, present, equal⟩ := List.mem_map.mp stamped
  have version : Outbox.publicationOf message.val = Outbox.publicationOf row := congrArg Prod.snd equal
  exact ⟨message, present, by rw [version, same]⟩

/-- Every message of the outbox is announced. -/
theorem Flows.announced (formed : WellFormed P.collate first) (empty : first.committed.messages = [])
    (flows : Flows P C first pipeline) : ∀ message ∈ pipeline.trade.shared.committed.messages,
      Announced P pipeline.trade.shared.committed message.val :=
  commits_invariant (fun _ _ commit holds => commit.announced holds) formed.schema (by simp [empty])
    (reached_commits formed flows.trade)

/-- The consumer's reader reads back what was written about the orders of a store. -/
def ReadsBack (P : Platform) (C : ConsumerPlatform) (db : Db) : Prop :=
  ∀ message ∈ db.messages, ∀ order ∈ db.orders,
    message.val.payload =
      P.toStyledString (PaymentService.messagePayload order.val message.val.messageId) →
    C.parseFromStream (bodyOf (Outbox.publicationOf message.val)) =
      .ok (some (PaymentService.messagePayload order.val message.val.messageId))

/-- What the consumer reads in such a body. -/
theorem readMessage_payload {body : List UInt8} {order : Order} {messageId : String}
    (parsed : C.parseFromStream body = .ok (some (PaymentService.messagePayload order messageId))) :
    NotifyConsumer.readMessage C body =
      .ok (some ⟨messageId, order.orderNo, MoneyUtil.fenToYuanString order.totalAmountFen⟩) := by
  rw [NotifyConsumer.readMessage, parsed]
  rfl

/-- What the consumer's side holds, writes down and is about to tell the merchant: each
belongs to a committed message and to the paid order that the message tells of, up to what
the columns of the notify table keep of their texts. -/
structure Informs (P : Platform) (pipeline : Pipeline) : Prop where
  bodies : ∀ body, NotifyConsumer.Holds pipeline.notify body ∨ body ∈ pipeline.notify.told →
    ∃ message ∈ pipeline.trade.shared.committed.messages,
      ∃ order ∈ pipeline.trade.shared.committed.orders,
        Announces P pipeline.trade.shared.committed message.val order.val ∧
          body = bodyOf (Outbox.publicationOf message.val)
  records : ∀ record ∈ pipeline.notify.records,
    ∃ message ∈ pipeline.trade.shared.committed.messages,
      ∃ order ∈ pipeline.trade.shared.committed.orders,
        Announces P pipeline.trade.shared.committed message.val order.val ∧
          record.messageId = NotifyConsumer.storedMessageId message.val.messageId ∧
          record.orderNo = Varchar.cut 32 order.val.orderNo
  requests : ∀ delivery alive notifyNo orderNo amount k,
    pipeline.notify.thread = .handling delivery alive (.call (.sendRequest notifyNo orderNo amount) k) →
      ∃ message ∈ pipeline.trade.shared.committed.messages,
        ∃ order ∈ pipeline.trade.shared.committed.orders,
          Announces P pipeline.trade.shared.committed message.val order.val ∧
            delivery.body = bodyOf (Outbox.publicationOf message.val) ∧
            orderNo = order.val.orderNo ∧
            amount = MoneyUtil.fenToYuanString order.val.totalAmountFen

/-- What the consumer holds or has told was published. -/
theorem Flows.told (flows : Flows P C first pipeline) {body : List UInt8}
    (there : NotifyConsumer.Holds pipeline.notify body ∨ body ∈ pipeline.notify.told) :
    Published pipeline.outbox.broker body := by
  have stems := flows.notify.stems
  rcases there with (ready | unacked | dead | acked) | told
  · exact stems.ready body ready
  · obtain ⟨delivery, present, rfl⟩ := List.mem_map.mp unacked
    exact stems.unacked delivery present
  · exact stems.dead body dead
  · exact stems.acked body acked
  · exact stems.told body told

/-- What is read in a published body is what its message tells of a paid order. -/
theorem Flows.read (formed : WellFormed P.collate first) (empty : first.committed.messages = [])
    (flows : Flows P C first pipeline) (reads : ReadsBack P C pipeline.trade.shared.committed)
    {body : List UInt8} (published : Published pipeline.outbox.broker body)
    {read : NotifyConsumer.Message} (found : NotifyConsumer.readMessage C body = .ok (some read)) :
    ∃ message ∈ pipeline.trade.shared.committed.messages,
      ∃ order ∈ pipeline.trade.shared.committed.orders,
        Announces P pipeline.trade.shared.committed message.val order.val ∧
          body = bodyOf (Outbox.publicationOf message.val) ∧
          read = ⟨message.val.messageId, order.val.orderNo,
            MoneyUtil.fenToYuanString order.val.totalAmountFen⟩ := by
  obtain ⟨message, stored, rfl⟩ := flows.message published
  obtain ⟨order, present, announces⟩ := flows.announced formed empty message stored
  rw [readMessage_payload (reads message stored order present announces.text)] at found
  cases found
  exact ⟨message, stored, order, present, announces, rfl, rfl⟩

/-- In every run of the whole process the merchant hears of paid orders only, each with its
total, and so does the notify table. Where the run began there was no message yet, and
nothing is assumed about failures, crashes or the merchant's answers. -/
theorem reached_informs {admits : Pipeline → Action → Prop} (formed : WellFormed P.collate first)
    (empty : first.committed.messages = [])
    (reached : Transitions.Reached (step P C) admits (initial first) pipeline)
    (reads : ReadsBack P C pipeline.trade.shared.committed) : Informs P pipeline := by
  have flows := reached_flows formed empty reached
  constructor
  case bodies =>
    intro body there
    obtain ⟨message, stored, same⟩ := flows.message (flows.told there)
    obtain ⟨order, present, announces⟩ := flows.announced formed empty message stored
    exact ⟨message, stored, order, present, announces, same⟩
  case records =>
    intro record member
    obtain ⟨body, published, read, found, itsId, itsNo⟩ := flows.notify.stems.records record member
    obtain ⟨message, stored, order, present, announces, -, rfl⟩ :=
      flows.read formed empty reads published found
    exact ⟨message, stored, order, present, announces, itsId, itsNo⟩
  case requests =>
    intro delivery alive notifyNo orderNo amount k thread
    obtain ⟨published, spoken⟩ := flows.notify.handling delivery alive _ thread
    obtain ⟨messageId, found⟩ := spoken.1
    obtain ⟨message, stored, order, present, announces, same, told⟩ :=
      flows.read formed empty reads published found
    cases told
    exact ⟨message, stored, order, present, announces, same, rfl, rfl⟩

/-- The order and the amount that the merchant is about to be told. -/
def asking (pipeline : Pipeline) : Option (String × String) :=
  match pipeline.notify.thread with
  | .handling _ _ (.call (.sendRequest _ orderNo amount) _) => some (orderNo, amount)
  | _ => none

/-- The body that tells of two mugs. -/
def mugsJson : Json :=
  PaymentService.messagePayload
    ⟨"7001", "req-0001", 8, 1, 2, 1995, 3990, .kPaid, "2026-09-13 11:28:16", ""⟩ "8001"

/-- A consumer whose reader knows that body. -/
def mugsConsumer : ConsumerPlatform where
  parseFromStream body :=
    if body = (Shop.write mugsJson).toUTF8.toList then .ok (some mugsJson) else .ok none
  collate := id
  notifyBaseUrl := "http://127.0.0.1:8080"

/-- An order is placed and paid, the consumer connects, a round delivers the message. -/
def mugsDelivered : List Action :=
  (.call (Shop.order "req-0001") :: Shop.advances 0 "7001" 11 ++
      .call (Shop.callback "req-0002" "T1") :: Shop.advances 1 "8001" 13).map Action.call ++
    .relay .connect :: List.replicate 12 (.relay (.consumer Outbox.smooth)) ++
    Outbox.wholeRound.map Action.relay ++ [.consumer .subscribe, .consumer .deliver]

/-- The consumer takes a number, stores its row and turns to the merchant. -/
def mugsTold : List Action :=
  [.consumer (.perform ⟨some "9001", none, true, none⟩), .consumer (.perform ⟨none, none, true, none⟩)]

/-- The order for the mugs is paid, relayed and notified, and the merchant is told its
total. -/
theorem mugs_informs : ∃ pipeline,
    Transitions.Reached (step Shop.platform mugsConsumer) (fun _ _ => True) (initial Shop.store)
        pipeline ∧
      pipeline.asking = some ("7001", "39.90") ∧ Informs Shop.platform pipeline := by
  have executed : (Transitions.runWhere (step Shop.platform mugsConsumer) (fun _ _ => true)
      (initial Shop.store) (mugsDelivered ++ mugsTold)).any (fun pipeline =>
        pipeline.asking == some ("7001", "39.90") &&
        (pipeline.trade.shared.committed.messages.map (·.val.messageId) == ["8001"] &&
          pipeline.trade.shared.committed.orders.map (fun row =>
            (row.val.orderNo, row.val.totalAmountFen, row.val.userId)) == [("7001", 3990, 8)])) =
      true := by decide +kernel
  obtain ⟨pipeline, ran, facts⟩ := (Option.any_eq_true ..).mp executed
  obtain ⟨asked, rest⟩ := (Bool.and_eq_true_iff).mp facts
  obtain ⟨messages, orders⟩ := (Bool.and_eq_true_iff).mp rest
  rw [beq_iff_eq] at asked messages orders
  have reads : ReadsBack Shop.platform mugsConsumer pipeline.trade.shared.committed := by
    intro message member order present text
    have sameId : message.val.messageId = "8001" := by
      have listed := List.mem_map_of_mem (f := fun row : Row LocalMessage => row.val.messageId) member
      rw [messages] at listed
      exact List.mem_singleton.mp listed
    have facts : (order.val.orderNo, order.val.totalAmountFen, order.val.userId) = ("7001", 3990, 8) := by
      have listed := List.mem_map_of_mem
        (f := fun row : Row Order => (row.val.orderNo, row.val.totalAmountFen, row.val.userId)) present
      rw [orders] at listed
      exact List.mem_singleton.mp listed
    simp only [Prod.mk.injEq] at facts
    have same : PaymentService.messagePayload order.val message.val.messageId = mugsJson := by
      simp [PaymentService.messagePayload, mugsJson, facts, sameId]
    rw [same] at text ⊢
    have body : bodyOf (Outbox.publicationOf message.val) = (Shop.write mugsJson).toUTF8.toList :=
      congrArg (fun payload : String => payload.toUTF8.toList) text
    exact if_pos body
  have reached : Transitions.Reached (step Shop.platform mugsConsumer) (fun _ _ => True)
      (initial Shop.store) pipeline := .of_runWhere (fun _ _ _ => trivial) .initial ran
  exact ⟨pipeline, reached, asked, reached_informs Shop.store_formed rfl reached reads⟩

/-- The configured address is the one that the consumer binds. -/
def Addressed (P : Platform) : Prop :=
  P.exchange.getD "trade.exchange" = NotifyConsumer.kExchange ∧
    P.routingKeyNotify.getD "order.paid" = NotifyConsumer.kRoutingKey

/-- The broker takes messages off the relay's connection only while the queue is bound. -/
def BoundFirst (pipeline : Pipeline) : Action → Prop
  | .relay event => Outbox.BoundFirst pipeline.outbox event
  | _ => True

/-- A message as a callback writes it. -/
def Fresh (message : LocalMessage) : Prop :=
  message.status = .kPending ∧ Outbox.Shipped (Outbox.publicationOf message)

/-- Messages of callbacks are pending and addressed to the shipped exchange. No service ever
touches them again; only the relay does, in rows of its own. -/
theorem fresh_messages (addressed : Addressed P) {serves : Call → Prop} {db : Db}
    (formed : WellFormed P.collate first) (empty : first.committed.messages = [])
    (commits : Commits P serves first.committed db) : ∀ message ∈ db.messages, Fresh message.val := by
  have kept : ∀ {call before after}, serves call → Schema P.collate before →
      Commit P call before after → (∀ message ∈ before.messages, Fresh message.val) →
      ∀ message ∈ after.messages, Fresh message.val := by
    intro call before after _ _ commit holds
    cases commit with
    | placed placed => exact placed.messages ▸ holds
    | settled settled =>
      intro message member
      rw [settled.messages] at member
      rcases List.mem_append.mp member with old | new
      · exact holds message old
      · obtain ⟨messageId, nextRetryTime, written⟩ := settled.message
        rw [List.mem_singleton.mp new, Fresh, written]
        exact ⟨rfl, addressed⟩
    | reconciled reconciled => exact reconciled.messages ▸ holds
    | handled handled =>
      rw [handled.frame]
      exact holds
  exact commits_invariant kept formed.schema (by simp [empty]) commits

/-- A commit keeps the relay's side sound: it adds pending rows with ids of their own. The
ids are unique because the rows of the relay are the messages of the store, whose key is
unique. -/
theorem serve_sound {action : Transactions.Action Call Env Fault} (addressed : Addressed P)
    (formed : WellFormed P.collate first) (empty : first.committed.messages = [])
    (flows : Flows P C first pipeline) (sound : Outbox.Sound P pipeline.outbox)
    (taken : pipeline.serve P action = some next) : Outbox.Sound P next.outbox := by
  have after := serve_flows formed flows taken
  have messages := fresh_messages addressed formed empty (reached_commits formed after.trade)
  have keys := (reached_locking formed after.trade).inv.1.schema.messageId
  obtain ⟨trade, moved, rfl⟩ := Option.map_eq_some_iff.mp taken
  have shipped : ∀ row ∈ pipeline.outbox.rows ++
      written pipeline.trade.shared.committed trade.shared.committed,
      Outbox.Shipped (Outbox.publicationOf row) := by
    intro row member
    have stamped := List.mem_map_of_mem (f := Outbox.stamp) member
    rw [after.rows] at stamped
    obtain ⟨message, present, same⟩ := List.mem_map.mp stamped
    have version : Outbox.publicationOf message.val = Outbox.publicationOf row := congrArg Prod.snd same
    exact version ▸ (messages message present).2
  refine ⟨⟨?_, shipped, ?_⟩, sound.resting, ?_⟩
  · have named : ((pipeline.outbox.rows ++
        written pipeline.trade.shared.committed trade.shared.committed).map fun row =>
          P.collate row.messageId) =
        trade.shared.committed.messages.map fun message => P.collate message.val.messageId := by
      have stamps := congrArg (List.map fun pair => P.collate pair.1) after.rows
      rw [List.map_map, List.map_map] at stamps
      exact stamps
    rw [named]
    exact keys
  · intro row member acked
    rcases List.mem_append.mp member with old | new
    · exact sound.kept.confirmed row old acked
    · obtain ⟨message, dropped, rfl⟩ := List.mem_map.mp new
      rw [(messages message (List.mem_of_mem_drop dropped)).1] at acked
      cases acked
  · intro rest running
    obtain ⟨progress, relays, attuned⟩ := sound.relaying rest running
    refine ⟨progress, relays, fun row member => ?_, attuned.tracks.grown rfl (List.Subset.refl _)⟩
    obtain ⟨stored, present, same⟩ := attuned.scanned row member
    exact ⟨stored, List.mem_append_left _ present, same⟩

/-- The relay's steps keep the outbox sound while the broker is bound first. -/
theorem relay_sound {event : Outbox.Event} (sound : Outbox.Sound P pipeline.outbox)
    (bound : Outbox.BoundFirst pipeline.outbox event) (taken : pipeline.relay P event = some next) :
    Outbox.Sound P next.outbox := by
  obtain ⟨outbox, moved, rfl⟩ := Option.map_eq_some_iff.mp taken
  exact Outbox.step_sound sound bound moved

/-- Every action does; calls add messages that nobody has confirmed. -/
theorem step_sound {action : Action} (addressed : Addressed P) (formed : WellFormed P.collate first)
    (empty : first.committed.messages = []) (flows : Flows P C first pipeline)
    (sound : Outbox.Sound P pipeline.outbox) (bound : BoundFirst pipeline action)
    (taken : step P C pipeline action = some next) : Outbox.Sound P next.outbox := by
  unfold step at taken
  split at taken
  · cases action with
    | call action => exact serve_sound addressed formed empty flows sound taken
    | relay event => exact relay_sound sound bound taken
    | consumer event =>
      obtain ⟨notify, moved, rfl⟩ := Option.map_eq_some_iff.mp taken
      exact sound
    | crash =>
      simp only [act, Option.bind_eq_some_iff] at taken
      obtain ⟨dropped, lost, died⟩ := taken
      obtain ⟨notify, moved, rfl⟩ := Option.map_eq_some_iff.mp died
      have anytime : Outbox.BoundFirst pipeline.outbox .crash := trivial
      have after : Outbox.Sound P dropped.outbox := relay_sound sound anytime lost
      exact after
  · cases taken

/-- Where a committed message is: in the outbox under its id and with its payload, and once
it is confirmed there, also on the consumer's side. -/
def Accounted (pipeline : Pipeline) (message : LocalMessage) : Prop :=
  ∃ row ∈ pipeline.outbox.rows, Outbox.stamp row = Outbox.stamp message ∧
    (row.status = .kAcked →
      NotifyConsumer.Holds pipeline.notify (bodyOf (Outbox.publicationOf message)))

/-- No committed message is lost on the way: not by a relay round that fails or dies, not by a
connection that is given up, not by the consumer. A confirmed message is queued, with the
consumer, recorded or dead-lettered, in every reached state of the whole process. -/
theorem reached_accounted (addressed : Addressed P) (formed : WellFormed P.collate first)
    (empty : first.committed.messages = [])
    (reached : Transitions.Reached (step P C) BoundFirst (initial first) pipeline) :
    ∀ message ∈ pipeline.trade.shared.committed.messages, Accounted pipeline message.val := by
  have both : Flows P C first pipeline ∧ Outbox.Sound P pipeline.outbox := by
    induction reached with
    | initial =>
      refine ⟨initial_flows empty, ⟨?_, ?_, ?_⟩, ?_, ?_⟩ <;>
        simp [Outbox.ConfirmedEnqueued, initial, Outbox.World.initial]
    | step action _ bound taken inductionHypothesis =>
      obtain ⟨flows, sound⟩ := inductionHypothesis
      exact ⟨step_flows formed flows taken,
        step_sound addressed formed empty flows sound bound taken⟩
  obtain ⟨flows, sound⟩ := both
  intro message member
  have stamped : Outbox.stamp message.val ∈ pipeline.outbox.rows.map Outbox.stamp :=
    flows.rows ▸ List.mem_map_of_mem member
  obtain ⟨row, stored, same⟩ := List.mem_map.mp stamped
  refine ⟨row, stored, same, fun acked => ?_⟩
  have version : Outbox.publicationOf row = Outbox.publicationOf message.val := congrArg Prod.snd same
  exact flows.held _ (version ▸ sound.kept.confirmed row stored acked)

/-- `BoundFirst` as a test. -/
def boundFirst (pipeline : Pipeline) : Action → Bool
  | .relay event => Outbox.boundFirst pipeline.outbox event
  | _ => true

/-- The decidable form of the condition. -/
theorem boundFirst_sound {action : Action} (passed : boundFirst pipeline action = true) :
    BoundFirst pipeline action := by
  cases action with
  | relay event => exact Outbox.boundFirst_sound passed
  | call | consumer | crash => trivial

/-- The message about the mugs is confirmed and on its way to the merchant. -/
theorem mugs_accounted : ∃ pipeline,
    Transitions.Reached (step Shop.platform mugsConsumer) BoundFirst (initial Shop.store) pipeline ∧
      pipeline.outbox.rows.map (·.status) = [.kAcked] ∧
      ∃ message ∈ pipeline.trade.shared.committed.messages, Accounted pipeline message.val := by
  have executed : ((Transitions.runWhere (step Shop.platform mugsConsumer) boundFirst
      (initial Shop.store) mugsDelivered).map fun pipeline =>
      (pipeline.outbox.rows.map (·.status),
        pipeline.trade.shared.committed.messages.map (·.val.messageId))) =
      some ([.kAcked], ["8001"]) := by decide +kernel
  obtain ⟨pipeline, ran, facts⟩ := Option.map_eq_some_iff.mp executed
  obtain ⟨statuses, messages⟩ := Prod.mk.inj facts
  obtain ⟨message, member, -⟩ := List.mem_map.mp
    (show "8001" ∈ pipeline.trade.shared.committed.messages.map (·.val.messageId) by simp [messages])
  have reached : Transitions.Reached (step Shop.platform mugsConsumer) BoundFirst
      (initial Shop.store) pipeline :=
    .of_runWhere (fun _ _ passed => boundFirst_sound passed) .initial ran
  exact ⟨pipeline, reached, statuses, message, member,
    reached_accounted ⟨rfl, rfl⟩ Shop.store_formed rfl reached message member⟩

end Pipeline

end TradeReconcile
