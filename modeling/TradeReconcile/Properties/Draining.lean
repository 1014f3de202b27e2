import Mathlib.Algebra.BigOperators.Group.List.Basic
import Mathlib.Algebra.Order.Group.Nat
import TradeReconcile.Properties.MessageBodies
import TradeReconcile.Properties.Notifications

/-!
# When the notify queue is drained

Once the connection stays and no statement fails, the consumer takes finitely many steps
to work off its queue, whatever the merchant answers. A message is inserted before anybody
is told, so an answer that does not fit into its column ends the process once only: the
redelivery finds the row. What ends it every time is a body that cannot be read or whose
row does not fit. Such a body comes back with every restart, so one of them is enough, and
the queue is drained exactly when it holds none.
-/

namespace TradeReconcile

namespace NotifyConsumer

open Scripts Transitions

/-- What is left of a handler. -/
abbrev Rest := Script Request (fun r => Except Fault (Reply r)) (Except Fault Unit)

/-- The row of a message under a notify number, as its columns store it. -/
def recordOf (C : ConsumerPlatform) (message : Message) (notifyNo : String) : NotifyRecord :=
  newRecord notifyNo message.messageId message.orderNo (C.notifyBaseUrl ++ kNotifyPath)

/-- A body that is set aside, or a message whose row fits: only spaces may run past the
ends of its columns. -/
def Wholesome (C : ConsumerPlatform) (body : List UInt8) : Prop :=
  ∃ read, readMessage C body = .ok read ∧
    ∀ message, read = some message → (recordOf C message "").fits = true

/-- What the broker has left of the queue. -/
def World.queued (world : World) : List (List UInt8) :=
  world.unacked.map Delivery.body ++ world.ready

/-- The call does not fail, and a number has the length of its column. -/
def Smooth (turn : Turn) : Prop :=
  turn.thrown = none ∧ ∃ id, turn.nextId = some id ∧ id.length ≤ 32

/-- Nothing is published, the connection stays, no call fails and nobody kills the process.
The merchant may refuse, or not answer at all. -/
def Proceeds (_ : World) : Event → Prop
  | .subscribe => True
  | .deliver => True
  | .perform turn => Smooth turn
  | _ => False

/-- The consumer waits for new messages. What was queued at the start was acknowledged or
sent to the dead letter queue. -/
def Drained (start last : World) : Prop :=
  last.thread = .waiting ∧ last.queued = [] ∧
    ∀ body ∈ start.queued, body ∈ last.acked ∨ body ∈ last.dead

variable {C : ConsumerPlatform}

/-! Where the consumer's thread is. -/

/-- One answer, as the last call. -/
def answering : Protocol Request (fun r => Except Fault (Reply r)) Bool where
  permits answered _ := answered = false
  answers _ _ := True
  after _ r _ := isAnswer r

/-- A handler that returns has answered. -/
def Answered (answered : Bool) (outcome : Except Fault Unit) : Prop :=
  outcome = .ok () → answered = true

/-- No answer, and no row: what a handler of a body that does not fit its columns can still
do. -/
def refusing : Protocol Request (fun r => Except Fault (Reply r)) Unit where
  permits
    | _, .basicAck => False
    | _, .basicNack => False
    | _, .insertWithDedup notifyNo messageId orderNo targetUrl =>
      (newRecord notifyNo messageId orderNo targetUrl).fits = false
    | _, _ => True
  answers
    | .insertWithDedup _ _ _ _, reply => ∃ fault, reply = .error fault
    | _, _ => True
  after state _ _ := state

/-- The handler ends with an exception. -/
def Refuses (rest : Rest) : Prop :=
  Script.Follows refusing (fun _ outcome => ∃ fault, outcome = .error fault) () rest

/-- Both answers are one. -/
theorem answer_answers_once (processed : Bool) :
    Script.Follows answering Answered false (answer processed) := by
  cases processed with
  | true => exact ⟨rfl, fun _ _ _ => rfl⟩
  | false => exact ⟨rfl, fun _ _ _ => rfl⟩

/-- A handler answers at its end, once, or ends with an exception before that. It is said of
every body, read or not, and of every way its calls may be answered. -/
theorem handleMessage_answers (body : List UInt8) :
    Script.Follows answering Answered false (handleMessage C body) := by
  apply follows_bind
  unfold process
  split
  · rintro ⟨⟩
  · exact answer_answers_once false
  · rename_i message read
    apply processMessage_follows C message rfl
    · intro notifyNo _
      refine ⟨fun answered => answered = false, ?_, rfl⟩
      constructor
      case permitted => exact fun _ _ unanswered _ => unanswered
      case returned =>
        intro answered r value _ own _
        cases r with
        | basicAck => exact own.elim
        | basicNack => exact own.elim
        | _ => rfl
      case thrown =>
        rintro answered r fault _ _ _ ⟨⟩
      case ends =>
        rintro answered processed rfl
        exact answer_answers_once processed
    · rintro fault _ ⟨⟩

/-- The columns of a record. Only the notify number, the order number and the address can be
too long here; the stored message id has been cut. -/
theorem fits_iff (record : NotifyRecord) :
    record.fits = true ↔ record.notifyNo.length ≤ 32 ∧ record.orderNo.length ≤ 32 ∧
      record.targetUrl.length ≤ 255 ∧ record.messageId.length ≤ 64 := by
  simp [NotifyRecord.fits, and_assoc]

/-- Whether a row fits, its number apart, is the message's own matter. -/
theorem recordOf_fits (message : Message) (notifyNo : String) :
    (recordOf C message notifyNo).fits = true ↔
      notifyNo.length ≤ 32 ∧ (recordOf C message "").fits = true := by
  have empty : ("" : String).length ≤ 32 := by decide
  rw [fits_iff, fits_iff]
  exact ⟨fun fits => ⟨fits.1, empty, fits.2⟩, fun fits => ⟨fits.1, fits.2.2⟩⟩

/-- The handler of a body that cannot be stored has no way to an answer: the body cannot be
read, or the insert fails. -/
theorem handleMessage_refuses {body : List UInt8} (unwholesome : ¬Wholesome C body) :
    Refuses (handleMessage C body) := by
  apply follows_bind
  unfold process
  split
  · rename_i fault thrown
    exact ⟨fault, rfl⟩
  · rename_i read
    refine absurd ⟨none, read, ?_⟩ unwholesome
    rintro message ⟨⟩
  · rename_i message read
    have unfit : (recordOf C message "").fits = false := by
      rw [Bool.eq_false_iff]
      intro fits
      refine unwholesome ⟨some message, read, ?_⟩
      rintro _ ⟨⟩
      exact fits
    apply follows_perform (by trivial)
    · intro notifyNo _
      have rejected : (recordOf C message notifyNo).fits = false := by
        rw [Bool.eq_false_iff]
        exact fun fits => absurd ((recordOf_fits message notifyNo).mp fits).2 (by simp [unfit])
      apply follows_perform rejected
      · rintro affectedRows ⟨fault, impossible⟩
        cases impossible
      · exact fun fault _ => ⟨fault, rfl⟩
    · exact fun fault _ => ⟨fault, rfl⟩

/-- Where the thread is, and what it has taken from the queue. A thread at work holds one
delivery and will answer it once or throw; for a body that cannot be stored, it can only
throw. -/
inductive Held (C : ConsumerPlatform) (world : World) : Thread → Prop where
  | disconnected (none : world.unacked = []) : Held C world .disconnected
  | waiting (none : world.unacked = []) : Held C world .waiting
  | handling {delivery : Delivery} {alive : Bool} {r : Request}
      {k : Except Fault (Reply r) → Rest}
      (held : world.unacked = if alive then [delivery] else [])
      (answers : Script.Follows answering Answered false (.call r k))
      (refuses : ¬Wholesome C delivery.body → Refuses (.call r k)) :
      Held C world (.handling delivery alive (.call r k))

/-- What is held depends on the deliveries that are not answered. -/
theorem Held.same {before after : World} {thread : Thread} (held : Held C before thread)
    (unacked : after.unacked = before.unacked) : Held C after thread := by
  cases held with
  | disconnected none => exact .disconnected (unacked.trans none)
  | waiting none => exact .waiting (unacked.trans none)
  | handling held answers refuses => exact .handling (unacked.trans held) answers refuses

/-- Going on with a handler, or ending it, leaves every body queued or unanswered. -/
theorem resume_queued (world : World) (delivery : Delivery) (alive : Bool) (rest : Rest) :
    (world.resume delivery alive rest).queued = world.queued := by
  cases rest with
  | done outcome => cases outcome <;> rfl
  | call r k => rfl

/-- It answers nothing. -/
theorem resume_answered (world : World) (delivery : Delivery) (alive : Bool) (rest : Rest) :
    (world.resume delivery alive rest).acked = world.acked ∧
      (world.resume delivery alive rest).dead = world.dead := by
  cases rest with
  | done outcome => cases outcome <;> exact ⟨rfl, rfl⟩
  | call r k => exact ⟨rfl, rfl⟩

/-- The handler goes on, or ends after its answer or with an exception. -/
theorem resumed_held {world : World} {delivery : Delivery} {alive answered : Bool} {rest : Rest}
    (unacked : world.unacked = if alive && !answered then [delivery] else [])
    (answers : Script.Follows answering Answered answered rest)
    (refuses : ¬Wholesome C delivery.body → Refuses rest) :
    Held C (world.resume delivery alive rest) (world.resume delivery alive rest).thread := by
  cases rest with
  | done outcome =>
    cases outcome with
    | error fault => exact .disconnected rfl
    | ok value =>
      have none : world.unacked = [] := by
        rw [unacked, show answered = true from answers rfl]
        simp
      cases alive with
      | true => exact .waiting none
      | false => exact .disconnected none
  | call r k =>
    have unanswered : answered = false := answers.1
    subst unanswered
    have held : world.unacked = if alive then [delivery] else [] := by simpa using unacked
    exact .handling held answers refuses

/-- A call that is no answer leaves the queue alone, whether it throws before its effect,
after it, or not at all. What it may change are the rows and the list of those told. -/
theorem exec_quiet (world : World) (delivery : Delivery) (alive : Bool) (turn : Turn) {r : Request}
    (quiet : isAnswer r = false) :
    (exec C world delivery alive turn r).1.ready = world.ready ∧
      (exec C world delivery alive turn r).1.unacked = world.unacked ∧
      (exec C world delivery alive turn r).1.acked = world.acked ∧
      (exec C world delivery alive turn r).1.dead = world.dead := by
  -- A call that may throw leaves one of two worlds.
  have either : ∀ {after actual : World}, actual = world ∨ actual = after →
      (after.ready = world.ready ∧ after.unacked = world.unacked ∧ after.acked = world.acked ∧
        after.dead = world.dead) →
      actual.ready = world.ready ∧ actual.unacked = world.unacked ∧ actual.acked = world.acked ∧
        actual.dead = world.dead := by
    rintro after actual (rfl | rfl) kept
    · exact ⟨rfl, rfl, rfl, rfl⟩
    · exact kept
  cases r with
  | nextId | sleep => exact ⟨rfl, rfl, rfl, rfl⟩
  | basicAck | basicNack => cases quiet
  | insertWithDedup notifyNo messageId orderNo targetUrl =>
    apply either (attempt_world turn.thrown world _ _)
    obtain unchanged | ⟨-, unchanged⟩ | inserted := insertRecord_cases C.collate world
      (newRecord notifyNo messageId orderNo targetUrl)
    · rw [unchanged]
      exact ⟨rfl, rfl, rfl, rfl⟩
    · rw [unchanged]
      exact ⟨rfl, rfl, rfl, rfl⟩
    · rw [inserted]
      exact ⟨rfl, rfl, rfl, rfl⟩
  | sendRequest =>
    apply either (attempt_world turn.thrown world _ _)
    unfold World.tell
    split <;> exact ⟨rfl, rfl, rfl, rfl⟩
  | markSuccess notifyNo responseBody =>
    exact either (mark_world C.collate world turn notifyNo responseBody _) ⟨rfl, rfl, rfl, rfl⟩
  | markFailed notifyNo retryCount responseBody =>
    exact either (mark_world C.collate world turn notifyNo responseBody _) ⟨rfl, rfl, rfl, rfl⟩

/-- What becomes of the queue in a step: a body stays, or was answered for and can be. Nothing
is lost, whatever fails. -/
structure Moves (C : ConsumerPlatform) (world next : World) : Prop where
  held : Held C next next.thread
  queued : ∀ body ∈ world.queued, body ∈ next.queued ∨
    (Wholesome C body ∧ (body ∈ next.acked ∨ body ∈ next.dead))
  acked : world.acked ⊆ next.acked
  dead : world.dead ⊆ next.dead

/-- An event that answers nothing and queues nothing. -/
theorem Moves.same {world next : World} (held : Held C next next.thread)
    (queued : next.queued = world.queued) (acked : next.acked = world.acked)
    (dead : next.dead = world.dead) : Moves C world next where
  held := held
  queued _ member := .inl (queued ▸ member)
  acked := acked ▸ List.Subset.refl _
  dead := dead ▸ List.Subset.refl _

section Calls

variable {world : World} {delivery : Delivery} {alive : Bool} {turn : Turn} {r : Request}
  {k : Except Fault (Reply r) → Rest}

/-- A call that is no answer moves no body. If the message does not fit its columns, the
insert refuses it, so such a handler can only end with an exception. -/
theorem quiet_moves (quiet : isAnswer r = false)
    (unacked : world.unacked = if alive then [delivery] else [])
    (answers : Script.Follows answering Answered false (.call r k))
    (refuses : ¬Wholesome C delivery.body → Refuses (.call r k)) :
    Moves C world ((exec C world delivery alive turn r).1.resume delivery alive
      (k (exec C world delivery alive turn r).2)) := by
  obtain ⟨ready, same, acked, dead⟩ := exec_quiet (C := C) world delivery alive turn quiet
  have resumed := resume_answered (exec C world delivery alive turn r).1 delivery alive
    (k (exec C world delivery alive turn r).2)
  refine .same (resumed_held ?_ (answers.2 _ trivial) ?_) ?_ (resumed.1.trans acked)
    (resumed.2.trans dead)
  · rw [same, unacked]
    simp [answering, quiet]
  · intro unwholesome
    have refused := refuses unwholesome
    cases r with
    | insertWithDedup notifyNo messageId orderNo targetUrl =>
      have unfit : (newRecord notifyNo messageId orderNo targetUrl).fits = false := refused.1
      apply refused.2
      simp only [exec, World.insertRecord, unfit]
      rcases turn.thrown with _ | ⟨fault, _ | _⟩ <;> exact ⟨_, rfl⟩
    | _ => exact refused.2 _ trivial
  · rw [resume_queued, World.queued, ready, same, World.queued]

/-- The answer takes the delivery from the queue, unless the connection was lost: then the
broker has put it back already and the answer has no effect. -/
theorem exec_answer (answer : isAnswer r = true)
    (unacked : world.unacked = if alive then [delivery] else []) :
    (exec C world delivery alive turn r).1.ready = world.ready ∧
      (exec C world delivery alive turn r).1.unacked = [] ∧
      world.acked ⊆ (exec C world delivery alive turn r).1.acked ∧
      world.dead ⊆ (exec C world delivery alive turn r).1.dead ∧
      (alive = true → delivery.body ∈ (exec C world delivery alive turn r).1.acked ∨
        delivery.body ∈ (exec C world delivery alive turn r).1.dead) := by
  cases r with
  | basicAck =>
    refine ⟨rfl, ?_, List.subset_append_left _ _, List.Subset.refl _,
      fun _ => .inl (List.mem_append_right _ (List.mem_singleton_self _))⟩
    cases alive with
    | true => simp [exec, unacked]
    | false => exact unacked
  | basicNack =>
    cases alive with
    | true =>
      refine ⟨rfl, ?_, List.Subset.refl _, List.subset_append_left _ _,
        fun _ => .inr (List.mem_append_right _ (List.mem_singleton_self _))⟩
      simp [exec, unacked]
    | false =>
      refine ⟨rfl, unacked, List.Subset.refl _, List.Subset.refl _, ?_⟩
      rintro ⟨⟩
  | _ => cases answer

/-- The answer moves one body out of the queue, to the acknowledged or the dead ones. After a
lost connection it moves nothing, and the body is still queued. -/
theorem answer_moves (answer : isAnswer r = true)
    (unacked : world.unacked = if alive then [delivery] else [])
    (answers : Script.Follows answering Answered false (.call r k))
    (refuses : ¬Wholesome C delivery.body → Refuses (.call r k)) :
    Moves C world ((exec C world delivery alive turn r).1.resume delivery alive
      (k (exec C world delivery alive turn r).2)) := by
  obtain ⟨ready, none, acked, dead, told⟩ := @exec_answer C world delivery alive turn r answer
    unacked
  have wholesome : Wholesome C delivery.body := by
    by_contra unwholesome
    have permitted := (refuses unwholesome).1
    cases r with
    | basicAck | basicNack => exact permitted
    | _ => cases answer
  have resumed := resume_answered (exec C world delivery alive turn r).1 delivery alive
    (k (exec C world delivery alive turn r).2)
  constructor
  case held =>
    have gone : (exec C world delivery alive turn r).1.unacked =
        if alive && !isAnswer r then [delivery] else [] := by
      rw [none, answer]
      simp
    exact resumed_held gone (answers.2 _ trivial) fun unwholesome => absurd wholesome unwholesome
  case queued =>
    intro body member
    rw [resume_queued, resumed.1, resumed.2, World.queued, none, ready]
    rw [World.queued, unacked] at member
    cases alive with
    | true =>
      obtain rfl | waits := List.mem_cons.mp member
      · exact .inr ⟨wholesome, told rfl⟩
      · exact .inl waits
    | false => exact .inl member
  case acked => rwa [resumed.1]
  case dead => rwa [resumed.2]

end Calls

/-- One call of the handler. -/
theorem perform_moves {world next : World} {turn : Turn} (held : Held C world world.thread)
    (taken : step C world (.perform turn) = some next) : Moves C world next := by
  simp only [step] at taken
  split at taken
  · rename_i delivery alive r k here
    obtain rfl := Option.some.inj taken
    rw [here] at held
    obtain - | - | ⟨unacked, answers, refuses⟩ := held
    cases answer : isAnswer r with
    | false => exact quiet_moves answer unacked answers refuses
    | true => exact answer_moves answer unacked answers refuses
  · cases taken

/-- The world in which the first message is handed to the consumer. -/
def World.delivered (world : World) (body : List UInt8) : World :=
  { world with
    ready := world.ready.tail
    unacked := world.unacked ++ [⟨world.nextTag, body⟩]
    nextTag := world.nextTag + 1 }

/-- A delivery is of the first body, to a thread that waits. -/
theorem step_deliver {world next : World} (taken : step C world .deliver = some next) :
    world.thread = .waiting ∧ ∃ body rest, world.ready = body :: rest ∧
      next = (world.delivered body).resume ⟨world.nextTag, body⟩ true (handleMessage C body) := by
  simp only [step] at taken
  split at taken
  · rename_i body rest waiting queue
    obtain rfl := Option.some.inj taken
    refine ⟨waiting, body, rest, queue, ?_⟩
    rw [World.delivered, queue, List.tail_cons]
  · cases taken

/-- A body that is being handled still counts as queued. -/
theorem delivered_queued {world : World} {body : List UInt8} {rest : List (List UInt8)}
    (none : world.unacked = []) (queue : world.ready = body :: rest) :
    (world.delivered body).queued = world.queued := by
  simp [World.delivered, World.queued, none, queue]

/-- A delivery starts its handler, and the queue is what it was. -/
theorem deliver_moves {world next : World} (held : Held C world world.thread)
    (taken : step C world .deliver = some next) :
    Moves C world next ∧ next.queued = world.queued := by
  obtain ⟨waiting, body, rest, queue, rfl⟩ := step_deliver taken
  rw [waiting] at held
  obtain - | none | - := held
  have same := delivered_queued none queue
  have answered := resume_answered (world.delivered body) ⟨world.nextTag, body⟩ true
    (handleMessage C body)
  have started : (world.delivered body).unacked = [⟨world.nextTag, body⟩] := by
    simp [World.delivered, none]
  have held := @resumed_held C (world.delivered body) ⟨world.nextTag, body⟩ true false _ started
    (handleMessage_answers body) handleMessage_refuses
  refine ⟨.same held ?_ answered.1 answered.2, ?_⟩
  · rw [resume_queued, same]
  · rw [resume_queued, same]

/-- The queue in any step: deliveries, calls, lost connections and crashes. In each of them a
body is somewhere, and it leaves the queue only by an answer. -/
theorem step_moves {world next : World} {event : Event} (held : Held C world world.thread)
    (taken : step C world event = some next) : Moves C world next := by
  cases event with
  | publish body =>
    obtain rfl := Option.some.inj taken
    refine ⟨held.same rfl, ?_, List.Subset.refl _, List.Subset.refl _⟩
    intro queued member
    obtain delivered | waits := List.mem_append.mp member
    · exact .inl (List.mem_append_left _ delivered)
    · exact .inl (List.mem_append_right _ (List.mem_append_left _ waits))
  | subscribe =>
    simp only [step] at taken
    split at taken
    · rename_i here
      obtain rfl := Option.some.inj taken
      rw [here] at held
      obtain none | - | - := held
      exact .same (.waiting none) rfl rfl rfl
    · cases taken
  | deliver => exact (deliver_moves held taken).1
  | perform turn => exact perform_moves held taken
  | lose =>
    simp only [step] at taken
    split at taken
    · obtain rfl := Option.some.inj taken
      exact .same (.disconnected rfl) rfl rfl rfl
    · rename_i delivery rest here
      obtain rfl := Option.some.inj taken
      rw [here] at held
      obtain - | - | ⟨unacked, answers, refuses⟩ := held
      exact .same (.handling rfl answers refuses) rfl rfl rfl
    · cases taken
  | crash =>
    obtain rfl := Option.some.inj taken
    exact .same (.disconnected rfl) rfl rfl rfl

/-! What is left to do. -/

/-- Whether the table finds a row by the message's id. -/
def known (C : ConsumerPlatform) (records : List NotifyRecord) (messageId : String) : Bool :=
  (records.map NotifyRecord.messageId).any fun other =>
    C.collate other == C.collate (storedMessageId messageId)

/-- The deliveries a body is good for. -/
def weight (C : ConsumerPlatform) (records : List NotifyRecord) (body : List UInt8) : Nat :=
  match readMessage C body with
  | .ok (some message) => if known C records message.messageId then 1 else 2
  | _ => 1

/-- What is left to do: the weights of the queued bodies. -/
def load (C : ConsumerPlatform) (world : World) : Nat :=
  (world.queued.map (weight C world.records)).sum

/-- Every queued body weighs something. -/
theorem weight_pos (records : List NotifyRecord) (body : List UInt8) : 1 ≤ weight C records body := by
  unfold weight
  split
  · split <;> decide
  · decide

/-- The messages with a row keep it. -/
def Retains (before after : World) : Prop :=
  before.records.map NotifyRecord.messageId ⊆ after.records.map NotifyRecord.messageId

/-- Records that two steps retain are retained. -/
theorem Retains.trans {one two three : World} (first : Retains one two)
    (second : Retains two three) : Retains one three := List.Subset.trans first second

/-- A message with a record goes on having one. -/
theorem Retains.known {before after : World} (retains : Retains before after) {messageId : String}
    (stored : known C before.records messageId = true) :
    known C after.records messageId = true := by
  rw [NotifyConsumer.known, List.any_eq_true] at stored ⊢
  obtain ⟨other, member, same⟩ := stored
  exact ⟨other, retains member, same⟩

/-- Bodies do not become heavier. -/
theorem Retains.weight {before after : World} (retains : Retains before after) (body : List UInt8) :
    weight C after.records body ≤ weight C before.records body := by
  unfold NotifyConsumer.weight
  split
  · rename_i message read
    cases stored : NotifyConsumer.known C before.records message.messageId with
    | true => rw [retains.known stored]
    | false =>
      rw [if_neg Bool.false_ne_true]
      split <;> decide
  · exact le_refl _

/-- An update leaves the message ids. -/
theorem updateRecord_retains (collate : String → String) (world : World) (notifyNo : String)
    {set : NotifyRecord → NotifyRecord} (key : ∀ record, (set record).messageId = record.messageId) :
    Retains world (world.updateRecord collate notifyNo set) := by
  have same : (world.updateRecord collate notifyNo set).records.map NotifyRecord.messageId =
      world.records.map NotifyRecord.messageId := by
    rw [World.updateRecord, List.map_map]
    refine List.map_congr_left fun record _ => ?_
    simp only [Function.comp_apply]
    split
    · exact key record
    · rfl
  rw [Retains, same]
  exact List.Subset.refl _

/-- Rows are added and marked, and none is removed: a message that has a row has it in every
later world. -/
theorem exec_retains (world : World) (delivery : Delivery) (alive : Bool) (turn : Turn)
    (r : Request) : Retains world (exec C world delivery alive turn r).1 := by
  have either : ∀ {after actual : World}, actual = world ∨ actual = after → Retains world after →
      Retains world actual := by
    rintro after actual (rfl | rfl) kept
    · exact List.Subset.refl _
    · exact kept
  cases r with
  | nextId | sleep => exact List.Subset.refl _
  | basicAck => exact List.Subset.refl _
  | basicNack =>
    simp only [exec]
    split <;> exact List.Subset.refl _
  | insertWithDedup notifyNo messageId orderNo targetUrl =>
    apply either (attempt_world turn.thrown world _ _)
    obtain unchanged | ⟨-, unchanged⟩ | inserted := insertRecord_cases C.collate world
      (newRecord notifyNo messageId orderNo targetUrl)
    · rw [unchanged]
      exact List.Subset.refl _
    · rw [unchanged]
      exact List.Subset.refl _
    · rw [inserted, Retains, List.map_append]
      exact List.subset_append_left _ _
  | sendRequest =>
    apply either (attempt_world turn.thrown world _ _)
    unfold World.tell
    split <;> exact List.Subset.refl _
  | markSuccess notifyNo responseBody =>
    exact either (mark_world C.collate world turn notifyNo responseBody _)
      (updateRecord_retains _ _ _ fun _ => rfl)
  | markFailed notifyNo retryCount responseBody =>
    exact either (mark_world C.collate world turn notifyNo responseBody _)
      (updateRecord_retains _ _ _ fun _ => rfl)

/-! What a handler leaves. -/

/-- How a call may be answered then. -/
def Undisturbed (C : ConsumerPlatform) (delivery : Delivery) (alive : Bool) (world : World)
    (r : Request) (called : World × Except Fault (Reply r)) : Prop :=
  ∃ turn, Smooth turn ∧ called = exec C world delivery alive turn r

section Handlers

variable {world : World} {delivery : Delivery} {alive : Bool}

/-- The row of a message stays to the end. -/
theorem known_ensures {α : Type} {messageId : String}
    (stored : known C world.records messageId = true)
    (script : Script Request (fun r => Except Fault (Reply r)) α) :
    Script.Ensures (Undisturbed C delivery alive)
      (fun last _ => known C last.records messageId = true) world script := by
  apply @Script.Ensures.invariant _ _ _ _ _ (fun last => known C last.records messageId = true) _
    script world stored
  rintro before r _ held ⟨turn, -, rfl⟩
  exact (exec_retains before delivery alive turn r).known held

/-- A message whose row is found is acknowledged; else its row is stored. An answer that is
too long for its column throws after that, so the redelivery finds the row. -/
theorem processMessage_ensures {message : Message} (fits : (recordOf C message "").fits = true) :
    Script.Ensures (Undisturbed C delivery alive)
      (fun last outcome => outcome = .ok true ∨ (known C world.records message.messageId = false ∧
        known C last.records message.messageId = true)) world (processMessage C message) := by
  apply Script.Ensures.bind
  rintro _ ⟨turn, ⟨-, id, issued, short⟩, rfl⟩
  simp only [exec, issued]
  apply Script.Ensures.bind
  rintro _ ⟨turn, ⟨returns, -⟩, rfl⟩
  have stores : (newRecord id message.messageId message.orderNo
      (C.notifyBaseUrl ++ kNotifyPath)).fits = true := (recordOf_fits message id).mpr ⟨short, fits⟩
  cases taken : world.hasRecordKey C.collate id (storedMessageId message.messageId) with
  | true =>
    simp only [exec, attempt, returns, World.insertRecord, stores, newRecord_notifyNo, newRecord_messageId,
      taken]
    exact .inl rfl
  | false =>
    simp only [exec, attempt, returns, World.insertRecord, stores, newRecord_notifyNo, newRecord_messageId,
      taken]
    have unknown : known C world.records message.messageId = false := by
      rw [known, List.any_map, List.any_eq_false]
      intro record member same
      rw [World.hasRecordKey, List.any_eq_false] at taken
      exact taken record member (Bool.or_eq_true_iff.mpr (.inr same))
    have stored : known C (world.records ++ [newRecord id message.messageId message.orderNo
        (C.notifyBaseUrl ++ kNotifyPath)]) message.messageId = true := by
      simp [known]
    apply (@known_ensures C { world with records := _ } delivery alive _ _ stored
      (notifyMerchant id message.orderNo message.amount kMaxInProcessRetries)).mono
    exact fun last outcome kept => .inr ⟨unknown, kept⟩

/-- A body that is handled is answered for, or its message has a row from then on. -/
theorem handleMessage_ensures (wholesome : Wholesome C delivery.body) :
    Script.Ensures (Undisturbed C delivery alive)
      (fun last outcome => outcome = .ok () ∨
        weight C last.records delivery.body < weight C world.records delivery.body) world
      (handleMessage C delivery.body) := by
  obtain ⟨read, parsed, fits⟩ := wholesome
  apply Script.Ensures.bind
  rw [process, parsed]
  cases read with
  | none =>
    rintro _ ⟨turn, -, rfl⟩
    exact .inl rfl
  | some message =>
    apply (processMessage_ensures (fits message rfl)).mono
    rintro last outcome (rfl | ⟨unknown, stored⟩)
    · rintro _ ⟨turn, -, rfl⟩
      exact .inl rfl
    · apply (known_ensures stored _).mono
      intro last outcome kept
      refine .inr ?_
      simp [weight, parsed, unknown, kept]

/-- After its answer a handler has nothing left to do. -/
theorem answered_done {rest : Rest} (follows : Script.Follows answering Answered true rest) :
    ∃ outcome, rest = .done outcome := by
  cases rest with
  | done outcome => exact ⟨outcome, rfl⟩
  | call r k => cases follows.1

/-- What a handler leaves of the queue, wherever it was. Undisturbed, it has answered its
delivery by its end, or it ends with an exception and leaves the delivery where it was. -/
theorem rest_ensures {rest : Rest} {world : World}
    (answers : Script.Follows answering Answered false rest)
    (unacked : world.unacked = if alive then [delivery] else []) :
    Script.Ensures (Undisturbed C delivery alive)
      (fun last outcome => Retains world last ∧ last.ready = world.ready ∧
        (last.unacked = [] ∨ (last.unacked = world.unacked ∧ outcome ≠ .ok ()))) world rest := by
  induction rest generalizing world with
  | done outcome =>
    refine ⟨List.Subset.refl _, rfl, .inr ⟨rfl, fun returned => ?_⟩⟩
    cases answers returned
  | call r k inductionHypothesis =>
    rintro _ ⟨turn, -, rfl⟩
    have retains := exec_retains (C := C) world delivery alive turn r
    have answered := answers.2 (exec C world delivery alive turn r).2 trivial
    cases answer : isAnswer r with
    | false =>
      obtain ⟨ready, same, -⟩ := exec_quiet (C := C) world delivery alive turn answer
      rw [show answering.after false r _ = false from answer] at answered
      apply (inductionHypothesis _ answered (same.trans unacked)).mono
      rintro last outcome ⟨further, queue, gone⟩
      rw [same] at gone
      exact ⟨retains.trans further, queue.trans ready, gone⟩
    | true =>
      obtain ⟨ready, none, -⟩ := @exec_answer C world delivery alive turn r answer unacked
      rw [show answering.after false r _ = true from answer] at answered
      obtain ⟨outcome, ended⟩ := answered_done answered
      rw [ended]
      exact ⟨retains, ready, .inl none⟩

end Handlers

/-! Handlers come to an end, and so does the queue. -/

/-- What the thread was doing has no bearing on a call, so a call of the handler may be looked
at apart from the handler. -/
theorem exec_thread (world : World) (thread : Thread) (delivery : Delivery) (alive : Bool)
    (turn : Turn) (r : Request) :
    exec C { world with thread := thread } delivery alive turn r =
      ({ (exec C world delivery alive turn r).1 with thread := thread },
        (exec C world delivery alive turn r).2) := by
  obtain ⟨nextId, merchant, received, thrown⟩ := turn
  cases r with
  | nextId | sleep | basicAck => rfl
  | basicNack => cases alive <;> rfl
  | insertWithDedup notifyNo messageId orderNo targetUrl =>
    have inserted : ∀ record, World.insertRecord C.collate { world with thread := thread } record =
        ({ (world.insertRecord C.collate record).1 with thread := thread },
          (world.insertRecord C.collate record).2) := by
      intro record
      unfold World.insertRecord World.hasRecordKey
      split
      · rfl
      · split <;> rfl
    simp only [exec, inserted]
    rcases thrown with _ | ⟨fault, _ | _⟩ <;> rfl
  | sendRequest =>
    simp only [exec, World.tell]
    rcases thrown with _ | ⟨fault, _ | _⟩ <;> split <;> rfl
  | markSuccess notifyNo responseBody =>
    simp only [exec, World.mark]
    split
    · rfl
    · rcases thrown with _ | ⟨fault, _ | _⟩ <;> rfl
  | markFailed notifyNo retryCount responseBody =>
    simp only [exec, World.mark]
    split
    · rfl
    · rcases thrown with _ | ⟨fault, _ | _⟩ <;> rfl

/-- Where the thread was does not matter to where it goes. -/
theorem resume_thread (world : World) (thread : Thread) (delivery : Delivery) (alive : Bool)
    (rest : Rest) :
    { world with thread := thread }.resume delivery alive rest =
      world.resume delivery alive rest := by
  cases rest with
  | done outcome => cases outcome <;> rfl
  | call r k => rfl

/-- A handler that ends where the steps come to an end is part of them. -/
theorem ensures_acc {delivery : Delivery} {alive : Bool} {rest : Rest} {world : World}
    (ensures : Script.Ensures (Undisturbed C delivery alive)
      (fun last outcome =>
        Acc (Steps (step C) Proceeds) (last.resume delivery alive (.done outcome))) world rest) :
    Acc (Steps (step C) Proceeds) (world.resume delivery alive rest) := by
  induction rest generalizing world with
  | done outcome => exact ensures
  | call r k inductionHypothesis =>
    refine .intro _ ?_
    rintro next ⟨event, proceeds, taken⟩
    cases event with
    | publish | lose | crash => cases proceeds
    | subscribe | deliver => cases taken
    | perform turn =>
      obtain rfl := Option.some.inj taken
      have moved := @exec_thread C world (.handling delivery alive (.call r k)) delivery alive turn r
      have called := inductionHypothesis _ (ensures _ ⟨turn, proceeds, rfl⟩)
      change Acc _ ((exec C { world with thread := .handling delivery alive (.call r k) } delivery
        alive turn r).1.resume delivery alive (k (exec C
          { world with thread := .handling delivery alive (.call r k) } delivery alive turn r).2))
      rw [moved, resume_thread]
      exact called

/-- The end of a handler that had its delivery in hand: less is left, or the thread is as
before its delivery. -/
theorem leaves_less {delivery : Delivery} {world last : World} {outcome : Except Fault Unit}
    (unacked : world.unacked = [delivery]) (retains : Retains world last)
    (ready : last.ready = world.ready)
    (gone : last.unacked = [] ∨ (last.unacked = world.unacked ∧ outcome ≠ .ok ()))
    (settled : outcome = .ok () ∨
      weight C last.records delivery.body < weight C world.records delivery.body) :
    load C last < load C world := by
  have waiting : (world.ready.map (weight C last.records)).sum ≤
      (world.ready.map (weight C world.records)).sum :=
    List.sum_le_sum fun body _ => retains.weight body
  have positive := @weight_pos C world.records delivery.body
  have before : load C world = weight C world.records delivery.body +
      (world.ready.map (weight C world.records)).sum := by
    simp [load, World.queued, unacked]
  have after : load C last = ((last.unacked.map Delivery.body).map (weight C last.records)).sum +
      (world.ready.map (weight C last.records)).sum := by
    rw [load, World.queued, List.map_append, List.sum_append, ready]
  rcases gone with none | ⟨same, thrown⟩
  · rw [before, after, none]
    simp only [List.map_nil, List.sum_nil]
    omega
  · have less := settled.resolve_left thrown
    rw [before, after, same, unacked]
    simp only [List.map_cons, List.map_nil, List.sum_cons, List.sum_nil]
    omega

/-- The thread between two deliveries, with a queue that it can work off: every body can be
read and stored. -/
structure Resting (C : ConsumerPlatform) (world : World) : Prop where
  thread : world.thread = .disconnected ∨ world.thread = .waiting
  unacked : world.unacked = []
  wholesome : ∀ body ∈ world.queued, Wholesome C body

/-- The end of a handler does not change the load. -/
theorem resumed_load (world : World) (delivery : Delivery) (alive : Bool) (outcome : Except Fault Unit) :
    load C (world.resume delivery alive (.done outcome)) = load C world := by
  cases outcome with
  | ok value => rfl
  | error fault => rfl

/-- The end of a handler is the thread at rest. -/
theorem resumed_resting {delivery : Delivery} {alive : Bool} {world last : World}
    {outcome : Except Fault Unit} (wholesome : ∀ body ∈ world.queued, Wholesome C body)
    (ready : last.ready = world.ready)
    (gone : last.unacked = [] ∨ (last.unacked = world.unacked ∧ outcome ≠ .ok ())) :
    Resting C (last.resume delivery alive (.done outcome)) := by
  refine ⟨?_, ?_, ?_⟩
  · cases outcome with
    | error fault => exact .inl rfl
    | ok value => cases alive <;> simp [World.resume]
  · cases outcome with
    | error fault => rfl
    | ok value => exact gone.resolve_right fun kept => kept.2 rfl
  · intro body member
    rw [resume_queued, World.queued, ready] at member
    refine wholesome body ?_
    rcases gone with none | ⟨same, -⟩
    · rw [none] at member
      exact List.mem_append_right _ member
    · rwa [same] at member

/-- Every delivery leaves less: its body is answered, or its message has a record from then on
and weighs less. The induction is on the load. -/
theorem resting_acc {world : World} (resting : Resting C world) :
    Acc (Steps (step C) Proceeds) world := by
  induction total : load C world using Nat.strong_induction_on generalizing world with
  | h left inductionHypothesis =>
    have waiting : ∀ {world : World}, Resting C world → world.thread = .waiting →
        load C world = left → Acc (Steps (step C) Proceeds) world := by
      intro world resting here total
      refine .intro _ ?_
      rintro next ⟨event, proceeds, taken⟩
      cases event with
      | publish | lose | crash => cases proceeds
      | subscribe | perform =>
        simp only [step, here] at taken
        cases taken
      | deliver =>
        obtain ⟨-, body, rest, queue, rfl⟩ := step_deliver taken
        have same := delivered_queued resting.unacked queue
        have started : (world.delivered body).unacked = [⟨world.nextTag, body⟩] := by
          simp [World.delivered, resting.unacked]
        have wholesome : ∀ body' ∈ (world.delivered body).queued, Wholesome C body' :=
          same ▸ resting.wholesome
        have handled := @handleMessage_ensures C (world.delivered body) ⟨world.nextTag, body⟩ true
          (resting.wholesome body (by simp [World.queued, queue]))
        apply ensures_acc
        apply ((rest_ensures (handleMessage_answers body) started).and handled).mono
        rintro last outcome ⟨⟨retains, ready, gone⟩, settled⟩
        have less := leaves_less started retains ready gone settled
        have before : load C (world.delivered body) = left := by
          rw [← total, load, same]
          rfl
        refine inductionHypothesis _ ?_ (resumed_resting wholesome ready gone) rfl
        rw [resumed_load]
        omega
    rcases resting.thread with here | here
    · refine .intro _ ?_
      rintro next ⟨event, proceeds, taken⟩
      cases event with
      | publish | lose | crash => cases proceeds
      | deliver | perform =>
        simp only [step, here] at taken
        cases taken
      | subscribe =>
        simp only [step, here] at taken
        obtain rfl := Option.some.inj taken
        exact waiting ⟨.inr rfl, resting.unacked, resting.wholesome⟩ rfl total
    · exact waiting resting here total

/-- What the code relies on to work off its queue: a thread in order, and bodies that can be
read and stored. Those from the start are still queued or have been answered for. -/
structure Workable (C : ConsumerPlatform) (start world : World) : Prop where
  held : Held C world world.thread
  wholesome : ∀ body ∈ world.queued, Wholesome C body
  settled : ∀ body ∈ start.queued, body ∈ world.queued ∨ body ∈ world.acked ∨ body ∈ world.dead

/-- Steps that publish nothing add nothing to the queue. The length of the queue can therefore
serve as a part of the measure that decreases. -/
theorem proceeds_queued {world next : World} {event : Event} (held : Held C world world.thread)
    (proceeds : Proceeds world event) (taken : step C world event = some next) :
    next.queued ⊆ world.queued := by
  cases event with
  | publish | lose | crash => cases proceeds
  | subscribe =>
    simp only [step] at taken
    split at taken
    · obtain rfl := Option.some.inj taken
      exact List.Subset.refl _
    · cases taken
  | deliver => exact (deliver_moves held taken).2 ▸ List.Subset.refl _
  | perform turn =>
    simp only [step] at taken
    split at taken
    · rename_i delivery alive r k here
      obtain rfl := Option.some.inj taken
      obtain ⟨ready, unacked⟩ := exec_queue C world delivery alive turn r
      rw [resume_queued, World.queued, ready]
      exact List.append_subset.mpr ⟨List.subset_append_of_subset_left _ (List.map_subset _ unacked),
        List.subset_append_right _ _⟩
    · cases taken

/-- What can be worked off can still be worked off after a step. -/
theorem Workable.step {start world next : World} {event : Event} (workable : Workable C start world)
    (proceeds : Proceeds world event) (taken : NotifyConsumer.step C world event = some next) :
    Workable C start next := by
  have moves := step_moves workable.held taken
  have fewer := proceeds_queued workable.held proceeds taken
  refine ⟨moves.held, fun body member => workable.wholesome body (fewer member), ?_⟩
  intro body member
  rcases workable.settled body member with queued | acked | dead
  · rcases moves.queued body queued with still | ⟨-, settled⟩
    · exact .inl still
    · exact .inr settled
  · exact .inr (.inl (moves.acked acked))
  · exact .inr (.inr (moves.dead dead))

/-- The steps end. Each delivery takes weight off the queue, or leaves a record that makes
its redelivery lighter; the induction is on the load, and within a handler on what is left
of it. -/
theorem Workable.acc {start world : World} (workable : Workable C start world) :
    Acc (Steps (NotifyConsumer.step C) Proceeds) world := by
  have held := workable.held
  cases here : world.thread with
  | disconnected =>
    rw [here] at held
    obtain none | - | - := held
    exact resting_acc ⟨.inl here, none, workable.wholesome⟩
  | waiting =>
    rw [here] at held
    obtain - | none | - := held
    exact resting_acc ⟨.inr here, none, workable.wholesome⟩
  | handling delivery alive rest =>
    rw [here] at held
    obtain - | - | ⟨unacked, answers, -⟩ := held
    rename_i r k
    have resumed : world.resume delivery alive (.call r k) = world := by
      rw [World.resume, ← here]
    rw [← resumed]
    apply ensures_acc
    apply (rest_ensures answers unacked).mono
    rintro last outcome ⟨-, ready, gone⟩
    exact resting_acc (resumed_resting workable.wholesome ready gone)

/-- A thread that can do nothing more has drained its queue. Otherwise it is handling a body
and can make its next call, or the next delivery can start. -/
theorem Workable.progress {start world : World} (workable : Workable C start world) :
    Drained start world ∨ ∃ next, Steps (NotifyConsumer.step C) Proceeds next world := by
  have held := workable.held
  cases here : world.thread with
  | disconnected =>
    have taken : NotifyConsumer.step C world .subscribe = some { world with thread := .waiting } := by
      simp only [NotifyConsumer.step, here]
    exact .inr ⟨_, .subscribe, trivial, taken⟩
  | waiting =>
    rw [here] at held
    obtain - | none | - := held
    cases queue : world.ready with
    | nil =>
      have empty : world.queued = [] := by simp [World.queued, none, queue]
      refine .inl ⟨here, empty, fun body member => ?_⟩
      have settled := workable.settled body member
      rw [empty] at settled
      exact settled.resolve_left List.not_mem_nil
    | cons body rest =>
      obtain ⟨next, taken⟩ : ∃ next, NotifyConsumer.step C world .deliver = some next := by
        simp only [NotifyConsumer.step, here, queue]
        exact ⟨_, rfl⟩
      exact .inr ⟨next, .deliver, trivial, taken⟩
  | handling delivery alive rest =>
    rw [here] at held
    obtain - | - | - := held
    have proceeds : Proceeds world (.perform ⟨some "", none, false, none⟩) :=
      ⟨rfl, "", rfl, by decide⟩
    obtain ⟨next, taken⟩ : ∃ next,
        NotifyConsumer.step C world (.perform ⟨some "", none, false, none⟩) = some next := by
      simp only [NotifyConsumer.step, here]
      exact ⟨_, rfl⟩
    exact .inr ⟨next, _, proceeds, taken⟩

/-- The thread holds one delivery at most, in every reached state. -/
theorem reached_held {world : World}
    (reached : Reached (step C) (fun _ _ => True) .initial world) : Held C world world.thread :=
  reached.invariant (.disconnected rfl) fun _ _ _ held _ taken => (step_moves held taken).held

/-- The body about the paid order can be read and stored. -/
theorem paidBody_wholesome : Wholesome desk paidBody := by
  refine ⟨some ⟨"m1", "o1", ""⟩, by decide +kernel, ?_⟩
  rintro _ ⟨⟩
  decide +kernel

end NotifyConsumer

end TradeReconcile
