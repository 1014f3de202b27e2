import TradeReconcile.Messaging.NotifyConsumer
import TradeReconcile.Transitions

/-!
# Who was told about an acknowledged message

The consumer writes the deduplication row before it contacts the merchant and
acknowledges last, so a second delivery of the message is acknowledged on the
strength of the row alone. That is sound as long as every row stands for a message
that somebody was told about, except for the one being handled. The exception must
not survive its handler: if the process dies or the connection is lost in that
window, the row stays behind for a message nobody knows of.
-/

namespace TradeReconcile

namespace NotifyConsumer

open Scripts

variable {C : ConsumerPlatform}

/-- The identity of a message, as its body names it. -/
def messageIdOf (C : ConsumerPlatform) (body : List UInt8) : Option String :=
  match readMessage C body with
  | .ok (some message) => some message.messageId
  | _ => none

/-- The merchant has answered 200 to a notification of the message, or a copy of it
has been routed to the dead letter queue. -/
def Informed (C : ConsumerPlatform) (world : World) (messageId : String) : Prop :=
  (∃ body ∈ world.told, messageIdOf C body = some messageId) ∨
    ∃ body ∈ world.dead, messageIdOf C body = some messageId

/-- Every acknowledged message is one that somebody was told about. -/
def AcksInformed (C : ConsumerPlatform) (world : World) : Prop :=
  ∀ body ∈ world.acked, ∃ messageId,
    messageIdOf C body = some messageId ∧ Informed C world messageId

/-- Somebody was told about a message that is stored under this id. -/
def Known (C : ConsumerPlatform) (world : World) (stored : String) : Prop :=
  ∃ body ∈ world.told ++ world.dead, ∃ messageId ∈ messageIdOf C body,
    storedMessageId messageId = stored

/-- Every deduplication row stands for a message that somebody was told about. -/
def Settled (C : ConsumerPlatform) (world : World) : Prop :=
  ∀ record ∈ world.records, Known C world record.messageId

/-- The same, with one message left out. -/
def SettledBut (C : ConsumerPlatform) (world : World) (messageId : String) : Prop :=
  ∀ record ∈ world.records, record.messageId = storedMessageId messageId ∨
    Known C world record.messageId

/-- A notify number that no row has. -/
def Unissued (C : ConsumerPlatform) (world : World) (notifyNo : String) : Prop :=
  ∀ record ∈ world.records, C.collate record.notifyNo ≠ C.collate notifyNo

/-- A message id that the table does not take for another one: a row found under it, as
its column would store it, is that message's own and nobody else's. -/
def Distinguished (C : ConsumerPlatform) (world : World) (messageId : String) : Prop :=
  ∀ record ∈ world.records, C.collate record.messageId = C.collate (storedMessageId messageId) →
    record.messageId = storedMessageId messageId ∧
      ∀ body ∈ world.told ++ world.dead, ∀ other ∈ messageIdOf C body,
        storedMessageId other = record.messageId → other = messageId

/-- A step that does not end the handling of a message nobody was told about: the
process does not die, no exception leaves the handler and no rejection goes to a
lost connection while a row stands for such a message. Notify numbers are not handed
out twice, and the table tells message ids apart. -/
def Uninterrupted (C : ConsumerPlatform) (world : World) : Event → Prop
  | .crash => Settled C world
  | .perform turn => ∀ delivery alive r k, world.thread = .handling delivery alive (.call r k) →
    (∀ fault, (exec C world delivery alive turn r).2 = .error fault →
      Settled C (exec C world delivery alive turn r).1) ∧
    (r = .basicNack → alive = false → Settled C world) ∧
    (r = .nextId → ∀ id ∈ turn.nextId, Unissued C world id) ∧
    (∀ notifyNo messageId orderNo targetUrl,
      r = .insertWithDedup notifyNo messageId orderNo targetUrl → Distinguished C world messageId)
  | _ => True

/-! Program points of the handler. -/

/-- The code from the insert on. -/
def inserting (C : ConsumerPlatform) (message : Message) (notifyNo : String) : Handler Unit :=
  request (.insertWithDedup notifyNo message.messageId message.orderNo
    (C.notifyBaseUrl ++ kNotifyPath)) >>= fun affectedRows =>
      (if affectedRows ≠ 1 then pure true
        else notifyMerchant notifyNo message.orderNo message.amount kMaxInProcessRetries) >>= answer

/-- The code from an attempt to notify the merchant on. -/
def notifying (message : Message) (notifyNo : String) (retries : Nat) : Handler Unit :=
  notifyMerchant notifyNo message.orderNo message.amount retries >>= answer

/-- The code of a message that could be read. -/
def identifying (C : ConsumerPlatform) (message : Message) : Handler Unit :=
  request .nextId >>= inserting C message

/-- The handler at the pause before the next notification. -/
def pausing (message : Message) (notifyNo : String) (retries seconds : Nat) : Handler Unit :=
  request (.sleep seconds) >>= fun _ => notifying message notifyNo retries

/-- The handler at the mark of a success. -/
def concluding (notifyNo text : String) : Handler Unit :=
  request (.markSuccess notifyNo text) >>= fun _ => answer true

/-- The handler at the mark of a failure. -/
def givingUp (notifyNo : String) (count : Nat) (text : String) : Handler Unit :=
  request (.markFailed notifyNo count text) >>= fun _ => answer false

/-- The handler of a message that could be read starts with its number. -/
theorem processMessage_answer (message : Message) :
    processMessage C message >>= answer = identifying C message := by
  simp only [processMessage, bind_assoc]
  rfl

/-- One attempt: marked, repeated after a pause, or given up. -/
def attempted (message : Message) (notifyNo : String) (retries : Nat)
    (response : Option (Nat × String)) : Handler Unit :=
  match accepted response with
  | some body => concluding notifyNo body
  | none =>
    match retries with
    | 0 => givingUp notifyNo (kMaxInProcessRetries + 1)
        ((response.map Prod.snd).getD "request failed")
    | retries + 1 => pausing message notifyNo retries (kMaxInProcessRetries - retries)

/-- A notification and what follows from its response. -/
theorem notifying_eq (message : Message) (notifyNo : String) (retries : Nat) :
    notifying message notifyNo retries =
      request (.sendRequest notifyNo message.orderNo message.amount) >>=
        attempted message notifyNo retries := by
  rw [notifying, notifyMerchant.eq_def, bind_assoc]
  congr 1
  funext response
  unfold attempted
  cases accepted response with
  | some body => simp only [bind_assoc, pure_bind, concluding]
  | none =>
    cases retries with
    | zero => simp only [bind_assoc, pure_bind, givingUp]
    | succ retries => simp only [bind_assoc, pausing, notifying]

/-- The handler is at a call while it notifies. -/
theorem notifying_calls (message : Message) (notifyNo : String) (retries : Nat) :
    ∃ r k, notifying message notifyNo retries = Script.call r k :=
  ⟨_, _, notifying_eq message notifyNo retries⟩

/-- At most the message at hand is unknown to everybody. -/
def Outstanding (C : ConsumerPlatform) (world : World) (delivery : Delivery) : Prop :=
  Settled C world ∨ ∃ messageId, messageIdOf C delivery.body = some messageId ∧ SettledBut C world messageId

/-- Where the consumer thread can be, and what the table and the histories satisfy
there. -/
inductive Stage (C : ConsumerPlatform) (world : World) : Thread → Prop where
  | disconnected : Settled C world → Stage C world .disconnected
  | waiting : Settled C world → Stage C world .waiting
  | identifying {delivery : Delivery} {alive : Bool} {message : Message} :
      readMessage C delivery.body = .ok (some message) → Settled C world →
      Stage C world (.handling delivery alive (identifying C message))
  | inserting {delivery : Delivery} {alive : Bool} {message : Message} {notifyNo : String} :
      readMessage C delivery.body = .ok (some message) → Settled C world →
      Unissued C world notifyNo →
      Stage C world (.handling delivery alive (inserting C message notifyNo))
  | notifying {delivery : Delivery} {alive : Bool} {message : Message} {notifyNo : String}
      {retries : Nat} :
      readMessage C delivery.body = .ok (some message) → Outstanding C world delivery →
      Stage C world (.handling delivery alive (notifying message notifyNo retries))
  | sleeping {delivery : Delivery} {alive : Bool} {message : Message} {notifyNo : String}
      {retries seconds : Nat} :
      readMessage C delivery.body = .ok (some message) → Outstanding C world delivery →
      Stage C world (.handling delivery alive (pausing message notifyNo retries seconds))
  | failing {delivery : Delivery} {alive : Bool} {notifyNo text : String} {count : Nat} :
      Outstanding C world delivery →
      Stage C world (.handling delivery alive (givingUp notifyNo count text))
  | succeeding {delivery : Delivery} {alive : Bool} {notifyNo text : String} {messageId : String} :
      messageIdOf C delivery.body = some messageId → Informed C world messageId → Settled C world →
      Stage C world (.handling delivery alive (concluding notifyNo text))
  | acknowledging {delivery : Delivery} {alive : Bool} {messageId : String} :
      messageIdOf C delivery.body = some messageId → Informed C world messageId → Settled C world →
      Stage C world (.handling delivery alive (answer true))
  | rejecting {delivery : Delivery} {alive : Bool} :
      Outstanding C world delivery → Stage C world (.handling delivery alive (answer false))

/-- The invariant of uninterrupted runs: records are settled but for the one at hand, the
handler stands where its record says, and everything acknowledged was told or dead-
lettered. -/
structure Sound (C : ConsumerPlatform) (world : World) : Prop where
  stage : Stage C world world.thread
  acks : AcksInformed C world

/-- The histories only grow. -/
theorem Informed.mono {before after : World} {messageId : String} (informed : Informed C before messageId)
    (told : before.told ⊆ after.told) (dead : before.dead ⊆ after.dead) : Informed C after messageId := by
  rcases informed with ⟨body, member, same⟩ | ⟨body, member, same⟩
  · exact .inl ⟨body, told member, same⟩
  · exact .inr ⟨body, dead member, same⟩

/-- What is known stays known: notifications and dead letters only become more. -/
theorem Known.mono {before after : World} {stored : String} (known : Known C before stored)
    (told : before.told ⊆ after.told) (dead : before.dead ⊆ after.dead) : Known C after stored := by
  obtain ⟨body, member, its⟩ := known
  refine ⟨body, ?_, its⟩
  rcases List.mem_append.mp member with here | here
  · exact List.mem_append_left _ (told here)
  · exact List.mem_append_right _ (dead here)

/-- Whoever is informed of a message is informed of what its row stands for. -/
theorem Informed.known {world : World} {messageId : String} (informed : Informed C world messageId) :
    Known C world (storedMessageId messageId) := by
  rcases informed with ⟨body, member, same⟩ | ⟨body, member, same⟩
  · exact ⟨body, List.mem_append_left _ member, messageId, same, rfl⟩
  · exact ⟨body, List.mem_append_right _ member, messageId, same, rfl⟩

/-- A row that is a message's own stands for that message. -/
theorem Known.informed {world : World} {messageId stored : String} (known : Known C world stored)
    (own : ∀ body ∈ world.told ++ world.dead, ∀ other ∈ messageIdOf C body,
      storedMessageId other = stored → other = messageId) : Informed C world messageId := by
  obtain ⟨body, member, other, named, same⟩ := known
  obtain rfl := own body member other named same
  exact (List.mem_append.mp member).imp (fun here => ⟨body, here, named⟩) fun here =>
    ⟨body, here, named⟩

/-- A call changes the world in a way that keeps what was known: every row is an old
one up to its state, and the histories grow. -/
structure Grows (before after : World) : Prop where
  records : ∀ record ∈ after.records, ∃ old ∈ before.records, old.messageId = record.messageId
  told : before.told ⊆ after.told
  dead : before.dead ⊆ after.dead

/-- Nothing has happened. -/
theorem Grows.refl (world : World) : Grows world world :=
  ⟨fun record member => ⟨record, member, rfl⟩, List.Subset.refl _, List.Subset.refl _⟩

/-- An update of a record that keeps its message id. -/
theorem Grows.update (world : World) (collate : String → String) (notifyNo : String)
    {set : NotifyRecord → NotifyRecord} (same : ∀ record, (set record).messageId = record.messageId) :
    Grows world (world.updateRecord collate notifyNo set) where
  records := by
    intro record member
    obtain ⟨old, present, rfl⟩ := List.mem_map.mp member
    refine ⟨old, present, ?_⟩
    split
    · exact (same old).symm
    · rfl
  told := List.Subset.refl _
  dead := List.Subset.refl _

/-- Records stay settled. -/
theorem Settled.grown {before after : World} (settled : Settled C before)
    (grows : Grows before after) : Settled C after := by
  intro record member
  obtain ⟨old, present, same⟩ := grows.records record member
  rw [← same]
  exact (settled old present).mono grows.told grows.dead

/-- A delivery stays outstanding. -/
theorem Outstanding.grown {before after : World} {delivery : Delivery}
    (outstanding : Outstanding C before delivery) (grows : Grows before after) :
    Outstanding C after delivery := by
  rcases outstanding with settled | ⟨messageId, same, settled⟩
  · exact .inl (settled.grown grows)
  · refine .inr ⟨messageId, same, fun record member => ?_⟩
    obtain ⟨old, present, sameId⟩ := grows.records record member
    rw [← sameId]
    exact (settled old present).imp_right fun known => known.mono grows.told grows.dead

/-- Once somebody was told about the message at hand, nothing is outstanding. -/
theorem Outstanding.settled {world : World} {delivery : Delivery} {messageId : String}
    (outstanding : Outstanding C world delivery) (named : messageIdOf C delivery.body = some messageId)
    (informed : Informed C world messageId) : Settled C world := by
  rcases outstanding with settled | ⟨other, same, settled⟩
  · exact settled
  · intro record member
    obtain rfl : messageId = other := Option.some.inj (named.symm.trans same)
    rcases settled record member with here | elsewhere
    · rw [here]
      exact informed.known
    · exact elsewhere

/-- What has been acknowledged rightly stays so. -/
theorem AcksInformed.mono {before after : World} (acks : AcksInformed C before)
    (told : before.told ⊆ after.told) (dead : before.dead ⊆ after.dead)
    (same : after.acked = before.acked) : AcksInformed C after := by
  intro body member
  rw [same] at member
  obtain ⟨messageId, named, informed⟩ := acks body member
  exact ⟨messageId, named, informed.mono told dead⟩

/-- The judgements see only the rows and the histories. -/
theorem Stage.same {before after : World} {thread : Thread} (stage : Stage C before thread)
    (records : after.records = before.records) (told : after.told = before.told)
    (dead : after.dead = before.dead) : Stage C after thread := by
  have grows : Grows before after :=
    ⟨fun record member => ⟨record, records ▸ member, rfl⟩, told ▸ List.Subset.refl _,
      dead ▸ List.Subset.refl _⟩
  cases stage with
  | disconnected settled => exact .disconnected (settled.grown grows)
  | waiting settled => exact .waiting (settled.grown grows)
  | identifying read settled => exact .identifying read (settled.grown grows)
  | inserting read settled unissued =>
    exact .inserting read (settled.grown grows) fun record member =>
      unissued record (records ▸ member)
  | notifying read outstanding => exact .notifying read (outstanding.grown grows)
  | sleeping read outstanding => exact .sleeping read (outstanding.grown grows)
  | failing outstanding => exact .failing (outstanding.grown grows)
  | succeeding named informed settled =>
    exact .succeeding named (informed.mono grows.told grows.dead) (settled.grown grows)
  | acknowledging named informed settled =>
    exact .acknowledging named (informed.mono grows.told grows.dead) (settled.grown grows)
  | rejecting outstanding => exact .rejecting (outstanding.grown grows)

/-- The id of a body that has been read. -/
theorem messageIdOf_eq {body : List UInt8} {message : Message}
    (read : readMessage C body = .ok (some message)) :
    messageIdOf C body = some message.messageId := by
  rw [messageIdOf, read]

/-- A notification may add to the messages the merchant knows. -/
theorem Grows.tell (world : World) (body : List UInt8) (merchant : Option (Nat × String)) :
    Grows world (world.tell body merchant) := by
  unfold World.tell
  split
  · exact ⟨fun record member => ⟨record, member, rfl⟩, List.subset_append_left _ _,
      List.Subset.refl _⟩
  · exact Grows.refl world

/-- A closing update keeps what was known and acknowledges nothing. -/
theorem mark_grows (world : World) (collate : String → String) (turn : Turn)
    (notifyNo responseBody : String) {set : NotifyRecord → NotifyRecord}
    (same : ∀ record, (set record).messageId = record.messageId) :
    Grows world (world.mark collate turn notifyNo responseBody set).1 ∧
      (world.mark collate turn notifyNo responseBody set).1.acked = world.acked := by
  rcases mark_world collate world turn notifyNo responseBody set with before | after
  · rw [before]
    exact ⟨Grows.refl world, rfl⟩
  · rw [after]
    exact ⟨Grows.update world collate notifyNo same, rfl⟩

/-- A number that is answered is the one that was issued. -/
theorem exec_nextId {C : ConsumerPlatform} {world : World} {delivery : Delivery} {alive : Bool}
    {turn : Turn} {notifyNo : String}
    (answered : (exec C world delivery alive turn .nextId).2 = .ok notifyNo) :
    turn.nextId = some notifyNo := by
  simp only [exec] at answered
  split at answered
  · rename_i id given
    cases answered
    exact given
  · cases answered

/-- Every call but the insert keeps what was known, whether it throws or not: who was told,
what is dead, and that every row is one from before. -/
theorem exec_grows (C : ConsumerPlatform) (world : World) (delivery : Delivery) (alive : Bool)
    (turn : Turn) {r : Request} (other : ∀ notifyNo messageId orderNo targetUrl,
      r ≠ .insertWithDedup notifyNo messageId orderNo targetUrl) :
    Grows world (exec C world delivery alive turn r).1 := by
  have same := Grows.refl world
  cases r with
  | insertWithDedup notifyNo messageId orderNo targetUrl => exact absurd rfl (other _ _ _ _)
  | nextId | sleep | basicAck => exact ⟨same.records, same.told, same.dead⟩
  | sendRequest =>
    rcases attempt_world turn.thrown world (world.tell delivery.body turn.merchant)
      (.ok (if turn.received then turn.merchant else none)) with before | after
    · exact before.symm ▸ same
    · exact after.symm ▸ Grows.tell world delivery.body turn.merchant
  | markSuccess notifyNo responseBody =>
    refine (mark_grows world C.collate turn notifyNo responseBody ?_).1
    intro record
    rfl
  | markFailed notifyNo retryCount responseBody =>
    refine (mark_grows world C.collate turn notifyNo responseBody ?_).1
    intro record
    rfl
  | basicNack =>
    cases alive with
    | true => exact ⟨same.records, same.told, List.subset_append_left _ _⟩
    | false => exact same

/-- No call but the acknowledgement itself adds to the acknowledged messages. What was known
about the others stays known: those told are never forgotten, and a message given up stays
so. -/
theorem exec_acks {world : World} {delivery : Delivery} {alive : Bool} {turn : Turn} {r : Request}
    (other : r ≠ .basicAck) (acks : AcksInformed C world) :
    AcksInformed C (exec C world delivery alive turn r).1 := by
  have grown := fun apart => exec_grows C world delivery alive turn (r := r) apart
  cases r with
  | basicAck => exact absurd rfl other
  | insertWithDedup notifyNo messageId orderNo targetUrl =>
    let record : NotifyRecord := newRecord notifyNo messageId orderNo targetUrl
    have inserted : AcksInformed C (world.insertRecord C.collate record).1 := by
      rcases insertRecord_cases C.collate world record with same | ⟨-, same⟩ | same <;>
        rw [same] <;> exact acks
    rcases attempt_world turn.thrown world (world.insertRecord C.collate record).1
      (world.insertRecord C.collate record).2 with before | after
    · exact before.symm ▸ acks
    · exact after.symm ▸ inserted
  | nextId | sleep => exact acks
  | sendRequest =>
    apply acks.mono (grown (by simp)).told (grown (by simp)).dead
    rcases attempt_world turn.thrown world (world.tell delivery.body turn.merchant)
      (.ok (if turn.received then turn.merchant else none)) with before | after
    · exact congrArg World.acked before
    · apply (congrArg World.acked after).trans
      unfold World.tell
      split <;> rfl
  | markSuccess notifyNo responseBody =>
    apply acks.mono (grown (by simp)).told (grown (by simp)).dead
    refine (mark_grows world C.collate turn notifyNo responseBody ?_).2
    intro record
    rfl
  | markFailed notifyNo retryCount responseBody =>
    apply acks.mono (grown (by simp)).told (grown (by simp)).dead
    refine (mark_grows world C.collate turn notifyNo responseBody ?_).2
    intro record
    rfl
  | basicNack =>
    apply acks.mono (grown (by simp)).told (grown (by simp)).dead
    cases alive <;> rfl

/-- The handler goes on with another call. -/
theorem resumed_sound {world : World} {delivery : Delivery} {alive : Bool}
    {code : Script Request (fun r => Except Fault (Reply r)) (Except Fault Unit)}
    (calls : ∃ r k, code = .call r k) (stage : Stage C world (.handling delivery alive code))
    (acks : AcksInformed C world) : Sound C (world.resume delivery alive code) := by
  obtain ⟨r, k, rfl⟩ := calls
  exact ⟨stage.same rfl rfl rfl, acks⟩

/-- One call of the handler at hand. -/
theorem step_perform {world : World} {delivery : Delivery} {alive : Bool} {r : Request}
    {turn : Turn}
    {k : Except Fault (Reply r) → Script Request (fun r => Except Fault (Reply r)) (Except Fault Unit)}
    (here : world.thread = .handling delivery alive (.call r k)) :
    step C world (.perform turn) =
      some ((exec C world delivery alive turn r).1.resume delivery alive
        (k (exec C world delivery alive turn r).2)) := by
  simp only [step, here]

/-- One call of the handler: an exception restarts the process, with nothing left to
tell, and otherwise the continuation has to be sound. -/
theorem perform_sound {world next : World} {delivery : Delivery} {alive : Bool} {r : Request}
    {turn : Turn}
    {k : Except Fault (Reply r) → Script Request (fun r => Except Fault (Reply r)) (Except Fault Unit)}
    (here : world.thread = .handling delivery alive (.call r k))
    (failing : ∀ fault, k (.error fault) = .done (.error fault))
    (uninterrupted : Uninterrupted C world (.perform turn))
    (taken : step C world (.perform turn) = some next) (other : r ≠ .basicAck)
    (acks : AcksInformed C world)
    (continues : ∀ value, (exec C world delivery alive turn r).2 = .ok value →
      AcksInformed C (exec C world delivery alive turn r).1 →
      Sound C ((exec C world delivery alive turn r).1.resume delivery alive (k (.ok value)))) :
    Sound C next := by
  rw [step_perform here] at taken
  obtain rfl := Option.some.inj taken
  cases answered : (exec C world delivery alive turn r).2 with
  | error fault =>
    have settled := (uninterrupted delivery alive r k here).1 fault answered
    rw [failing]
    exact ⟨.disconnected settled, exec_acks other acks⟩
  | ok value => exact continues value answered (exec_acks other acks)

section Calls

variable {world next : World} {delivery : Delivery} {alive : Bool} {turn : Turn}

/-- The lemmas below go through the calls of a handler in order. Drawing the notify number
changes nothing. -/
theorem identifying_sound {message : Message}
    (here : world.thread = .handling delivery alive (identifying C message))
    (read : readMessage C delivery.body = .ok (some message)) (settled : Settled C world)
    (acks : AcksInformed C world) (uninterrupted : Uninterrupted C world (.perform turn))
    (taken : step C world (.perform turn) = some next) : Sound C next := by
  apply perform_sound here (fun _ => rfl) uninterrupted taken (by simp) acks
  intro notifyNo answered kept
  have issued := exec_nextId answered
  have unissued := (uninterrupted delivery alive _ _ here).2.2.1 rfl notifyNo issued
  exact resumed_sound ⟨_, _, rfl⟩ (.inserting read settled unissued) kept

/-- The insert: a new row is outstanding from now on, and a row that was there is settled by
the condition. A foreign row under the same stored id is excluded by the condition, too. -/
theorem inserting_sound {message : Message} {notifyNo : String}
    (here : world.thread = .handling delivery alive (inserting C message notifyNo))
    (read : readMessage C delivery.body = .ok (some message)) (settled : Settled C world)
    (unissued : Unissued C world notifyNo) (acks : AcksInformed C world)
    (uninterrupted : Uninterrupted C world (.perform turn))
    (taken : step C world (.perform turn) = some next) : Sound C next := by
  have named := messageIdOf_eq read
  let record : NotifyRecord := newRecord notifyNo message.messageId message.orderNo
    (C.notifyBaseUrl ++ kNotifyPath)
  apply perform_sound here (fun _ => rfl) uninterrupted taken (by simp) acks
  intro affectedRows answered kept
  obtain ⟨after, stored⟩ := attempt_ok answered
  have effect : (exec C world delivery alive turn (.insertWithDedup notifyNo message.messageId
      message.orderNo (C.notifyBaseUrl ++ kNotifyPath))).1 =
      (world.insertRecord C.collate record).1 := after
  rw [effect] at kept ⊢
  change (world.insertRecord C.collate record).2 = _ at stored
  rcases insertRecord_cases C.collate world record with same | ⟨clash, same⟩ | same
  · rw [same] at stored
    cases stored
  · -- The number is new, so the clash is one of message ids, and that row is settled.
    rw [same] at stored kept ⊢
    cases stored
    obtain ⟨old, member, shared⟩ := List.any_eq_true.mp clash
    simp only [Bool.or_eq_true, beq_iff_eq] at shared
    have distinguished := (uninterrupted delivery alive _ _ here).2.2.2 _ _ _ _ rfl
    have own := (distinguished old member (shared.resolve_left (unissued old member))).2
    have informed := (settled old member).informed own
    exact resumed_sound ⟨_, _, rfl⟩ (.acknowledging named informed settled) kept
  · rw [same] at stored kept ⊢
    cases stored
    refine resumed_sound (notifying_calls message notifyNo kMaxInProcessRetries)
      (.notifying read (.inr ⟨_, named, fun row member => ?_⟩)) kept
    rcases List.mem_append.mp member with old | new
    · exact .inr (settled row old)
    · rw [List.mem_singleton.mp new]
      exact .inl rfl

/-- An attempt either tells the merchant or leaves the message outstanding. After the last
rejected attempt what remains is to mark the row as failed, while the message still is
outstanding. -/
theorem notifying_sound {message : Message} {notifyNo : String} {retries : Nat}
    (here : world.thread = .handling delivery alive (notifying message notifyNo retries))
    (read : readMessage C delivery.body = .ok (some message))
    (outstanding : Outstanding C world delivery) (acks : AcksInformed C world)
    (uninterrupted : Uninterrupted C world (.perform turn))
    (taken : step C world (.perform turn) = some next) : Sound C next := by
  rw [notifying_eq] at here
  apply perform_sound here (fun _ => rfl) uninterrupted taken (by simp) acks
  intro response answered kept
  have grown := outstanding.grown
    (exec_grows C world delivery alive turn (r := .sendRequest notifyNo message.orderNo message.amount)
      (by simp))
  obtain ⟨after, sent⟩ := attempt_ok answered
  have effect : (exec C world delivery alive turn
      (.sendRequest notifyNo message.orderNo message.amount)).1 =
      world.tell delivery.body turn.merchant := after
  rw [effect] at grown kept ⊢
  change Sound C (World.resume _ delivery alive (attempted message notifyNo retries response))
  unfold attempted
  cases accepting : accepted response with
  | some text =>
    have merchant : accepted turn.merchant = some text := by
      cases Except.ok.inj sent
      cases arrived : turn.received with
      | true => simpa [arrived] using accepting
      | false => simp [arrived, accepted] at accepting
    have told : delivery.body ∈ (world.tell delivery.body turn.merchant).told := by
      simp [World.tell, merchant]
    have informed : Informed C (world.tell delivery.body turn.merchant) message.messageId :=
      .inl ⟨delivery.body, told, messageIdOf_eq read⟩
    exact resumed_sound ⟨_, _, rfl⟩ (.succeeding (messageIdOf_eq read) informed
      (grown.settled (messageIdOf_eq read) informed)) kept
  | none =>
    cases retries with
    | zero => exact resumed_sound ⟨_, _, rfl⟩ (.failing grown) kept
    | succ retries => exact resumed_sound ⟨_, _, rfl⟩ (.sleeping read grown) kept

/-- The pause changes nothing. -/
theorem pausing_sound {message : Message} {notifyNo : String} {retries seconds : Nat}
    (here : world.thread = .handling delivery alive (pausing message notifyNo retries seconds))
    (read : readMessage C delivery.body = .ok (some message))
    (outstanding : Outstanding C world delivery) (acks : AcksInformed C world)
    (uninterrupted : Uninterrupted C world (.perform turn))
    (taken : step C world (.perform turn) = some next) : Sound C next := by
  apply perform_sound here (fun _ => rfl) uninterrupted taken (by simp) acks
  intro _ _ kept
  exact resumed_sound (notifying_calls message notifyNo retries) (.notifying read outstanding) kept

/-- A message that nobody accepted goes to the dead letter queue, so its failure may be
marked. -/
theorem givingUp_sound {notifyNo text : String} {count : Nat}
    (here : world.thread = .handling delivery alive (givingUp notifyNo count text))
    (outstanding : Outstanding C world delivery) (acks : AcksInformed C world)
    (uninterrupted : Uninterrupted C world (.perform turn))
    (taken : step C world (.perform turn) = some next) : Sound C next := by
  apply perform_sound here (fun _ => rfl) uninterrupted taken (by simp) acks
  intro _ _ kept
  have grown := outstanding.grown
    (exec_grows C world delivery alive turn (r := .markFailed notifyNo count text) (by simp))
  exact resumed_sound ⟨_, _, rfl⟩ (.rejecting grown) kept

/-- The mark of a success comes after the merchant has accepted. -/
theorem concluding_sound {notifyNo text messageId : String}
    (here : world.thread = .handling delivery alive (concluding notifyNo text))
    (named : messageIdOf C delivery.body = some messageId) (informed : Informed C world messageId)
    (settled : Settled C world) (acks : AcksInformed C world)
    (uninterrupted : Uninterrupted C world (.perform turn))
    (taken : step C world (.perform turn) = some next) : Sound C next := by
  apply perform_sound here (fun _ => rfl) uninterrupted taken (by simp) acks
  intro _ _ kept
  have grows := exec_grows C world delivery alive turn (r := .markSuccess notifyNo text) (by simp)
  exact resumed_sound ⟨_, _, rfl⟩
    (.acknowledging named (informed.mono grows.told grows.dead) (settled.grown grows)) kept

/-- The end of a handler: the thread waits again, or reconnects. -/
theorem ended_sound (settled : Settled C world) (acks : AcksInformed C world) :
    Sound C (world.resume delivery alive (.done (.ok ()))) := by
  refine ⟨?_, acks⟩
  cases alive with
  | true => exact .waiting settled
  | false => exact .disconnected settled

/-- The acknowledgement is of a message that was accepted or dead-lettered. -/
theorem acknowledging_sound {messageId : String}
    (here : world.thread = .handling delivery alive (answer true))
    (named : messageIdOf C delivery.body = some messageId) (informed : Informed C world messageId)
    (settled : Settled C world) (acks : AcksInformed C world)
    (taken : step C world (.perform turn) = some next) : Sound C next := by
  rw [step_perform here] at taken
  obtain rfl := Option.some.inj taken
  refine ended_sound settled ?_
  intro body member
  rcases List.mem_append.mp member with old | new
  · exact acks body old
  · rw [List.mem_singleton.mp new]
    exact ⟨messageId, named, informed⟩

/-- A rejection on a standing connection puts a copy into the dead letter queue. -/
theorem rejecting_sound (here : world.thread = .handling delivery alive (answer false))
    (outstanding : Outstanding C world delivery) (acks : AcksInformed C world)
    (uninterrupted : Uninterrupted C world (.perform turn))
    (taken : step C world (.perform turn) = some next) : Sound C next := by
  have grows := exec_grows C world delivery alive turn (r := .basicNack) (by simp)
  apply perform_sound here (fun _ => rfl) uninterrupted taken (by simp) acks
  intro _ _ kept
  refine ended_sound ?_ kept
  cases alive with
  | false => exact (uninterrupted delivery false _ _ here).2.1 rfl rfl
  | true =>
    rcases outstanding.grown grows with settled | ⟨messageId, named, settled⟩
    · exact settled
    · refine Outstanding.settled (.inr ⟨messageId, named, settled⟩) named
        (.inr ⟨delivery.body, ?_, named⟩)
      exact List.mem_append_right _ (List.mem_singleton_self _)

/-- One call, by the point the handler has reached. Each point has its own lemma above. -/
theorem call_sound (sound : Sound C world) (uninterrupted : Uninterrupted C world (.perform turn))
    (taken : step C world (.perform turn) = some next) : Sound C next := by
  obtain ⟨stage, acks⟩ := sound
  generalize here : world.thread = thread at stage
  cases stage with
  | disconnected | waiting => simp [step, here] at taken
  | identifying read settled => exact identifying_sound here read settled acks uninterrupted taken
  | inserting read settled unissued =>
    exact inserting_sound here read settled unissued acks uninterrupted taken
  | notifying read outstanding =>
    exact notifying_sound here read outstanding acks uninterrupted taken
  | sleeping read outstanding => exact pausing_sound here read outstanding acks uninterrupted taken
  | failing outstanding => exact givingUp_sound here outstanding acks uninterrupted taken
  | succeeding named informed settled =>
    exact concluding_sound here named informed settled acks uninterrupted taken
  | acknowledging named informed settled =>
    exact acknowledging_sound here named informed settled acks taken
  | rejecting outstanding => exact rejecting_sound here outstanding acks uninterrupted taken

end Calls

/-- The start of a handler. A value that cannot be read brings the process down, a
poison message is rejected. -/
theorem handleMessage_sound {world : World} {delivery : Delivery} (settled : Settled C world)
    (acks : AcksInformed C world) :
    Sound C (world.resume delivery true (handleMessage C delivery.body)) := by
  unfold handleMessage process
  cases read : readMessage C delivery.body with
  | error fault => exact ⟨.disconnected settled, acks⟩
  | ok message =>
    cases message with
    | none => exact resumed_sound ⟨_, _, rfl⟩ (.rejecting (.inl settled)) acks
    | some message =>
      have code : processMessage C message >>= answer = identifying C message :=
        processMessage_answer message
      simp only [code]
      exact resumed_sound ⟨_, _, rfl⟩ (.identifying read settled) acks

/-- Losing the connection does not end the handler. -/
theorem Stage.lost {world : World} {delivery : Delivery} {alive : Bool}
    {rest : Script Request (fun r => Except Fault (Reply r)) (Except Fault Unit)}
    (stage : Stage C world (.handling delivery alive rest)) :
    Stage C world (.handling delivery false rest) := by
  cases stage with
  | identifying read settled => exact .identifying read settled
  | inserting read settled unissued => exact .inserting read settled unissued
  | notifying read outstanding => exact .notifying read outstanding
  | sleeping read outstanding => exact .sleeping read outstanding
  | failing outstanding => exact .failing outstanding
  | succeeding named informed settled => exact .succeeding named informed settled
  | acknowledging named informed settled => exact .acknowledging named informed settled
  | rejecting outstanding => exact .rejecting outstanding

/-- Every event of an uninterrupted run is sound; the events in a handler are the calls
above. -/
theorem step_sound {world next : World} {event : Event} (sound : Sound C world)
    (uninterrupted : Uninterrupted C world event) (taken : step C world event = some next) :
    Sound C next := by
  have stage := sound.stage
  cases event with
  | publish body =>
    obtain rfl := Option.some.inj taken
    exact ⟨stage.same rfl rfl rfl, sound.acks⟩
  | subscribe =>
    simp only [step] at taken
    split at taken
    · rename_i here
      rw [here] at stage
      cases stage with
      | disconnected settled =>
        cases taken
        exact ⟨.waiting settled, sound.acks⟩
    · cases taken
  | deliver =>
    simp only [step] at taken
    split at taken
    · rename_i here _
      rw [here] at stage
      cases stage with
      | waiting settled =>
        cases taken
        exact handleMessage_sound settled sound.acks
    · cases taken
  | perform turn => exact call_sound sound uninterrupted taken
  | lose =>
    simp only [step] at taken
    split at taken
    · rename_i here
      rw [here] at stage
      cases stage with
      | waiting settled =>
        cases taken
        exact ⟨.disconnected settled, sound.acks⟩
    · rename_i here
      rw [here] at stage
      cases taken
      exact ⟨stage.lost.same rfl rfl rfl, sound.acks⟩
    · cases taken
  | crash =>
    obtain rfl := Option.some.inj taken
    exact ⟨.disconnected uninterrupted, sound.acks⟩

/-- No records and no answers. -/
theorem initial_sound : Sound C World.initial := by
  constructor
  · exact .disconnected fun _ member => nomatch member
  · exact fun _ member => nomatch member

/-- In every run that never abandons a message nobody was told about, each acknowledged
message is one the merchant has accepted or the dead letter queue has received. Nothing is
assumed about the merchant, the broker or where the process dies; messages count by the id the
notify table stores. -/
theorem reached_acksInformed {world : World}
    (reached : Transitions.Reached (step C) (Uninterrupted C) World.initial world) :
    AcksInformed C world :=
  (reached.invariant initial_sound fun _ _ _ sound uninterrupted taken =>
    step_sound sound uninterrupted taken).acks

/-! Runs that are checked step by step. -/

instance (world : World) (messageId : String) : Decidable (Informed C world messageId) :=
  inferInstanceAs (Decidable (_ ∨ _))

instance (world : World) (stored : String) : Decidable (Known C world stored) :=
  inferInstanceAs (Decidable (∃ body ∈ world.told ++ world.dead, ∃ messageId ∈ messageIdOf C body,
    storedMessageId messageId = stored))

instance (world : World) : Decidable (Settled C world) :=
  inferInstanceAs (Decidable (∀ record ∈ world.records, Known C world record.messageId))

instance (world : World) (notifyNo : String) : Decidable (Unissued C world notifyNo) :=
  inferInstanceAs (Decidable (∀ record ∈ world.records, _ ≠ _))

instance (world : World) (messageId : String) : Decidable (Distinguished C world messageId) :=
  inferInstanceAs (Decidable (∀ record ∈ world.records, _ → _ ∧ ∀ body ∈ world.told ++ world.dead,
    ∀ other ∈ messageIdOf C body, storedMessageId other = record.messageId → other = messageId))

/-- What `Uninterrupted` asks for a call, as a test. -/
def callAllowed (C : ConsumerPlatform) (world : World) (turn : Turn) (delivery : Delivery)
    (alive : Bool) : Request → Bool
  | .nextId => match turn.nextId with
    | some id => decide (Unissued C world id)
    | none => decide (Settled C world)
  | .insertWithDedup notifyNo messageId orderNo targetUrl =>
    let called := exec C world delivery alive turn
      (.insertWithDedup notifyNo messageId orderNo targetUrl)
    decide (Distinguished C world messageId) && (called.2.isOk || decide (Settled C called.1))
  | .basicNack => alive || decide (Settled C world)
  | r =>
    let called := exec C world delivery alive turn r
    called.2.isOk || decide (Settled C called.1)

/-- `Uninterrupted` as a test. -/
def allowed (C : ConsumerPlatform) (world : World) : Event → Bool
  | .crash => decide (Settled C world)
  | .perform turn => match world.thread with
    | .handling delivery alive (.call r _) => callAllowed C world turn delivery alive r
    | _ => true
  | _ => true

/-- The decidable form of the condition: a test of the world and the turn, call by call, that
a run on fixed inputs can evaluate. -/
theorem allowed_uninterrupted {world : World} {event : Event}
    (passed : allowed C world event = true) : Uninterrupted C world event := by
  cases event with
  | crash =>
    have settled : Settled C world := of_decide_eq_true passed
    exact settled
  | perform turn =>
    intro delivery alive r k here
    simp only [allowed, here] at passed
    have settledAfter (fine : ((exec C world delivery alive turn r).2.isOk ||
        decide (Settled C (exec C world delivery alive turn r).1)) = true) :
        ∀ fault, (exec C world delivery alive turn r).2 = .error fault →
          Settled C (exec C world delivery alive turn r).1 := by
      intro fault thrown
      simpa [thrown, Except.isOk, Except.toBool] using fine
    cases r with
    | nextId =>
      simp only [callAllowed] at passed
      cases given : turn.nextId with
      | some id =>
        rw [given] at passed
        refine ⟨?_, by simp, ?_, by simp⟩
        · intro fault thrown
          simp [exec, given] at thrown
        · intro _ other member
          cases Option.mem_some.mp member
          exact of_decide_eq_true passed
      | none =>
        rw [given] at passed
        exact ⟨fun _ _ => of_decide_eq_true passed, by simp, by simp, by simp⟩
    | insertWithDedup notifyNo messageId orderNo targetUrl =>
      simp only [callAllowed, Bool.and_eq_true] at passed
      refine ⟨settledAfter passed.2, by simp, by simp, ?_⟩
      intro _ _ _ _ same
      cases same
      exact of_decide_eq_true passed.1
    | basicNack =>
      simp only [callAllowed, Bool.or_eq_true, decide_eq_true_eq] at passed
      refine ⟨?_, ?_, by simp, by simp⟩
      · intro fault thrown
        simp [exec] at thrown
      · intro _ lost
        exact passed.resolve_left (by simp [lost])
    | sendRequest | markSuccess | markFailed | sleep | basicAck =>
      exact ⟨settledAfter passed, by simp, by simp, by simp⟩
  | publish | subscribe | deliver | lose => trivial

/-- The bytes of an order's message, `m1` for the order `o1`. -/
def paidBody : List UInt8 :=
  [123, 34, 109, 101, 115, 115, 97, 103, 101, 73, 100, 34, 58, 34, 109, 49, 34, 44, 34, 111, 114,
    100, 101, 114, 78, 111, 34, 58, 34, 111, 49, 34, 125]

/-- A reader that knows this message. -/
def desk : ConsumerPlatform where
  parseFromStream bytes :=
    .ok (if bytes = paidBody then
      some (.obj [("messageId", .str "m1"), ("orderNo", .str "o1")]) else none)
  collate text := text
  notifyBaseUrl := "http://127.0.0.1:8080"

/-- A call that returns. -/
def quiet : Turn := ⟨none, none, false, none⟩

/-- From the subscription to the insert of one delivery. -/
def receiving (id : String) : List Event :=
  [.subscribe, .deliver, .perform { quiet with nextId := some id }, .perform quiet]

/-- The merchant accepts, the process dies before the acknowledgement, and the
redelivery is acknowledged as a duplicate. -/
theorem desk_acksInformed : ∃ world,
    Transitions.Reached (step desk) (Uninterrupted desk) World.initial world ∧
      world.acked = [paidBody] ∧ AcksInformed desk world := by
  have ran : ((Transitions.runWhere (step desk) (allowed desk) World.initial
      (.publish paidBody :: receiving "n1" ++
        [.perform { quiet with merchant := some (200, "ok"), received := true }, .crash] ++
        receiving "n2" ++ [.perform quiet])).map World.acked) = some [paidBody] := by
    decide +kernel
  obtain ⟨world, last, acked⟩ := Option.map_eq_some_iff.mp ran
  have reached := Transitions.Reached.of_runWhere
    (fun world event => allowed_uninterrupted (C := desk)) .initial last
  exact ⟨world, reached, acked, reached_acksInformed reached⟩

/-- The process dies between the insert and the notification: the redelivery finds
the row and is acknowledged, though the merchant never heard of the message and no
copy of it is in the dead letter queue. -/
theorem desk_unannounced : ∃ world,
    Transitions.Reached (step desk) (fun _ _ => True) World.initial world ∧
      ¬AcksInformed desk world := by
  have ran : ((Transitions.runWhere (step desk) (fun _ _ => true) World.initial
      (.publish paidBody :: receiving "n1" ++ .crash :: receiving "n2" ++ [.perform quiet])).map
        fun world => (world.acked, world.told, world.dead)) = some ([paidBody], [], []) := by
    decide +kernel
  obtain ⟨world, last, histories⟩ := Option.map_eq_some_iff.mp ran
  obtain ⟨acked, told, dead⟩ : world.acked = [paidBody] ∧ world.told = [] ∧ world.dead = [] := by
    simpa using histories
  refine ⟨world, .of_runWhere (fun _ _ _ => trivial) .initial last, fun informed => ?_⟩
  obtain ⟨messageId, -, known⟩ := informed paidBody (by simp [acked])
  simp [Informed, told, dead] at known

end NotifyConsumer

end TradeReconcile
