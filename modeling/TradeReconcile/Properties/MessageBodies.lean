import TradeReconcile.Messaging.NotifyConsumer
import TradeReconcile.Transitions

/-!
# Message bodies

Which bodies the consumer survives. Nothing above `process` catches an exception, and three
of jsoncpp's functions throw: the reader, `isMember` on a value that is neither an object nor
null, and `asString` on an array or an object. `process` asks for the two required members
before it converts anything.
-/

namespace TradeReconcile

open Scripts

namespace Json

/-- Neither an array nor an object. -/
def isScalar : Json → Bool
  | .arr _ => false
  | .obj _ => false
  | _ => true

/-- An object with this member. -/
def has (json : Json) (key : String) : Bool :=
  match json with
  | .obj members => members.any fun member => member.1 == key
  | _ => false

/-- On an object `isMember` does not throw. -/
theorem isMember_obj (key : String) (members : List (String × Json)) :
    (Json.obj members).isMember key = .ok ((Json.obj members).has key) := rfl

/-- The scalars are what can be read as a text. -/
theorem asString_isOk (json : Json) : json.asString.isOk = json.isScalar := by
  cases json <;> rfl

/-- A scalar is read as a text. -/
theorem asString_of_isScalar {json : Json} (scalar : json.isScalar = true) :
    ∃ text, json.asString = .ok text := by
  rw [← asString_isOk] at scalar
  cases read : json.asString with
  | error fault => simp [read, Except.isOk, Except.toBool] at scalar
  | ok text => exact ⟨text, rfl⟩

/-- An array or an object is not. -/
theorem asString_of_not_isScalar {json : Json} (structured : ¬json.isScalar = true) :
    ∃ fault, json.asString = .error fault := by
  rw [← asString_isOk] at structured
  cases read : json.asString with
  | error fault => exact ⟨fault, rfl⟩
  | ok text => simp [read, Except.isOk, Except.toBool] at structured

/-- An object without a required member, or one whose members are scalars; or null. These are
the bodies whose reading does not throw. -/
def isDigestible : Json → Bool
  | .null => true
  | .obj members =>
    let json := Json.obj members
    !(json.has "messageId" && json.has "orderNo") ||
      ((json.member "messageId").isScalar && (json.member "orderNo").isScalar &&
        (!json.has "amount" || (json.member "amount").isScalar))
  | _ => false

/-- An object with both required members, either of them a scalar. -/
def isUsable (json : Json) : Bool :=
  json.has "messageId" && json.has "orderNo" && (json.member "messageId").isScalar &&
    (json.member "orderNo").isScalar

end Json

namespace NotifyConsumer

/-- The reader takes the body for something that the consumer can go through. -/
def Digestible (C : ConsumerPlatform) (body : List UInt8) : Prop :=
  C.parseFromStream body = .ok none ∨
    ∃ json, C.parseFromStream body = .ok (some json) ∧ json.isDigestible = true

/-- A JSON object with usable `messageId` and `orderNo`. -/
def Usable (C : ConsumerPlatform) (body : List UInt8) : Prop :=
  ∃ json, C.parseFromStream body = .ok (some json) ∧ json.isUsable = true

/-! The start of `process`. -/

section Reading

variable {C : ConsumerPlatform} {body : List UInt8}

/-- Only an object without a required member, and null, are set aside without reading on. -/
theorem readMessage_incomplete {json : Json} (parsed : C.parseFromStream body = .ok (some json))
    (digestible : json.isDigestible = true)
    (incomplete : ¬(json.has "messageId" = true ∧ json.has "orderNo" = true)) :
    readMessage C body = .ok none := by
  rw [readMessage, parsed]
  cases json with
  | null => rfl
  | obj members =>
    by_cases first : (Json.obj members).has "messageId" = true
    · have second : (Json.obj members).has "orderNo" = false := by
        simpa [first] using incomplete
      simp [bind, Except.bind, pure, Except.pure, Json.isMember_obj, first, second]
    · simp [bind, Except.bind, pure, Except.pure, Json.isMember_obj, first]
  | _ => cases digestible

/-- The optional amount. -/
def amountOf (json : Json) : Except Fault String :=
  if json.has "amount" then (json.member "amount").asString else .ok ""

/-- An object with both required members is read member by member. -/
theorem readMessage_complete {json : Json} (parsed : C.parseFromStream body = .ok (some json))
    (complete : json.has "messageId" = true ∧ json.has "orderNo" = true) :
    readMessage C body = do
      let messageId ← (json.member "messageId").asString
      let orderNo ← (json.member "orderNo").asString
      let amount ← amountOf json
      return some ⟨messageId, orderNo, amount⟩ := by
  rw [readMessage, parsed]
  cases json with
  | obj members =>
    unfold amountOf
    cases amount : (Json.obj members).has "amount" <;>
      simp [bind, Except.bind, pure, Except.pure, Json.isMember_obj, complete.1, complete.2, amount]
  | _ => cases complete.1

/-- Any other value throws. -/
theorem readMessage_structured {json : Json} (parsed : C.parseFromStream body = .ok (some json))
    (indigestible : ¬json.isDigestible = true)
    (incomplete : ¬(json.has "messageId" = true ∧ json.has "orderNo" = true)) :
    ∃ fault, readMessage C body = .error fault := by
  rw [readMessage, parsed]
  cases json with
  | null => exact absurd rfl indigestible
  | obj members => simp [Json.isDigestible] at indigestible; simp [indigestible] at incomplete
  | _ => exact ⟨.std, rfl⟩

/-- With both required members the rest is a matter of scalars. -/
theorem isDigestible_complete {json : Json}
    (complete : json.has "messageId" = true ∧ json.has "orderNo" = true) :
    json.isDigestible = true ↔ (json.member "messageId").isScalar = true ∧
      (json.member "orderNo").isScalar = true ∧
      (json.has "amount" = true → (json.member "amount").isScalar = true) := by
  cases json with
  | obj members =>
    simp only [Json.isDigestible, complete.1, complete.2]
    cases (Json.obj members).has "amount" <;> simp [and_assoc]
  | _ => cases complete.1

/-- An amount that is there and a scalar is read, and a missing one is empty. -/
theorem amountOf_ok {json : Json}
    (scalar : json.has "amount" = true → (json.member "amount").isScalar = true) :
    ∃ amount, amountOf json = .ok amount := by
  unfold amountOf
  by_cases given : json.has "amount" = true
  · rw [if_pos given]
    exact Json.asString_of_isScalar (scalar given)
  · exact ⟨"", if_neg given⟩

/-- A complete object with scalars is a message. -/
theorem readMessage_scalars {json : Json} (parsed : C.parseFromStream body = .ok (some json))
    (complete : json.has "messageId" = true ∧ json.has "orderNo" = true)
    (digestible : json.isDigestible = true) : ∃ message, readMessage C body = .ok (some message) := by
  obtain ⟨first, second, third⟩ := (isDigestible_complete complete).mp digestible
  obtain ⟨messageId, firstRead⟩ := Json.asString_of_isScalar first
  obtain ⟨orderNo, secondRead⟩ := Json.asString_of_isScalar second
  obtain ⟨amount, thirdRead⟩ := amountOf_ok third
  rw [readMessage_complete parsed complete, firstRead, secondRead, thirdRead]
  exact ⟨⟨messageId, orderNo, amount⟩, rfl⟩

/-- A complete object without them throws: one of the three conversions meets a value it does
not convert. A body that is not complete is refused before that. -/
theorem readMessage_member {json : Json} (parsed : C.parseFromStream body = .ok (some json))
    (complete : json.has "messageId" = true ∧ json.has "orderNo" = true)
    (indigestible : ¬json.isDigestible = true) : ∃ fault, readMessage C body = .error fault := by
  rw [isDigestible_complete complete] at indigestible
  rw [readMessage_complete parsed complete]
  by_cases first : (json.member "messageId").isScalar = true
  · obtain ⟨messageId, firstRead⟩ := Json.asString_of_isScalar first
    rw [firstRead]
    by_cases second : (json.member "orderNo").isScalar = true
    · obtain ⟨orderNo, secondRead⟩ := Json.asString_of_isScalar second
      rw [secondRead]
      have amount : json.has "amount" = true ∧ ¬(json.member "amount").isScalar = true := by
        simpa [first, second] using indigestible
      obtain ⟨fault, thirdRead⟩ := Json.asString_of_not_isScalar amount.2
      rw [amountOf, if_pos amount.1, thirdRead]
      exact ⟨fault, rfl⟩
    · obtain ⟨fault, secondRead⟩ := Json.asString_of_not_isScalar second
      rw [secondRead]
      exact ⟨fault, rfl⟩
  · obtain ⟨fault, firstRead⟩ := Json.asString_of_not_isScalar first
    rw [firstRead]
    exact ⟨fault, rfl⟩

/-- The three outcomes of reading a body: it throws, the body is set aside, or it is a
message. Together with `isDigestible` they cover every body. -/
theorem readMessage_cases (C : ConsumerPlatform) (body : List UInt8) :
    (¬Digestible C body ∧ ∃ fault, readMessage C body = .error fault) ∨
    (Digestible C body ∧ ¬Usable C body ∧ readMessage C body = .ok none) ∨
    (Digestible C body ∧ Usable C body ∧ ∃ message, readMessage C body = .ok (some message)) := by
  cases parsed : C.parseFromStream body with
  | error fault =>
    refine .inl ⟨by simp [Digestible, parsed], fault, ?_⟩
    rw [readMessage, parsed]
    rfl
  | ok value =>
    cases value with
    | none =>
      refine .inr (.inl ⟨.inl parsed, by simp [Usable, parsed], ?_⟩)
      rw [readMessage, parsed]
      rfl
    | some json =>
      have digestible : Digestible C body ↔ json.isDigestible = true := by
        simp [Digestible, parsed]
      have usable : Usable C body ↔ json.isUsable = true := by
        simp [Usable, parsed]
      rw [digestible, usable]
      -- The conversions are reached only when both required members are there.
      by_cases complete : json.has "messageId" = true ∧ json.has "orderNo" = true
      · by_cases scalars : json.isDigestible = true
        · have both := (isDigestible_complete complete).mp scalars
          refine .inr (.inr ⟨scalars, ?_, readMessage_scalars parsed complete scalars⟩)
          simp [Json.isUsable, complete, both]
        · exact .inl ⟨scalars, readMessage_member parsed complete scalars⟩
      · by_cases object : json.isDigestible = true
        · refine .inr (.inl ⟨object, ?_, readMessage_incomplete parsed object complete⟩)
          simp only [Json.isUsable, Bool.and_eq_true]
          tauto
        · exact .inl ⟨object, readMessage_structured parsed object complete⟩

end Reading

/-! Calls that do not throw. -/

/-- Every call returns, with any reply; the state lists the calls made so far. -/
def unfailing : Protocol Request (fun r => Except Fault (Reply r)) (List Request) where
  permits _ _ := True
  answers _ reply := ∃ value, reply = .ok value
  after made r _ := made ++ [r]

/-- An acknowledgement or a rejection. -/
def isAnswer : Request → Bool
  | .basicAck => true
  | .basicNack => true
  | _ => false

/-- The body is handled as it should be: `process` returns, the message is answered once, and a
body that is not usable goes to the dead letter queue without further calls. -/
structure Survives (C : ConsumerPlatform) (body : List UInt8) : Prop where
  returns : Script.Follows unfailing (fun _ outcome => ∃ processed, outcome = .ok processed) []
    (process C body)
  answered : Script.Follows unfailing (fun made outcome => outcome = .ok () ∧
    made.countP isAnswer = 1) [] (handleMessage C body)
  rejected : ¬Usable C body → Script.Follows unfailing (fun made outcome => outcome = .ok () ∧
    made = [.basicNack]) [] (handleMessage C body)

/-- What `process` leaves to the answer. -/
def Unanswered (made : List Request) (outcome : Except Fault Bool) : Prop :=
  (∃ processed, outcome = .ok processed) ∧ made.countP isAnswer = 0

/-- Processing a message answers nothing. -/
theorem processMessage_unanswered (C : ConsumerPlatform) (message : Message) :
    Script.Follows unfailing Unanswered [] (processMessage C message) := by
  apply processMessage_follows C message trivial
  · intro notifyNo _
    refine ⟨fun made => made.countP isAnswer = 0, ?_, rfl⟩
    constructor
    case permitted => exact fun _ _ _ _ => trivial
    case returned =>
      intro made r value none own _
      cases r with
      | basicAck => exact own.elim
      | basicNack => exact own.elim
      | _ => simpa [unfailing, isAnswer] using none
    case thrown =>
      rintro made r fault _ _ ⟨value, impossible⟩
      cases impossible
    case ends => exact fun made processed none => ⟨⟨processed, rfl⟩, none⟩
  · rintro fault ⟨value, impossible⟩
    cases impossible

/-- The answer is one, whichever it is. -/
theorem answer_answers {made : List Request} (none : made.countP isAnswer = 0) (processed : Bool) :
    Script.Follows unfailing (fun made outcome => outcome = .ok () ∧ made.countP isAnswer = 1) made
      (answer processed) := by
  cases processed with
  | true =>
    refine ⟨trivial, ?_⟩
    rintro _ ⟨value, rfl⟩
    exact ⟨rfl, by simp [unfailing, none, isAnswer]⟩
  | false =>
    refine ⟨trivial, ?_⟩
    rintro _ ⟨value, rfl⟩
    exact ⟨rfl, by simp [unfailing, none, isAnswer]⟩

/-- A body that was set aside is rejected at once. -/
theorem rejected_survives {C : ConsumerPlatform} {body : List UInt8}
    (aside : readMessage C body = .ok none) : Survives C body := by
  have rejects : Script.Follows unfailing (fun made outcome => outcome = .ok () ∧
      made = [.basicNack]) [] (handleMessage C body) := by
    rw [handleMessage, process, aside]
    refine ⟨trivial, ?_⟩
    rintro _ ⟨value, rfl⟩
    exact ⟨rfl, rfl⟩
  constructor
  case returns =>
    rw [process, aside]
    exact ⟨false, rfl⟩
  case answered =>
    apply rejects.mono
    rintro made outcome ⟨returned, rfl⟩
    exact ⟨returned, rfl⟩
  case rejected => exact fun _ => rejects

/-- A message that was read is processed and then answered. -/
theorem read_survives {C : ConsumerPlatform} {body : List UInt8} {message : Message}
    (read : readMessage C body = .ok (some message)) (usable : Usable C body) : Survives C body := by
  have unanswered : Script.Follows unfailing Unanswered [] (process C body) := by
    rw [process, read]
    exact processMessage_unanswered C message
  constructor
  case returns =>
    apply unanswered.mono
    rintro made outcome ⟨returned, -⟩
    exact returned
  case answered =>
    apply follows_bind
    apply unanswered.mono
    rintro made outcome ⟨⟨processed, rfl⟩, none⟩
    exact answer_answers none processed
  case rejected => exact fun unusable => absurd usable unusable

/-- A digestible body: set aside, or handled to its one answer. -/
theorem digestible_survives {C : ConsumerPlatform} {body : List UInt8}
    (digestible : Digestible C body) : Survives C body := by
  obtain ⟨indigestible, -⟩ | ⟨-, -, aside⟩ | ⟨-, usable, message, read⟩ := readMessage_cases C body
  · exact absurd digestible indigestible
  · exact rejected_survives aside
  · exact read_survives read usable

/-- The exception of the start of `process` leaves it. -/
theorem indigestible_throws {C : ConsumerPlatform} {body : List UInt8}
    (indigestible : ¬Digestible C body) : ∃ fault, process C body = throw fault := by
  obtain ⟨-, fault, thrown⟩ | ⟨digestible, -⟩ | ⟨digestible, -⟩ := readMessage_cases C body
  · refine ⟨fault, ?_⟩
    rw [process, thrown]
  · exact absurd digestible indigestible
  · exact absurd digestible indigestible

/-- The consumer survives exactly the digestible bodies. Every body is meant, and every reader
of it: the other ones, objects aside, make `isMember` or `asString` throw where no handler
stands. -/
theorem survives_iff (C : ConsumerPlatform) (body : List UInt8) :
    Survives C body ↔ Digestible C body := by
  constructor
  · intro survives
    by_contra indigestible
    obtain ⟨fault, thrown⟩ := indigestible_throws indigestible
    have returns := survives.returns
    rw [thrown] at returns
    obtain ⟨processed, impossible⟩ := returns
    cases impossible
  · exact digestible_survives

/-- A reader that knows the body `[]` and takes anything else for malformed. -/
def emptyArray : ConsumerPlatform where
  parseFromStream body := if body = [91, 93] then .ok (some (.arr [])) else .ok none
  collate := id
  notifyBaseUrl := "http://127.0.0.1:8080"

/-- The two bytes of an empty array end the process, since `isMember` throws on it. -/
theorem emptyArray_kills : ¬Survives emptyArray [91, 93] := by
  intro survives
  obtain ⟨processed, impossible⟩ := survives.returns
  cases impossible

/-! Whole runs. -/

/-- A body that is not digestible is delivered, ends the process and is back in the queue. -/
theorem indigestible_returns {C : ConsumerPlatform} {world : World} {body : List UInt8}
    {rest : List (List UInt8)} (waiting : world.thread = .waiting)
    (queued : world.ready = body :: rest) (indigestible : ¬Digestible C body) :
    ∃ next, step C world .deliver = some next ∧ next.thread = .disconnected ∧
      next.ready = world.unacked.map Delivery.body ++ body :: rest := by
  obtain ⟨fault, thrown⟩ := indigestible_throws indigestible
  have ends : handleMessage C body = .done (.error fault) := by
    rw [handleMessage, thrown]
    rfl
  let delivery : Delivery := ⟨world.nextTag, body⟩
  let delivered : World := { world with
    ready := rest, unacked := world.unacked ++ [delivery], nextTag := world.nextTag + 1 }
  have taken : step C world .deliver = some delivered.restart := by
    simp only [step, waiting, queued, ends]
    rfl
  refine ⟨delivered.restart, taken, rfl, ?_⟩
  simp [delivered, delivery, World.restart, World.requeue]

/-- Digestible bodies only, no call that throws, and no death of another cause. It speaks of
the step alone and not of what the handler will do. -/
def Calm (C : ConsumerPlatform) (world : World) : Event → Prop
  | .publish body => Digestible C body
  | .perform turn => ∀ delivery alive r k, world.thread = .handling delivery alive (.call r k) →
    ∃ value, (exec C world delivery alive turn r).2 = .ok value
  | .crash => False
  | _ => True

/-- What is queued is digestible, and the handler at work will return, whatever its calls are
answered. -/
structure Tame (C : ConsumerPlatform) (world : World) : Prop where
  ready : ∀ body ∈ world.ready, Digestible C body
  unacked : ∀ delivery ∈ world.unacked, Digestible C delivery.body
  running : ∀ delivery alive rest, world.thread = .handling delivery alive rest →
    ∃ made, Script.Follows unfailing (fun _ outcome => outcome = .ok ()) made rest

/-- A call takes nothing from the queue, and nothing back: only an answer changes what is
unacknowledged, and it can only shrink that. -/
theorem exec_queue (C : ConsumerPlatform) (world : World) (delivery : Delivery) (alive : Bool)
    (turn : Turn) (r : Request) :
    (exec C world delivery alive turn r).1.ready = world.ready ∧
      (exec C world delivery alive turn r).1.unacked ⊆ world.unacked := by
  have same : world.ready = world.ready ∧ world.unacked ⊆ world.unacked :=
    ⟨rfl, List.Subset.refl _⟩
  -- A call that may throw leaves one of two worlds.
  have either : ∀ {after : World}, after.ready = world.ready ∧ after.unacked ⊆ world.unacked →
      ∀ {actual : World}, actual = world ∨ actual = after →
        actual.ready = world.ready ∧ actual.unacked ⊆ world.unacked := by
    rintro after kept actual (rfl | rfl)
    · exact same
    · exact kept
  cases r with
  | nextId | sleep => exact same
  | insertWithDedup notifyNo messageId orderNo targetUrl =>
    apply either _ (attempt_world turn.thrown world _ _)
    obtain unchanged | ⟨-, unchanged⟩ | inserted := insertRecord_cases C.collate world
      (newRecord notifyNo messageId orderNo targetUrl)
    · rw [unchanged]
      exact same
    · rw [unchanged]
      exact same
    · rw [inserted]
      exact same
  | sendRequest =>
    apply either _ (attempt_world turn.thrown world _ _)
    unfold World.tell
    split
    · exact same
    · exact same
  | markSuccess notifyNo responseBody =>
    apply either _ (mark_world C.collate world turn notifyNo responseBody _)
    exact same
  | markFailed notifyNo retryCount responseBody =>
    apply either _ (mark_world C.collate world turn notifyNo responseBody _)
    exact same
  | basicAck =>
    cases alive with
    | true => exact ⟨rfl, List.erase_subset⟩
    | false => exact same
  | basicNack =>
    cases alive with
    | true => exact ⟨rfl, List.erase_subset⟩
    | false => exact same

/-- A handler that returns goes on or ends with the next delivery. -/
theorem Tame.resume {C : ConsumerPlatform} {world : World} {delivery : Delivery} {alive : Bool}
    {rest : Script Request (fun r => Except Fault (Reply r)) (Except Fault Unit)}
    {made : List Request}
    (ready : ∀ body ∈ world.ready, Digestible C body)
    (unacked : ∀ delivery ∈ world.unacked, Digestible C delivery.body)
    (follows : Script.Follows unfailing (fun _ outcome => outcome = .ok ()) made rest) :
    Tame C (world.resume delivery alive rest) ∧
      (world.resume delivery alive rest).ready = world.ready := by
  cases rest with
  | done outcome =>
    obtain rfl : outcome = .ok () := follows
    refine ⟨⟨ready, unacked, ?_⟩, rfl⟩
    intro _ _ _ here
    cases alive <;> cases here
  | call r k =>
    refine ⟨⟨ready, unacked, ?_⟩, rfl⟩
    rintro _ _ _ ⟨⟩
    exact ⟨made, follows⟩

/-- What the broker takes back is digestible. -/
theorem Tame.requeue {C : ConsumerPlatform} {world : World} (tame : Tame C world) :
    (∀ body ∈ world.requeue.ready, Digestible C body) ∧
      ∀ delivery ∈ world.requeue.unacked, Digestible C delivery.body := by
  constructor
  · intro body member
    obtain returned | queued := List.mem_append.mp member
    · obtain ⟨delivery, delivered, rfl⟩ := List.mem_map.mp returned
      exact tame.unacked delivery delivered
    · exact tame.ready body queued
  · intro delivery member
    cases member

/-- A restart finds the bodies it left. -/
theorem Tame.restart {C : ConsumerPlatform} {world : World} (tame : Tame C world) :
    Tame C world.restart := by
  obtain ⟨ready, unacked⟩ := tame.requeue
  refine ⟨ready, unacked, ?_⟩
  rintro _ _ _ ⟨⟩

/-- A delivery starts a handler that returns. Its body is digestible by the condition, and the
queue has one body less. -/
theorem deliver_tame {C : ConsumerPlatform} {world next : World} (tame : Tame C world)
    (taken : step C world .deliver = some next) :
    Tame C next ∧ next.ready = world.ready.tail := by
  simp only [step] at taken
  split at taken
  · rename_i body rest waiting queued
    have digestible : Digestible C body := tame.ready body (by simp [queued])
    have follows : Script.Follows unfailing (fun _ outcome => outcome = .ok ()) []
        (handleMessage C body) := by
      apply (digestible_survives digestible).answered.mono
      rintro made outcome ⟨returned, -⟩
      exact returned
    obtain rfl := Option.some.inj taken
    rw [queued, List.tail_cons]
    apply Tame.resume _ _ follows
    · intro other member
      exact tame.ready other (by simp [queued, member])
    · intro delivery member
      obtain old | new := List.mem_append.mp member
      · exact tame.unacked delivery old
      · rw [List.mem_singleton.mp new]
        exact digestible
  · cases taken

/-- A call of a calm run leads to calm states, and takes nothing back into the queue. -/
theorem perform_tame {C : ConsumerPlatform} {world next : World} {turn : Turn} (tame : Tame C world)
    (calm : Calm C world (.perform turn)) (taken : step C world (.perform turn) = some next) :
    Tame C next ∧ next.ready = world.ready := by
  simp only [step] at taken
  split at taken
  · rename_i delivery alive r k here
    obtain ⟨made, -, continues⟩ := tame.running delivery alive _ here
    obtain ⟨value, returned⟩ := calm delivery alive r k here
    obtain ⟨ready, unacked⟩ := exec_queue C world delivery alive turn r
    obtain rfl := Option.some.inj taken
    rw [← ready]
    apply Tame.resume _ _ (continues _ ⟨value, returned⟩)
    · rw [ready]
      exact tame.ready
    · intro delivery member
      exact tame.unacked delivery (unacked member)
  · cases taken

/-- A lost connection returns a body that is digestible. -/
theorem lose_tame {C : ConsumerPlatform} {world next : World} (tame : Tame C world)
    (taken : step C world .lose = some next) : Tame C next := by
  simp only [step] at taken
  split at taken
  · obtain rfl := Option.some.inj taken
    exact tame.restart
  · rename_i delivery rest here
    obtain rfl := Option.some.inj taken
    obtain ⟨ready, unacked⟩ := tame.requeue
    refine ⟨ready, unacked, ?_⟩
    rintro _ _ _ ⟨⟩
    exact tame.running delivery true rest here
  · cases taken

/-- A calm step keeps the queue tame. Only a delivery looks at a body, and only a publication
adds one, which the condition speaks of. -/
theorem step_tame {C : ConsumerPlatform} {world next : World} {event : Event} (tame : Tame C world)
    (calm : Calm C world event) (taken : step C world event = some next) : Tame C next := by
  cases event with
  | publish body =>
    obtain rfl := Option.some.inj taken
    refine ⟨?_, tame.unacked, tame.running⟩
    intro queued member
    obtain old | new := List.mem_append.mp member
    · exact tame.ready queued old
    · rw [List.mem_singleton.mp new]
      exact calm
  | subscribe =>
    simp only [step] at taken
    split at taken
    · obtain rfl := Option.some.inj taken
      refine ⟨tame.ready, tame.unacked, ?_⟩
      rintro _ _ _ ⟨⟩
    · cases taken
  | deliver => exact (deliver_tame tame taken).1
  | perform turn => exact (perform_tame tame calm taken).1
  | lose => exact lose_tame tame taken
  | crash => exact calm.elim

/-- An empty queue. -/
theorem initial_tame (C : ConsumerPlatform) : Tame C .initial := by
  constructor
  case ready => simp [World.initial]
  case unacked => simp [World.initial]
  case running => rintro _ _ _ ⟨⟩

/-- In a calm run the consumer takes its messages from the queue for good: neither a delivery
nor any call of its handler ends the process and puts a message back. -/
theorem reached_consumes {C : ConsumerPlatform} {world : World}
    (reached : Transitions.Reached (step C) (Calm C) .initial world) :
    (∀ next, step C world .deliver = some next → next.ready = world.ready.tail) ∧
      ∀ turn next, Calm C world (.perform turn) → step C world (.perform turn) = some next →
        next.ready = world.ready := by
  have tame : Tame C world :=
    reached.invariant (initial_tame C) fun _ _ _ tame calm taken => step_tame tame calm taken
  exact ⟨fun next taken => (deliver_tame tame taken).2,
    fun turn next calm taken => (perform_tame tame calm taken).2⟩

end NotifyConsumer

end TradeReconcile
