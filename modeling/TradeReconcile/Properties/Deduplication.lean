import TradeReconcile.Properties.Notifications

/-!
# One delivery of a message does the work

The deduplication row is inserted before the merchant is contacted and is never
removed, so of all deliveries of a message only the one whose insert stored the row
goes on to the merchant, whenever the process dies. The closing updates go by notify
number; they find the row of the message at hand because numbers are not handed out
twice. What a row says about the notifications therefore follows from what its one
handler has sent.
-/

namespace TradeReconcile

namespace NotifyConsumer

open Scripts

variable {C : ConsumerPlatform}

/-- A notification for the message of a delivery, with the response that came back. -/
structure Notification where
  body : List UInt8
  response : Option (Nat × String)

/-- The system with the message ids for which `process` got past the insert and the
notifications that were sent, in order. -/
structure Journal where
  world : World
  passed : List String
  sent : List Notification

/-- Before the first delivery. -/
def Journal.initial : Journal := ⟨.initial, [], []⟩

/-- `process` goes on after an insert that affected one row. The entry is the id the row
is stored under. -/
def passing : (r : Request) → Except Fault (Reply r) → List String
  | .insertWithDedup _ messageId _ _, .ok affectedRows =>
    if (affectedRows : Nat) = 1 then [storedMessageId messageId] else []
  | _, _ => []

/-- Every call that sends a request counts, also one that throws. -/
def notifications (body : List UInt8) : (r : Request) → Except Fault (Reply r) → List Notification
  | .sendRequest _ _ _, .ok response => [⟨body, response⟩]
  | .sendRequest _ _ _, .error _ => [⟨body, none⟩]
  | _, _ => []

/-- One step of the system, entered into the history: what was sent to the merchant, with the
response, and which messages got their row. -/
def follow (C : ConsumerPlatform) (journal : Journal) (event : Event) : Option Journal :=
  (step C journal.world event).map fun next =>
    match event, journal.world.thread with
    | .perform turn, .handling delivery alive (.call r _) =>
      let reply := (exec C journal.world delivery alive turn r).2
      ⟨next, journal.passed ++ passing r reply,
        journal.sent ++ notifications delivery.body r reply⟩
    | _, _ => ⟨next, journal.passed, journal.sent⟩

/-- The id under which the table stores a body's message. Ids that differ in nothing but
spaces past the column's end have one row among them. -/
def storedIdOf (C : ConsumerPlatform) (body : List UInt8) : Option String :=
  (messageIdOf C body).map storedMessageId

/-- The responses to the notifications for the messages that are stored under an id. -/
def responses (C : ConsumerPlatform) (sent : List Notification) (messageId : String) :
    List (Option (Nat × String)) :=
  (sent.filter fun note => storedIdOf C note.body = some messageId).map Notification.response

/-- Notify numbers are not handed out twice. -/
def Numbered (C : ConsumerPlatform) (journal : Journal) : Event → Prop
  | .perform turn => ∀ delivery alive k,
    journal.world.thread = .handling delivery alive (.call .nextId k) →
      ∀ id ∈ turn.nextId, Unissued C journal.world id
  | _ => True

/-- What holds of a message id as the table stores it: one delivery at most got past the
insert, of all messages stored so; at most three notifications were sent, all for one
body; there is at most one row, and its status tells what came of the notifications. -/
structure ProcessedOnce (C : ConsumerPlatform) (journal : Journal) (messageId : String) : Prop where
  passed : journal.passed.count messageId ≤ 1
  few : (responses C journal.sent messageId).length ≤ 3
  alone : ∀ note ∈ journal.sent, ∀ other ∈ journal.sent, storedIdOf C note.body = some messageId →
    storedIdOf C other.body = some messageId → note.body = other.body
  rows : (journal.world.records.filter (·.messageId = messageId)).length ≤ 1
  success : ∀ row ∈ journal.world.records, row.messageId = messageId → row.status = .kSuccess →
    ∃ response, (responses C journal.sent messageId).getLast? = some response ∧
      (accepted response).isSome
  failed : ∀ row ∈ journal.world.records, row.messageId = messageId → row.status = .kFailed →
    (responses C journal.sent messageId).length = 3 ∧
      ∀ response ∈ responses C journal.sent messageId, accepted response = none

/-- Rows stay, and their status changes from pending only. -/
def RowsMove (before after : List NotifyRecord) : Prop :=
  ∀ row ∈ before, ∃ next ∈ after, next.messageId = row.messageId ∧
    (next.status = row.status ∨
      row.status = .kPending ∧ (next.status = .kSuccess ∨ next.status = .kFailed))

/-! The invariant. -/

/-- The table and the history together: each row's status agrees with the responses recorded
for its message, and each recorded message has a row. -/
structure Ledger (C : ConsumerPlatform) (records : List NotifyRecord) (passed : List String)
    (sent : List Notification) : Prop where
  numbers : (records.map fun record => C.collate record.notifyNo).Nodup
  keys : (records.map fun record => C.collate record.messageId).Nodup
  passedStored : ∀ messageId ∈ passed, ∃ row ∈ records, row.messageId = messageId
  sentStored : ∀ note ∈ sent, ∀ messageId, storedIdOf C note.body = some messageId →
    ∃ row ∈ records, row.messageId = messageId
  alone : ∀ note ∈ sent, ∀ other ∈ sent, ∀ messageId, storedIdOf C note.body = some messageId →
    storedIdOf C other.body = some messageId → note.body = other.body
  once : ∀ messageId, passed.count messageId ≤ 1
  few : ∀ messageId, (responses C sent messageId).length ≤ 3
  success : ∀ row ∈ records, row.status = .kSuccess →
    ∃ response, (responses C sent row.messageId).getLast? = some response ∧
      (accepted response).isSome
  failed : ∀ row ∈ records, row.status = .kFailed →
    (responses C sent row.messageId).length = 3 ∧
      ∀ response ∈ responses C sent row.messageId, accepted response = none

/-- The handler has stored the row of its message, which is still pending. It is found under
the handler's notify number and the stored id of its message. -/
structure Open (C : ConsumerPlatform) (records : List NotifyRecord) (delivery : Delivery)
    (notifyNo messageId : String) : Prop where
  named : storedIdOf C delivery.body = some messageId
  pending : ∃ row ∈ records, row.notifyNo = notifyNo ∧ row.messageId = messageId ∧
    row.status = .kPending

/-- The notifications so far under a stored id: all are for the body at hand, and none
was accepted. -/
structure Rejected (C : ConsumerPlatform) (sent : List Notification) (body : List UInt8)
    (messageId : String) (count : Nat) : Prop where
  length : (responses C sent messageId).length = count
  all : ∀ response ∈ responses C sent messageId, accepted response = none
  own : ∀ note ∈ sent, storedIdOf C note.body = some messageId → note.body = body

/-- Where the consumer thread can be, with what is known there of its row and of the attempts
so far. A handler stands at one of these before each of its calls. -/
inductive Point (C : ConsumerPlatform) (records : List NotifyRecord) (sent : List Notification) :
    Thread → Prop where
  | disconnected : Point C records sent .disconnected
  | waiting : Point C records sent .waiting
  | identifying {delivery : Delivery} {alive : Bool} {message : Message} :
      readMessage C delivery.body = .ok (some message) →
      Point C records sent (.handling delivery alive (identifying C message))
  | inserting {delivery : Delivery} {alive : Bool} {message : Message} {notifyNo : String} :
      readMessage C delivery.body = .ok (some message) →
      (∀ record ∈ records, C.collate record.notifyNo ≠ C.collate notifyNo) →
      Point C records sent (.handling delivery alive (inserting C message notifyNo))
  | notifying {delivery : Delivery} {alive : Bool} {message : Message} {notifyNo : String}
      {retries : Nat} :
      Open C records delivery notifyNo (storedMessageId message.messageId) →
      retries ≤ kMaxInProcessRetries →
      Rejected C sent delivery.body (storedMessageId message.messageId)
        (kMaxInProcessRetries - retries) →
      Point C records sent (.handling delivery alive (notifying message notifyNo retries))
  | pausing {delivery : Delivery} {alive : Bool} {message : Message} {notifyNo : String}
      {retries seconds : Nat} :
      Open C records delivery notifyNo (storedMessageId message.messageId) →
      retries ≤ kMaxInProcessRetries →
      Rejected C sent delivery.body (storedMessageId message.messageId)
        (kMaxInProcessRetries - retries) →
      Point C records sent (.handling delivery alive (pausing message notifyNo retries seconds))
  | concluding {delivery : Delivery} {alive : Bool} {notifyNo messageId text : String}
      {response : Option (Nat × String)} :
      Open C records delivery notifyNo messageId →
      (responses C sent messageId).getLast? = some response → (accepted response).isSome →
      Point C records sent (.handling delivery alive (concluding notifyNo text))
  | givingUp {delivery : Delivery} {alive : Bool} {notifyNo messageId text : String} {count : Nat} :
      Open C records delivery notifyNo messageId → Rejected C sent delivery.body messageId 3 →
      Point C records sent (.handling delivery alive (givingUp notifyNo count text))
  | answering {delivery : Delivery} {alive processed : Bool} :
      Point C records sent (.handling delivery alive (answer processed))

/-- The invariant of the journal: the ledger agrees with it, and the handler stands where its
record says. -/
structure Accounted (C : ConsumerPlatform) (journal : Journal) : Prop where
  ledger : Ledger C journal.world.records journal.passed journal.sent
  point : Point C journal.world.records journal.sent journal.world.thread

/-- What one step has to establish. -/
structure Advances (C : ConsumerPlatform) (journal next : Journal) : Prop where
  accounted : Accounted C next
  moves : RowsMove journal.world.records next.world.records

/-- Rows that nobody touches. -/
theorem RowsMove.refl (records : List NotifyRecord) : RowsMove records records :=
  fun row member => ⟨row, member, rfl, .inl rfl⟩

/-- Rows move along two steps as along one. -/
theorem RowsMove.trans {one two three : List NotifyRecord} (first : RowsMove one two)
    (second : RowsMove two three) : RowsMove one three := by
  intro row member
  obtain ⟨middle, present, same, moved⟩ := first row member
  obtain ⟨last, stored, again, movedAgain⟩ := second middle present
  refine ⟨last, stored, again.trans same, ?_⟩
  rcases moved with kept | ⟨pending, closed⟩
  · rw [kept] at movedAgain
    exact movedAgain
  · rcases movedAgain with kept | ⟨open', -⟩
    · rw [kept]
      exact .inr ⟨pending, closed⟩
    · rw [open'] at closed
      rcases closed with closed | closed <;> cases closed

/-- A new row moves none of the others. -/
theorem RowsMove.append (records added : List NotifyRecord) : RowsMove records (records ++ added) :=
  fun row member => ⟨row, List.mem_append_left added member, rfl, .inl rfl⟩

/-- The responses about a message, with one more notification. -/
theorem responses_append (sent : List Notification) (note : Notification) (messageId : String) :
    responses C (sent ++ [note]) messageId = responses C sent messageId ++
      if storedIdOf C note.body = some messageId then [note.response] else [] := by
  simp only [responses, List.filter_append, List.map_append]
  congr 1
  split <;> simp [*]

/-- The stored id of a body that has been read. -/
theorem storedIdOf_eq {body : List UInt8} {message : Message}
    (read : readMessage C body = .ok (some message)) :
    storedIdOf C body = some (storedMessageId message.messageId) := by
  rw [storedIdOf, messageIdOf_eq read, Option.map_some]

/-- Where there is no row, no notification was sent. -/
theorem Ledger.unnoted {records : List NotifyRecord} {passed : List String}
    {sent : List Notification} (ledger : Ledger C records passed sent) {messageId : String}
    (absent : ∀ row ∈ records, row.messageId ≠ messageId) :
    ∀ note ∈ sent, storedIdOf C note.body ≠ some messageId := by
  intro note member named
  obtain ⟨row, stored, same⟩ := ledger.sentStored note member messageId named
  exact absent row stored same

/-- The entries of a row without a notification are empty. -/
theorem Ledger.unsent {records : List NotifyRecord} {passed : List String}
    {sent : List Notification} (ledger : Ledger C records passed sent) {messageId : String}
    (absent : ∀ row ∈ records, row.messageId ≠ messageId) : responses C sent messageId = [] := by
  simp only [responses, List.map_eq_nil_iff, List.filter_eq_nil_iff, decide_eq_true_eq]
  exact ledger.unnoted absent

/-- Of a message id there is one row. -/
theorem Ledger.row_unique {records : List NotifyRecord} {passed : List String}
    {sent : List Notification} (ledger : Ledger C records passed sent) {row other : NotifyRecord}
    (here : row ∈ records) (there : other ∈ records) (same : row.messageId = other.messageId) :
    row = other :=
  List.inj_on_of_nodup_map ledger.keys here there (congrArg C.collate same)

/-- A new row: its message has not been seen before, so nothing was sent in its name and the
entries of all other rows stay as they are. -/
theorem Ledger.inserted {records : List NotifyRecord} {passed : List String}
    {sent : List Notification} (ledger : Ledger C records passed sent) (record : NotifyRecord)
    (pending : record.status = .kPending)
    (number : ∀ row ∈ records, C.collate row.notifyNo ≠ C.collate record.notifyNo)
    (key : ∀ row ∈ records, C.collate row.messageId ≠ C.collate record.messageId) {added : List String}
    (own : added = [] ∨ added = [record.messageId]) :
    Ledger C (records ++ [record]) (passed ++ added) sent where
  numbers := by
    simp only [List.map_append, List.map_cons, List.map_nil]
    refine List.nodup_append.mpr ⟨ledger.numbers, List.nodup_singleton _, ?_⟩
    intro text member other new
    obtain ⟨row, stored, rfl⟩ := List.mem_map.mp member
    rw [List.mem_singleton.mp new]
    exact number row stored
  keys := by
    simp only [List.map_append, List.map_cons, List.map_nil]
    refine List.nodup_append.mpr ⟨ledger.keys, List.nodup_singleton _, ?_⟩
    intro text member other new
    obtain ⟨row, stored, rfl⟩ := List.mem_map.mp member
    rw [List.mem_singleton.mp new]
    exact key row stored
  passedStored := by
    intro messageId member
    rcases List.mem_append.mp member with old | new
    · obtain ⟨row, stored, same⟩ := ledger.passedStored messageId old
      exact ⟨row, List.mem_append_left _ stored, same⟩
    · refine ⟨record, by simp, ?_⟩
      rcases own with rfl | rfl
      · cases new
      · exact (List.mem_singleton.mp new).symm
  sentStored := by
    intro note member messageId named
    obtain ⟨row, stored, same⟩ := ledger.sentStored note member messageId named
    exact ⟨row, List.mem_append_left _ stored, same⟩
  alone := ledger.alone
  once := by
    intro messageId
    rw [List.count_append]
    have before := ledger.once messageId
    rcases own with rfl | rfl
    · simpa using before
    · by_cases same : record.messageId = messageId
      · have unseen : passed.count messageId = 0 := by
          refine List.count_eq_zero.mpr fun member => ?_
          obtain ⟨row, stored, named⟩ := ledger.passedStored messageId member
          exact key row stored (by rw [named, same])
        simp [unseen, same]
      · simpa [List.count_singleton, same] using before
  few := ledger.few
  success := by
    intro row member status
    rcases List.mem_append.mp member with old | new
    · exact ledger.success row old status
    · rw [List.mem_singleton.mp new, pending] at status
      cases status
  failed := by
    intro row member status
    rcases List.mem_append.mp member with old | new
    · exact ledger.failed row old status
    · rw [List.mem_singleton.mp new, pending] at status
      cases status

/-- A notification for a message whose row is pending, while there were less than
three. -/
theorem Ledger.notified {records : List NotifyRecord} {passed : List String}
    {sent : List Notification} (ledger : Ledger C records passed sent) (note : Notification)
    {messageId : String} (named : storedIdOf C note.body = some messageId) {row : NotifyRecord}
    (stored : row ∈ records) (same : row.messageId = messageId) (pending : row.status = .kPending)
    (own : ∀ other ∈ sent, storedIdOf C other.body = some messageId → other.body = note.body)
    (less : (responses C sent messageId).length < 3) :
    Ledger C records passed (sent ++ [note]) := by
  have others : ∀ other ∈ records, other.status ≠ .kPending →
      responses C (sent ++ [note]) other.messageId = responses C sent other.messageId := by
    intro other member closed
    have apart : storedIdOf C note.body ≠ some other.messageId := by
      intro its
      have equal : row = other := ledger.row_unique stored member
        (same.trans (Option.some.inj (named.symm.trans its)))
      exact closed (equal ▸ pending)
    rw [responses_append, if_neg apart, List.append_nil]
  have mine : ∀ other ∈ sent ++ [note], storedIdOf C other.body = some messageId →
      other.body = note.body := by
    intro other member its
    rcases List.mem_append.mp member with before | new
    · exact own other before its
    · rw [List.mem_singleton.mp new]
  refine { ledger with sentStored := ?_, alone := ?_, few := ?_, success := ?_, failed := ?_ }
  · intro old member other its
    rcases List.mem_append.mp member with before | new
    · exact ledger.sentStored old before other its
    · rw [List.mem_singleton.mp new, named] at its
      exact ⟨row, stored, same.trans (Option.some.inj its)⟩
  · intro one first two second stored its again
    by_cases here : stored = messageId
    · subst here
      exact (mine one first its).trans (mine two second again).symm
    · have old : ∀ other ∈ sent ++ [note], storedIdOf C other.body = some stored →
          other ∈ sent := by
        intro other member its
        rcases List.mem_append.mp member with before | new
        · exact before
        · rw [List.mem_singleton.mp new, named] at its
          exact absurd (Option.some.inj its).symm here
      exact ledger.alone one (old one first its) two (old two second again) stored its again
  · intro other
    rw [responses_append]
    split
    · rename_i its
      obtain rfl := Option.some.inj (named.symm.trans its)
      rw [List.length_append, List.length_singleton]
      omega
    · simpa using ledger.few other
  · intro other member status
    rw [others other member (by simp [status])]
    exact ledger.success other member status
  · intro other member status
    rw [others other member (by simp [status])]
    exact ledger.failed other member status

/-- The numbers are distinct, so an update by number finds one row alone. -/
theorem Ledger.found {records : List NotifyRecord} {passed : List String}
    {sent : List Notification} (ledger : Ledger C records passed sent) {record row : NotifyRecord}
    (member : record ∈ records) (stored : row ∈ records)
    (equal : (C.collate record.notifyNo == C.collate row.notifyNo) = true) : record = row :=
  List.inj_on_of_nodup_map ledger.numbers member stored (beq_iff_eq.mp equal)

/-- The closing update of a pending row moves that row. -/
theorem Ledger.closing_moves {records : List NotifyRecord} {passed : List String}
    {sent : List Notification} (ledger : Ledger C records passed sent)
    {set : NotifyRecord → NotifyRecord} (key : ∀ record, (set record).messageId = record.messageId)
    (closes : ∀ record, (set record).status = .kSuccess ∨ (set record).status = .kFailed)
    {row : NotifyRecord} (stored : row ∈ records) (pending : row.status = .kPending) :
    RowsMove records (records.map fun record =>
      if C.collate record.notifyNo == C.collate row.notifyNo then set record else record) := by
  intro record member
  refine ⟨_, List.mem_map_of_mem member, ?_⟩
  split
  · rename_i equal
    obtain rfl := ledger.found member stored equal
    exact ⟨key record, .inr ⟨pending, closes record⟩⟩
  · exact ⟨rfl, .inl rfl⟩

/-- The closing update of a row whose outcome is known. Its status agrees with the last
response that was recorded for its message, and the other rows are not touched. -/
theorem Ledger.closed {records : List NotifyRecord} {passed : List String}
    {sent : List Notification} (ledger : Ledger C records passed sent)
    {set : NotifyRecord → NotifyRecord} (number : ∀ record, (set record).notifyNo = record.notifyNo)
    (key : ∀ record, (set record).messageId = record.messageId) {row : NotifyRecord}
    (stored : row ∈ records)
    (success : (set row).status = .kSuccess →
      ∃ response, (responses C sent row.messageId).getLast? = some response ∧
        (accepted response).isSome)
    (failed : (set row).status = .kFailed →
      (responses C sent row.messageId).length = 3 ∧
        ∀ response ∈ responses C sent row.messageId, accepted response = none) :
    Ledger C (records.map fun record =>
      if C.collate record.notifyNo == C.collate row.notifyNo then set record else record)
      passed sent := by
  have found : ∀ record ∈ records,
      (if C.collate record.notifyNo == C.collate row.notifyNo then set record else record) =
        set row ∨ (if C.collate record.notifyNo == C.collate row.notifyNo then set record
          else record) = record := by
    intro record member
    split
    · rename_i equal
      exact .inl (by rw [ledger.found member stored equal])
    · exact .inr rfl
  have kept : ∀ messageId, (∃ old ∈ records, old.messageId = messageId) →
      ∃ new ∈ records.map fun record =>
        if C.collate record.notifyNo == C.collate row.notifyNo then set record else record,
        new.messageId = messageId := by
    rintro messageId ⟨old, member, same⟩
    refine ⟨_, List.mem_map_of_mem member, ?_⟩
    split
    · rw [key, same]
    · exact same
  refine { ledger with
    numbers := ?_, keys := ?_, passedStored := ?_, sentStored := ?_, success := ?_, failed := ?_ }
  · rw [List.map_map]
    convert ledger.numbers using 2
    funext record
    simp only [Function.comp_apply]
    split <;> simp [number]
  · rw [List.map_map]
    convert ledger.keys using 2
    funext record
    simp only [Function.comp_apply]
    split <;> simp [key]
  · exact fun messageId member => kept messageId (ledger.passedStored messageId member)
  · exact fun note member messageId named =>
      kept messageId (ledger.sentStored note member messageId named)
  · intro new member status
    obtain ⟨old, before, rfl⟩ := List.mem_map.mp member
    rcases found old before with this | this <;> rw [this] at status ⊢
    · rw [key]
      exact success status
    · exact ledger.success old before status
  · intro new member status
    obtain ⟨old, before, rfl⟩ := List.mem_map.mp member
    rcases found old before with this | this <;> rw [this] at status ⊢
    · rw [key]
      exact failed status
    · exact ledger.failed old before status

/-! One step. -/

@[simp] theorem resume_records (world : World) (delivery : Delivery) (alive : Bool)
    (rest : Script Request (fun r => Except Fault (Reply r)) (Except Fault Unit)) :
    (world.resume delivery alive rest).records = world.records := by
  unfold World.resume
  split <;> rfl

/-- The handler goes on with another call, or ends. -/
theorem resumed_point {world : World} {sent : List Notification} {delivery : Delivery}
    {alive : Bool} {code : Script Request (fun r => Except Fault (Reply r)) (Except Fault Unit)}
    (point : (∃ outcome, code = .done outcome) ∨
      Point C world.records sent (.handling delivery alive code)) :
    Point C (world.resume delivery alive code).records sent
      (world.resume delivery alive code).thread := by
  rw [resume_records]
  cases code with
  | done outcome =>
    rcases outcome with fault | ⟨⟩
    · exact .disconnected
    · cases alive with
      | true => exact .waiting
      | false => exact .disconnected
  | call r k =>
    rcases point with ⟨outcome, ended⟩ | point
    · cases ended
    · exact point

/-- One call of the handler with its entries. An exception ends the handler; a reply lets it
go on to its next point, for which the ledger has to hold with the new entries. -/
theorem performed {journal next : Journal} {delivery : Delivery} {alive : Bool} {r : Request}
    {turn : Turn}
    {k : Except Fault (Reply r) → Script Request (fun r => Except Fault (Reply r)) (Except Fault Unit)}
    (here : journal.world.thread = .handling delivery alive (.call r k))
    (failing : ∀ fault, k (.error fault) = .done (.error fault))
    (taken : follow C journal (.perform turn) = some next)
    (ledger : Ledger C (exec C journal.world delivery alive turn r).1.records
      (journal.passed ++ passing r (exec C journal.world delivery alive turn r).2)
      (journal.sent ++ notifications delivery.body r (exec C journal.world delivery alive turn r).2))
    (continues : ∀ value, (exec C journal.world delivery alive turn r).2 = .ok value →
      (∃ outcome, k (.ok value) = .done outcome) ∨
        Point C (exec C journal.world delivery alive turn r).1.records
          (journal.sent ++ notifications delivery.body r (.ok value))
          (.handling delivery alive (k (.ok value))))
    (moves : RowsMove journal.world.records (exec C journal.world delivery alive turn r).1.records) :
    Advances C journal next := by
  simp only [follow, step_perform here, here, Option.map_some, Option.some.injEq] at taken
  subst taken
  refine ⟨⟨by simpa using ledger, resumed_point ?_⟩, by simpa using moves⟩
  cases answered : (exec C journal.world delivery alive turn r).2 with
  | error fault => exact .inl ⟨_, failing fault⟩
  | ok value => exact continues value answered

section Calls

variable {journal next : Journal} {delivery : Delivery} {alive : Bool} {turn : Turn}

/-- The step that draws the notify number: it is new, by the condition, so the row to come
will be the only one with it. -/
theorem identifying_accounted {message : Message}
    (ledger : Ledger C journal.world.records journal.passed journal.sent)
    (here : journal.world.thread = .handling delivery alive (identifying C message))
    (read : readMessage C delivery.body = .ok (some message))
    (numbered : Numbered C journal (.perform turn))
    (taken : follow C journal (.perform turn) = some next) : Advances C journal next := by
  refine performed here (fun _ => rfl) taken (by simpa [exec, passing, notifications] using ledger) ?_
    (.refl _)
  intro notifyNo answered
  have issued := exec_nextId answered
  exact .inr (.inserting read (numbered delivery alive _ here notifyNo issued))

/-- The insert stores its row if both keys are new, else it leaves the table as it is
and reports no row. -/
theorem exec_insert (C : ConsumerPlatform) (world : World) (delivery : Delivery) (alive : Bool)
    (turn : Turn) (notifyNo messageId orderNo targetUrl : String) :
    let called := exec C world delivery alive turn
      (.insertWithDedup notifyNo messageId orderNo targetUrl)
    (called.1.records = world.records ∧ (called.2 = .ok 0 ∨ ∃ fault, called.2 = .error fault)) ∨
      (world.hasRecordKey C.collate notifyNo (storedMessageId messageId) = false ∧
        called.1.records = world.records ++ [newRecord notifyNo messageId orderNo targetUrl] ∧
        (called.2 = .ok 1 ∨ ∃ fault, called.2 = .error fault)) := by
  simp only [exec, World.insertRecord]
  rcases turn.thrown with _ | ⟨fault, _ | _⟩
  · split
    · exact .inl ⟨rfl, .inr ⟨_, rfl⟩⟩
    · split
      · exact .inl ⟨rfl, .inl rfl⟩
      · rename_i clear
        exact .inr ⟨Bool.eq_false_iff.mpr clear, rfl, .inl rfl⟩
  · exact .inl ⟨rfl, .inr ⟨_, rfl⟩⟩
  · split
    · exact .inl ⟨rfl, .inr ⟨_, rfl⟩⟩
    · split
      · exact .inl ⟨rfl, .inr ⟨_, rfl⟩⟩
      · rename_i clear
        exact .inr ⟨Bool.eq_false_iff.mpr clear, rfl, .inr ⟨_, rfl⟩⟩

/-- A clash leaves the table as it is and is acknowledged; a new row starts the work. An
exception may come before or after the insert, and either table is accounted for. -/
theorem inserting_accounted {message : Message} {notifyNo : String}
    (ledger : Ledger C journal.world.records journal.passed journal.sent)
    (here : journal.world.thread = .handling delivery alive (inserting C message notifyNo))
    (read : readMessage C delivery.body = .ok (some message))
    (unissued : ∀ record ∈ journal.world.records, C.collate record.notifyNo ≠ C.collate notifyNo)
    (taken : follow C journal (.perform turn) = some next) : Advances C journal next := by
  rcases exec_insert C journal.world delivery alive turn notifyNo message.messageId message.orderNo
    (C.notifyBaseUrl ++ kNotifyPath) with ⟨same, answered⟩ | ⟨clear, stored, answered⟩
  · refine performed here (fun _ => rfl) taken ?_ ?_ (same ▸ .refl _)
    · rw [same]
      rcases answered with zero | ⟨fault, thrown⟩
      · rw [zero]
        simpa [passing, notifications] using ledger
      · rw [thrown]
        simpa [passing, notifications] using ledger
    · intro affectedRows reply
      rcases answered with zero | ⟨fault, thrown⟩
      · rw [zero] at reply
        cases reply
        have point : ∀ records sent, Point C records sent
            (.handling delivery alive (answer true)) := fun _ _ => .answering
        exact .inr (point _ _)
      · rw [thrown] at reply
        cases reply
  · have apart : ∀ row ∈ journal.world.records,
        C.collate row.messageId ≠ C.collate (storedMessageId message.messageId) := by
      intro row member equal
      have clash : journal.world.hasRecordKey C.collate notifyNo
          (storedMessageId message.messageId) = true :=
        List.any_eq_true.mpr ⟨row, member, by simp [equal]⟩
      rw [clear] at clash
      cases clash
    refine performed here (fun _ => rfl) taken ?_ ?_ (stored ▸ .append _ _)
    · rw [stored]
      rcases answered with one | ⟨fault, thrown⟩
      · rw [one]
        simpa [passing, notifications] using
          ledger.inserted (newRecord notifyNo message.messageId _ _) rfl unissued apart (.inr rfl)
      · rw [thrown]
        simpa [passing, notifications] using
          ledger.inserted (newRecord notifyNo message.messageId _ _) rfl unissued apart (.inl rfl)
    · intro affectedRows reply
      rcases answered with one | ⟨fault, thrown⟩
      · rw [one] at reply
        cases reply
        have absent : ∀ row ∈ journal.world.records,
            row.messageId ≠ storedMessageId message.messageId :=
          fun row member equal => apart row member (congrArg C.collate equal)
        have none := ledger.unsent absent
        right
        rw [stored]
        simp only [notifications, List.append_nil]
        have opened : Open C (journal.world.records ++ [newRecord notifyNo message.messageId
            message.orderNo (C.notifyBaseUrl ++ kNotifyPath)]) delivery notifyNo
            (storedMessageId message.messageId) :=
          ⟨storedIdOf_eq read, _, List.mem_append_right _ (List.mem_singleton_self _), rfl, rfl, rfl⟩
        have begins : Rejected C journal.sent delivery.body (storedMessageId message.messageId)
            (kMaxInProcessRetries - kMaxInProcessRetries) := by
          refine ⟨by simp [none], by simp [none], fun note member named => ?_⟩
          exact absurd named (ledger.unnoted absent note member)
        exact .notifying opened (le_refl _) begins
      · rw [thrown] at reply
        cases reply

/-- An attempt adds a notification and marks, repeats or gives up by its response. The number
of attempts is bounded by the retries left, all earlier responses being rejections. -/
theorem notifying_accounted {message : Message} {notifyNo : String} {retries : Nat}
    (ledger : Ledger C journal.world.records journal.passed journal.sent)
    (here : journal.world.thread = .handling delivery alive (notifying message notifyNo retries))
    (opened : Open C journal.world.records delivery notifyNo (storedMessageId message.messageId))
    (few : retries ≤ kMaxInProcessRetries)
    (rejected : Rejected C journal.sent delivery.body (storedMessageId message.messageId)
      (kMaxInProcessRetries - retries))
    (taken : follow C journal (.perform turn) = some next) : Advances C journal next := by
  rw [notifying_eq] at here
  obtain ⟨named, row, stored, number, same, pending⟩ := opened
  have records : (exec C journal.world delivery alive turn
      (.sendRequest notifyNo message.orderNo message.amount)).1.records = journal.world.records := by
    have told : (journal.world.tell delivery.body turn.merchant).records =
        journal.world.records := by
      unfold World.tell
      split <;> rfl
    rcases attempt_world turn.thrown journal.world (journal.world.tell delivery.body turn.merchant)
      (.ok (if turn.received then turn.merchant else none)) with before | after
    · exact congrArg World.records before
    · exact (congrArg World.records after).trans told
  have less : (responses C journal.sent (storedMessageId message.messageId)).length < 3 := by
    rw [rejected.length, kMaxInProcessRetries]
    omega
  have noted : ∀ response, Ledger C journal.world.records journal.passed
      (journal.sent ++ [⟨delivery.body, response⟩]) := fun response =>
    ledger.notified ⟨delivery.body, response⟩ named stored same pending rejected.own less
  have grown : ∀ response, responses C (journal.sent ++ [⟨delivery.body, response⟩])
      (storedMessageId message.messageId) =
        responses C journal.sent (storedMessageId message.messageId) ++ [response] := by
    intro response
    rw [responses_append, if_pos named]
  refine performed here (fun _ => rfl) taken ?_ ?_ (records ▸ .refl _)
  · rw [records]
    cases (exec C journal.world delivery alive turn
      (.sendRequest notifyNo message.orderNo message.amount)).2 with
    | error fault => simpa [passing, notifications] using noted none
    | ok response => simpa [passing, notifications] using noted response
  · intro response answered
    right
    rw [records]
    change Point C _ _ (.handling delivery alive (attempted message notifyNo retries response))
    have opened : Open C journal.world.records delivery notifyNo
        (storedMessageId message.messageId) :=
      ⟨named, row, stored, number, same, pending⟩
    unfold attempted
    cases accepting : accepted response with
    | some text =>
      have last : (responses C (journal.sent ++ [⟨delivery.body, response⟩])
          (storedMessageId message.messageId)).getLast? = some response := by simp [grown]
      exact .concluding opened last (by simp [accepting])
    | none =>
      have rejectedAgain : Rejected C (journal.sent ++ [⟨delivery.body, response⟩])
          delivery.body (storedMessageId message.messageId)
          (kMaxInProcessRetries - retries + 1) := by
        constructor
        case length => rw [grown, List.length_append, rejected.length, List.length_singleton]
        case all =>
          rw [grown]
          intro other member
          rcases List.mem_append.mp member with old | new
          · exact rejected.all other old
          · rw [List.mem_singleton.mp new, accepting]
        case own =>
          intro note member its
          rcases List.mem_append.mp member with old | new
          · exact rejected.own note old its
          · rw [List.mem_singleton.mp new]
      cases retries with
      | zero => exact .givingUp opened rejectedAgain
      | succ retries =>
        have counted : kMaxInProcessRetries - (retries + 1) + 1 = kMaxInProcessRetries - retries := by
          omega
        exact .pausing opened (by omega) (counted ▸ rejectedAgain)

/-- The pause between two notifications changes nothing that is recorded. -/
theorem pausing_accounted {message : Message} {notifyNo : String} {retries seconds : Nat}
    (ledger : Ledger C journal.world.records journal.passed journal.sent)
    (here : journal.world.thread = .handling delivery alive (pausing message notifyNo retries seconds))
    (opened : Open C journal.world.records delivery notifyNo (storedMessageId message.messageId))
    (few : retries ≤ kMaxInProcessRetries)
    (rejected : Rejected C journal.sent delivery.body (storedMessageId message.messageId)
      (kMaxInProcessRetries - retries))
    (taken : follow C journal (.perform turn) = some next) : Advances C journal next := by
  refine performed here (fun _ => rfl) taken (by simpa [exec, passing, notifications] using ledger) ?_
    (.refl _)
  intro _ _
  exact .inr (.notifying opened few (by simpa [notifications] using rejected))

/-- A closing update, made or not, keeps the accounts if its outcome is the one of the
notifications; an answer follows. -/
theorem marking_accounted {r : Request} (processed : Bool) {notifyNo messageId text : String}
    {k : Except Fault (Reply r) → Script Request (fun r => Except Fault (Reply r)) (Except Fault Unit)}
    {set : NotifyRecord → NotifyRecord}
    (ledger : Ledger C journal.world.records journal.passed journal.sent)
    (here : journal.world.thread = .handling delivery alive (.call r k))
    (failing : ∀ fault, k (.error fault) = .done (.error fault))
    (answers : ∀ value, k (.ok value) = answer processed)
    (marks : (exec C journal.world delivery alive turn r).1 =
      (journal.world.mark C.collate turn notifyNo text set).1)
    (silent : ∀ reply, passing r reply = [] ∧ notifications delivery.body r reply = [])
    (opened : Open C journal.world.records delivery notifyNo messageId)
    (number : ∀ record, (set record).notifyNo = record.notifyNo)
    (key : ∀ record, (set record).messageId = record.messageId)
    (success : ∀ record, (set record).status = .kSuccess →
      ∃ response, (responses C journal.sent messageId).getLast? = some response ∧
        (accepted response).isSome)
    (failed : ∀ record, (set record).status = .kFailed →
      (responses C journal.sent messageId).length = 3 ∧
        ∀ response ∈ responses C journal.sent messageId, accepted response = none)
    (closes : ∀ record, (set record).status = .kSuccess ∨ (set record).status = .kFailed)
    (taken : follow C journal (.perform turn) = some next) : Advances C journal next := by
  obtain ⟨named, row, stored, rfl, rfl, pending⟩ := opened
  refine performed here failing taken ?_ ?_ ?_
  · rw [(silent _).1, (silent _).2, List.append_nil, List.append_nil, marks]
    rcases mark_world C.collate journal.world turn row.notifyNo text set with before | after
    · rw [before]
      exact ledger
    · rw [after]
      exact ledger.closed number key stored (success row) (failed row)
  · intro value _
    rw [answers]
    exact .inr .answering
  · rw [marks]
    rcases mark_world C.collate journal.world turn row.notifyNo text set with before | after
    · rw [before]
      exact .refl _
    · rw [after]
      exact ledger.closing_moves key closes stored pending

/-- One call, by the point the handler has reached. There is one lemma for each point, and the
points are all there are in a handler of a readable body. -/
theorem call_accounted (accounted : Accounted C journal)
    (numbered : Numbered C journal (.perform turn))
    (taken : follow C journal (.perform turn) = some next) : Advances C journal next := by
  obtain ⟨ledger, point⟩ := accounted
  generalize here : journal.world.thread = thread at point
  cases point with
  | disconnected | waiting => simp [follow, step, here] at taken
  | identifying read => exact identifying_accounted ledger here read numbered taken
  | inserting read unissued => exact inserting_accounted ledger here read unissued taken
  | notifying opened few rejected =>
    exact notifying_accounted ledger here opened few rejected taken
  | pausing opened few rejected => exact pausing_accounted ledger here opened few rejected taken
  | concluding opened last accepting =>
    refine marking_accounted true ledger here (fun _ => rfl) (fun _ => rfl) rfl
      (fun _ => ⟨rfl, rfl⟩) opened (fun _ => rfl) (fun _ => rfl) ?_ ?_ (fun _ => .inl rfl) taken
    · exact fun _ _ => ⟨_, last, accepting⟩
    · rintro _ ⟨⟩
  | givingUp opened rejected =>
    refine marking_accounted false ledger here (fun _ => rfl) (fun _ => rfl) rfl
      (fun _ => ⟨rfl, rfl⟩) opened (fun _ => rfl) (fun _ => rfl) ?_ ?_ (fun _ => .inr rfl) taken
    · rintro _ ⟨⟩
    · exact fun _ _ => ⟨rejected.length, rejected.all⟩
  | @answering delivery alive processed =>
    cases processed with
    | true =>
      refine performed here (fun _ => rfl) taken
        (by simpa [exec, passing, notifications] using ledger) ?_ (.refl _)
      exact fun _ _ => .inl ⟨_, rfl⟩
    | false =>
      have records : (exec C journal.world delivery alive turn .basicNack).1.records =
          journal.world.records := by cases alive <;> rfl
      refine performed here (fun _ => rfl) taken ?_ ?_ (records ▸ .refl _)
      · rw [records]
        simpa [passing, notifications] using ledger
      · exact fun _ _ => .inl ⟨_, rfl⟩

end Calls

/-- A delivery that starts stands at the first call about its message, or at its end. -/
theorem handled_point {world : World} {sent : List Notification} (delivery : Delivery) :
    Point C (world.resume delivery true (handleMessage C delivery.body)).records sent
      (world.resume delivery true (handleMessage C delivery.body)).thread := by
  apply resumed_point
  unfold handleMessage process
  cases read : readMessage C delivery.body with
  | error fault => exact .inl ⟨_, rfl⟩
  | ok message =>
    right
    cases message with
    | none =>
      have point : Point C world.records sent (.handling delivery true (answer false)) := .answering
      exact point
    | some message =>
      have code : processMessage C message >>= answer = identifying C message :=
        processMessage_answer message
      simp only [code]
      exact .identifying read

/-- Losing the connection does not end the handler. -/
theorem Point.lost {records : List NotifyRecord} {sent : List Notification} {delivery : Delivery}
    {alive : Bool} {rest : Script Request (fun r => Except Fault (Reply r)) (Except Fault Unit)}
    (point : Point C records sent (.handling delivery alive rest)) :
    Point C records sent (.handling delivery false rest) := by
  cases point with
  | identifying read => exact .identifying read
  | inserting read unissued => exact .inserting read unissued
  | notifying opened few rejected => exact .notifying opened few rejected
  | pausing opened few rejected => exact .pausing opened few rejected
  | concluding opened last accepting => exact .concluding opened last accepting
  | givingUp opened rejected => exact .givingUp opened rejected
  | answering => exact .answering

/-- Every event keeps the journal accounted and moves rows forward only. The cases are the
events and, in a handler, the call it is at. -/
theorem follow_accounted {journal next : Journal} {event : Event} (accounted : Accounted C journal)
    (numbered : Numbered C journal event) (taken : follow C journal event = some next) :
    Advances C journal next := by
  have point := accounted.point
  cases event with
  | perform turn => exact call_accounted accounted numbered taken
  | publish body =>
    cases taken
    exact ⟨⟨accounted.ledger, point⟩, .refl _⟩
  | subscribe =>
    simp only [follow, step] at taken
    split at taken
    · cases taken
      exact ⟨⟨accounted.ledger, .waiting⟩, .refl _⟩
    · cases taken
  | deliver =>
    simp only [follow, step] at taken
    split at taken
    · cases taken
      refine ⟨⟨by simpa using accounted.ledger, handled_point ⟨_, _⟩⟩, ?_⟩
      simpa using RowsMove.refl journal.world.records
    · cases taken
  | lose =>
    simp only [follow, step] at taken
    split at taken
    · cases taken
      exact ⟨⟨accounted.ledger, .disconnected⟩, .refl _⟩
    · rename_i here
      rw [here] at point
      cases taken
      exact ⟨⟨accounted.ledger, point.lost⟩, .refl _⟩
    · cases taken
  | crash =>
    cases taken
    exact ⟨⟨accounted.ledger, .disconnected⟩, .refl _⟩

/-- Without deliveries there is nothing to account for. -/
theorem initial_accounted : Accounted C Journal.initial := by
  refine ⟨?_, .disconnected⟩
  constructor <;> simp [Journal.initial, World.initial, responses]

/-- What the invariant says about one message. -/
theorem Accounted.processedOnce {journal : Journal} (accounted : Accounted C journal)
    (messageId : String) : ProcessedOnce C journal messageId where
  passed := accounted.ledger.once messageId
  few := accounted.ledger.few messageId
  alone := fun note member other again named same =>
    accounted.ledger.alone note member other again messageId named same
  rows := by
    have mapped : ((journal.world.records.map NotifyRecord.messageId).map C.collate).Nodup := by
      rw [List.map_map]
      exact accounted.ledger.keys
    have once := List.nodup_iff_count.mp (List.Nodup.of_map C.collate mapped) messageId
    rw [List.count, List.countP_map] at once
    rw [← List.countP_eq_length_filter]
    simpa only [Function.comp_def, beq_eq_decide] using once
  success := by
    rintro row member rfl status
    exact accounted.ledger.success row member status
  failed := by
    rintro row member rfl status
    exact accounted.ledger.failed row member status

/-- In every run in which notify numbers are not handed out twice, whatever is delivered and
redelivered and wherever the process dies, a message is processed by one delivery at most, and
its row closes once, as its notifications were answered. The unique key on the stored message
id decides between deliveries of one message. -/
theorem run_processedOnce {past : List Journal} {journal : Journal}
    (run : Transitions.Run (follow C) (Numbered C) .initial past journal) :
    (∀ messageId, ProcessedOnce C journal messageId) ∧
      ∀ earlier ∈ past, RowsMove earlier.world.records journal.world.records := by
  have accounted : ∀ {journal}, Transitions.Reached (follow C) (Numbered C) .initial journal →
      Accounted C journal := fun reached =>
    reached.invariant initial_accounted fun _ _ _ before numbered taken =>
      (follow_accounted before numbered taken).accounted
  constructor
  · exact (accounted run.reached).processedOnce
  · refine run.related (fun before after => RowsMove before.world.records after.world.records) ?_ ?_
    · exact fun _ _ _ first second => first.trans second
    · exact fun _ _ _ reached numbered taken =>
        (follow_accounted (accounted reached) numbered taken).moves

/-- A test that implies `Numbered`. -/
def numbered (C : ConsumerPlatform) (journal : Journal) : Event → Bool
  | .perform turn => turn.nextId.all fun id => decide (Unissued C journal.world id)
  | _ => true

/-- The decidable form of the condition. -/
theorem numbered_sound {journal : Journal} {event : Event}
    (passed : numbered C journal event = true) : Numbered C journal event := by
  cases event with
  | perform turn =>
    intro delivery alive k _ id given
    rw [numbered, Option.mem_def.mp given] at passed
    exact of_decide_eq_true passed
  | publish | subscribe | deliver | lose | crash => trivial

/-- Three notifications fail, the process dies before the rejection, and the redelivery
is acknowledged as a duplicate. -/
theorem desk_processedOnce : ∃ past journal,
    Transitions.Run (follow desk) (Numbered desk) .initial past journal ∧
      (journal.passed = ["m1"] ∧ journal.world.records.map (·.status) = [.kFailed] ∧
        journal.world.acked = [paidBody]) ∧
      (∀ messageId, ProcessedOnce desk journal messageId) ∧
        ∀ earlier ∈ past, RowsMove earlier.world.records journal.world.records := by
  have ran : ((Transitions.runWhere (follow desk) (numbered desk) .initial
      (.publish paidBody :: receiving "n1" ++
        [.perform { quiet with merchant := some (500, "down"), received := true }, .perform quiet,
          .perform quiet, .perform quiet,
          .perform { quiet with merchant := some (404, "gone"), received := true }, .perform quiet,
          .crash] ++
        receiving "n2" ++ [.perform quiet])).map fun journal =>
          (journal.passed, journal.world.records.map (·.status), journal.world.acked)) =
      some (["m1"], [.kFailed], [paidBody]) := by decide +kernel
  obtain ⟨journal, last, shown⟩ := Option.map_eq_some_iff.mp ran
  have reached := Transitions.Reached.of_runWhere
    (fun journal event => @numbered_sound desk journal event) .initial last
  obtain ⟨past, run⟩ := reached.run
  exact ⟨past, journal, run, by simpa using shown, run_processedOnce run⟩

end NotifyConsumer

end TradeReconcile
