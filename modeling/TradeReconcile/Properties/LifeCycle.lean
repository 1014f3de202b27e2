import TradeReconcile.Messaging.Rounds
import TradeReconcile.Transitions

/-!
# The life of an outbox message

A round marks a message once at most after it was scanned, and nothing else writes to
its row, so the row is still as it was scanned when it is marked: pending, with the
retry count the decision was made by. That is what the updates without a condition on
the status rest on. Every recorded failure has a `publish` call that returned false,
and giving up takes one more.
-/

namespace TradeReconcile

namespace Rounds

open Scripts
open MessageRelayTask (kBatchLimit kMaxRetries kBaseBackoffSeconds)

variable {collate : String → String}

/-- The recorded failures of a message, in order. -/
def failuresOf (failures : List Failure) (messageId : String) : List Failure :=
  failures.filter fun failure => failure.messageId = messageId

/-- What a row says of the past: its status and count are backed by results of `publish`,
the failures were numbered one after the other, and the last one set the time. -/
structure LifeCycle (published : List (String × Bool)) (failures : List Failure) (row : Entry) :
    Prop where
  status : row.status = .kPending ∨ row.status = .kAcked ∨ row.status = .kFailed
  retries : row.retryCount ≤ 7
  acked : row.status = .kAcked → (row.messageId, true) ∈ published
  failed : row.status = .kFailed →
    8 ≤ published.count (row.messageId, false) ∧ row.retryCount = 7
  counted : row.retryCount ≤ published.count (row.messageId, false)
  numbers : (failuresOf failures row.messageId).map Failure.number = List.range' 1 row.retryCount
  due : ∀ failure ∈ (failuresOf failures row.messageId).getLast?,
    row.nextRetryTime = failure.time + 5 * 2 ^ (failure.number - 1)

/-- Rows stay, their counts do not decrease, and a closed row keeps its status. -/
def Progresses (before after : List Entry) : Prop :=
  ∀ row ∈ before, ∃ next ∈ after, next.messageId = row.messageId ∧
    row.retryCount ≤ next.retryCount ∧ (row.status ≠ .kPending → next.status = row.status)

/-- Rows that nobody touches progress. -/
theorem Progresses.refl (rows : List Entry) : Progresses rows rows :=
  fun row member => ⟨row, member, rfl, le_refl _, fun _ => rfl⟩

/-- Progress in two steps is progress. -/
theorem Progresses.trans {one two three : List Entry} (first : Progresses one two)
    (second : Progresses two three) : Progresses one three := by
  intro row member
  obtain ⟨middle, present, same, grows, keeps⟩ := first row member
  obtain ⟨last, stored, sameAgain, growsAgain, keepsAgain⟩ := second middle present
  refine ⟨last, stored, sameAgain.trans same, grows.trans growsAgain, fun closed => ?_⟩
  have kept := keeps closed
  rw [keepsAgain (by rw [kept]; exact closed), kept]

/-! The round's side. -/

/-- The messages whose rows are as they were scanned, and the last result of `publish`. A
round looks at a row once, at its scan, and relies on it until the message's turn. -/
structure Progress where
  batch : List LocalMessage
  current : Option (LocalMessage × Bool)

/-- A message is marked once, by the result of the `publish` call before and the count
that was scanned. -/
def relaying : Protocol Request (fun r => Except Fault (Reply r)) Progress where
  permits state
    | .publish msg => msg ∈ state.batch
    | .markAcked messageId => ∃ msg ∈ state.batch, msg.messageId = messageId ∧
        state.current = some (msg, true)
    | .markFailed messageId retryCount backoffSeconds => ∃ msg ∈ state.batch,
        msg.messageId = messageId ∧ state.current = some (msg, false) ∧
        retryCount = msg.retryCount + 1 ∧ retryCount < kMaxRetries ∧
        backoffSeconds = kBaseBackoffSeconds * 2 ^ (retryCount - 1)
    | .markGiveUp messageId => ∃ msg ∈ state.batch, msg.messageId = messageId ∧
        state.current = some (msg, false) ∧ kMaxRetries ≤ msg.retryCount + 1
    | _ => True
  answers
    | .scanPending _, .ok messages => (messages.map LocalMessage.messageId).Nodup
    | _, _ => True
  after state
    | .scanPending _, .ok messages => ⟨messages, none⟩
    | .publish msg, .ok confirmed => { state with current := some (msg, confirmed) }
    | .publish _, .error _ => { state with current := none }
    | .markAcked messageId, _ => ⟨state.batch.filter (·.messageId ≠ messageId), none⟩
    | .markFailed messageId _ _, _ => ⟨state.batch.filter (·.messageId ≠ messageId), none⟩
    | .markGiveUp messageId, _ => ⟨state.batch.filter (·.messageId ≠ messageId), none⟩
    | _, _ => state

/-- The other messages of a batch are left as they were scanned. -/
def Spares (state : Progress) (messageId : String) (after : Progress) : Prop :=
  ∀ other ∈ state.batch, other.messageId ≠ messageId → other ∈ after.batch

/-- The calls about one message leave the others of the batch as they were scanned. -/
theorem relayMessage_follows {state : Progress} {msg : LocalMessage} (scanned : msg ∈ state.batch) :
    Script.Follows relaying (fun after _ => Spares state msg.messageId after) state
      (relayMessage msg) := by
  have spared : ∀ current, Spares state msg.messageId
      ⟨state.batch.filter (·.messageId ≠ msg.messageId), current⟩ := by
    intro current other member apart
    exact List.mem_filter.mpr ⟨member, by simpa using apart⟩
  apply follows_bind
  refine ⟨scanned, ?_⟩
  rintro (fault | confirmed) -
  · exact fun other member _ => member
  · cases confirmed with
    | true => exact ⟨⟨msg, scanned, rfl, rfl⟩, fun reply _ => spared none⟩
    | false =>
      change Script.Follows relaying _ _ (ite _ _ _)
      split
      · rename_i enough
        exact ⟨⟨msg, scanned, rfl, rfl, enough⟩, fun reply _ => spared none⟩
      · rename_i less
        exact ⟨⟨msg, scanned, rfl, rfl, rfl, Nat.lt_of_not_le less, rfl⟩,
          fun reply _ => spared none⟩

/-- A batch is relayed message by message. The induction is on the messages that are left;
each is still as it was scanned when its turn comes. -/
theorem relayEach_follows (messages : List LocalMessage) {state : Progress}
    (scanned : messages ⊆ state.batch) (distinct : (messages.map LocalMessage.messageId).Nodup) :
    Script.Follows relaying (fun _ _ => True) state (relayEach messages) := by
  induction messages generalizing state with
  | nil => trivial
  | cons msg rest inductionHypothesis =>
    rw [List.cons_subset] at scanned
    rw [List.map_cons, List.nodup_cons] at distinct
    apply follows_bind
    apply follows_tryCatch
    apply (relayMessage_follows scanned.1).mono
    intro after outcome spares
    have left : rest ⊆ after.batch := by
      intro other member
      refine spares other (scanned.2 member) fun same => distinct.1 ?_
      rw [← same]
      exact List.mem_map_of_mem member
    rcases outcome with fault | value <;> exact inductionHypothesis left distinct.2

/-- A round keeps to its protocol. -/
theorem relay_follows (state : Progress) :
    Script.Follows relaying (fun _ _ => True) state relay := by
  refine ⟨trivial, ?_⟩
  rintro (fault | _) -
  · trivial
  · refine ⟨trivial, ?_⟩
    rintro (fault | messages) distinct
    · trivial
    · exact relayEach_follows messages (List.Subset.refl _) distinct

/-! The table's side. -/

/-- Unique keys, histories of stored messages, and every row backed by them. Histories are
kept beside the table; no step reads them. -/
structure Kept (collate : String → String) (rows : List Entry) (published : List (String × Bool))
    (failures : List Failure) : Prop where
  keys : (rows.map fun row => collate row.messageId).Nodup
  stored : ∀ failure ∈ failures, ∃ row ∈ rows, row.messageId = failure.messageId
  backed : ∀ row ∈ rows, LifeCycle published failures row

/-- The round's knowledge is so: the scanned messages that it has not dealt with are pending,
with the counts that it has read. -/
structure Tracks (rows : List Entry) (published : List (String × Bool)) (progress : Progress) :
    Prop where
  scanned : ∀ msg ∈ progress.batch, ∃ row ∈ rows, row.messageId = msg.messageId ∧
    row.status = .kPending ∧ row.retryCount = msg.retryCount
  confirmed : ∀ msg, progress.current = some (msg, true) → (msg.messageId, true) ∈ published
  refused : ∀ msg, progress.current = some (msg, false) →
    msg.retryCount + 1 ≤ published.count (msg.messageId, false)

/-- The table after an UPDATE of one message. -/
def updated (collate : String → String) (rows : List Entry) (messageId : String)
    (set : Entry → Entry) : List Entry :=
  rows.map fun row => if collate row.messageId == collate messageId then set row else row

section Updates

variable {rows : List Entry} {published : List (String × Bool)} {failures added : List Failure}
  {row : Entry} {set : Entry → Entry}

/-- An id belongs to one row. -/
theorem Kept.row_unique (kept : Kept collate rows published failures) {other : Entry}
    (here : row ∈ rows) (there : other ∈ rows)
    (same : collate row.messageId = collate other.messageId) : row = other :=
  List.inj_on_of_nodup_map kept.keys here there same

/-- An UPDATE by message id changes one row. -/
theorem Kept.mem_updated (kept : Kept collate rows published failures) (stored : row ∈ rows)
    {other : Entry} (member : other ∈ updated collate rows row.messageId set) :
    other = set row ∨ (other ∈ rows ∧ other.messageId ≠ row.messageId) := by
  obtain ⟨old, present, rfl⟩ := List.mem_map.mp member
  split
  · rename_i same
    exact .inl (by rw [kept.row_unique stored present (beq_iff_eq.mp same).symm])
  · rename_i apart
    refine .inr ⟨present, fun same => apart ?_⟩
    rw [same]
    exact beq_self_eq_true _

/-- The update of one message's row leaves the other rows. -/
theorem mem_updated_of_ne (kept : Kept collate rows published failures) (stored : row ∈ rows)
    {other : Entry} (member : other ∈ rows) (apart : other.messageId ≠ row.messageId) :
    other ∈ updated collate rows row.messageId set := by
  refine List.mem_map.mpr ⟨other, member, if_neg fun same => apart ?_⟩
  rw [kept.row_unique member stored (beq_iff_eq.mp same)]

/-- The updated row is in the table. -/
theorem set_mem_updated (stored : row ∈ rows) :
    set row ∈ updated collate rows row.messageId set :=
  List.mem_map.mpr ⟨row, stored, if_pos (beq_self_eq_true _)⟩

/-- Marking a pending row whose new state is backed. The failures added are the row's own, so
the histories of all other rows, and with them their due times, are what they were. -/
theorem Kept.marked (kept : Kept collate rows published failures) (stored : row ∈ rows)
    (key : ∀ entry, (set entry).messageId = entry.messageId)
    (own : ∀ failure ∈ added, failure.messageId = row.messageId)
    (backed : LifeCycle published (failures ++ added) (set row)) :
    Kept collate (updated collate rows row.messageId set) published (failures ++ added) where
  keys := by
    have same : (updated collate rows row.messageId set).map (fun row => collate row.messageId) =
        rows.map fun row => collate row.messageId := by
      rw [updated, List.map_map]
      refine List.map_congr_left fun entry _ => ?_
      simp only [Function.comp_apply]
      split
      · rw [key]
      · rfl
    rw [same]
    exact kept.keys
  stored := by
    intro failure member
    rcases List.mem_append.mp member with old | new
    · obtain ⟨other, present, same⟩ := kept.stored failure old
      by_cases its : other.messageId = row.messageId
      · exact ⟨set row, set_mem_updated stored, by rw [key, ← its, same]⟩
      · exact ⟨other, mem_updated_of_ne kept stored present its, same⟩
    · exact ⟨set row, set_mem_updated stored, by rw [key, own failure new]⟩
  backed := by
    intro other member
    rcases kept.mem_updated stored member with rfl | ⟨old, apart⟩
    · exact backed
    · have same : failuresOf (failures ++ added) other.messageId =
          failuresOf failures other.messageId := by
        have none : failuresOf added other.messageId = [] := by
          refine List.filter_eq_nil_iff.mpr fun failure new => ?_
          rw [own failure new, decide_eq_true_eq]
          exact apart.symm
        rw [failuresOf, List.filter_append, ← failuresOf, ← failuresOf, none, List.append_nil]
      have before := kept.backed other old
      exact { before with
        numbers := by rw [same]; exact before.numbers
        due := by rw [same]; exact before.due }

/-- A mark on a pending row is progress. -/
theorem Kept.marked_progresses (kept : Kept collate rows published failures) (stored : row ∈ rows)
    (key : (set row).messageId = row.messageId) (pending : row.status = .kPending)
    (grows : row.retryCount ≤ (set row).retryCount) :
    Progresses rows (updated collate rows row.messageId set) := by
  intro other member
  by_cases its : other.messageId = row.messageId
  · obtain rfl := kept.row_unique member stored (congrArg collate its)
    exact ⟨set other, set_mem_updated stored, key, grows, fun closed => absurd pending closed⟩
  · exact ⟨other, mem_updated_of_ne kept stored member its, rfl, le_refl _, fun _ => rfl⟩

/-- The other messages of the batch are not touched. -/
theorem Tracks.marked {progress : Progress} (tracks : Tracks rows published progress)
    (kept : Kept collate rows published failures) (stored : row ∈ rows) :
    Tracks (updated collate rows row.messageId set) published
      ⟨progress.batch.filter (·.messageId ≠ row.messageId), none⟩ where
  scanned := by
    intro msg member
    obtain ⟨present, apart⟩ := List.mem_filter.mp member
    obtain ⟨other, there, same, rest⟩ := tracks.scanned msg present
    refine ⟨other, mem_updated_of_ne kept stored there ?_, same, rest⟩
    rw [same]
    simpa using apart
  confirmed := nofun
  refused := nofun

/-- A mark that did not happen. -/
theorem Tracks.unmarked {progress : Progress} (tracks : Tracks rows published progress)
    (messageId : String) :
    Tracks rows published ⟨progress.batch.filter (·.messageId ≠ messageId), none⟩ where
  scanned msg member := tracks.scanned msg (List.mem_filter.mp member).1
  confirmed := nofun
  refused := nofun

/-- An acknowledgement keeps the id. -/
theorem acknowledge_key (entry : Entry) : (acknowledge entry).messageId = entry.messageId := by
  unfold acknowledge
  split <;> rfl

/-- A row is acknowledged on a publication that was confirmed. -/
theorem LifeCycle.acknowledged (life : LifeCycle published failures row)
    (pending : row.status = .kPending) (sent : (row.messageId, true) ∈ published) :
    LifeCycle published failures (acknowledge row) := by
  rw [acknowledge, if_pos pending]
  exact { life with
    status := .inr (.inl rfl)
    acked := fun _ => sent
    failed := nofun }

/-- The next failure is recorded: one more `publish` call has failed, the count is that
failure's number, and the next try is due after the delay that belongs to it. -/
theorem LifeCycle.refused (life : LifeCycle published failures row)
    (pending : row.status = .kPending)
    (refused : row.retryCount + 1 ≤ published.count (row.messageId, false))
    (less : row.retryCount + 1 < kMaxRetries) (clock : Int) :
    LifeCycle published (failures ++ [⟨row.messageId, row.retryCount + 1, clock⟩])
      { row with
        retryCount := row.retryCount + 1
        nextRetryTime := clock + (kBaseBackoffSeconds * 2 ^ row.retryCount : Nat) } := by
  have recorded : failuresOf (failures ++ [⟨row.messageId, row.retryCount + 1, clock⟩])
      row.messageId =
      failuresOf failures row.messageId ++ [⟨row.messageId, row.retryCount + 1, clock⟩] := by
    simp [failuresOf, List.filter_append]
  rw [kMaxRetries] at less
  refine ⟨life.status, by dsimp only; omega, ?_, ?_, refused, ?_, ?_⟩
  · intro acked
    rw [pending] at acked
    cases acked
  · intro failed
    rw [pending] at failed
    cases failed
  · rw [recorded, List.map_append, life.numbers, List.range'_concat, List.map_singleton,
      Nat.add_comm 1, Nat.one_mul]
  · rw [recorded, List.getLast?_concat]
    rintro failure ⟨⟩
    simp [kBaseBackoffSeconds]

/-- A row is given up after as many refusals as it may have. -/
theorem LifeCycle.givenUp (life : LifeCycle published failures row)
    (refused : row.retryCount + 1 ≤ published.count (row.messageId, false))
    (enough : kMaxRetries ≤ row.retryCount + 1) :
    LifeCycle published failures { row with status := .kFailed } := by
  have bounded := life.retries
  rw [kMaxRetries] at enough
  exact { life with
    status := .inr (.inr rfl)
    acked := nofun
    failed := fun _ => ⟨by dsimp only; omega, by dsimp only; omega⟩ }

/-- A longer history backs what a shorter one backs. -/
theorem LifeCycle.published_append (life : LifeCycle published failures row)
    (result : String × Bool) : LifeCycle (published ++ [result]) failures row := by
  have grows : published.count (row.messageId, false) ≤
      (published ++ [result]).count (row.messageId, false) := by
    rw [List.count_append]
    omega
  exact { life with
    acked := fun status => List.mem_append_left _ (life.acked status)
    failed := fun status => ⟨(life.failed status).1.trans grows, (life.failed status).2⟩
    counted := life.counted.trans grows }

end Updates

/-- What a call of the round leaves: rows that are backed by the histories, rows that
progress, and a round that knows what it may call next. -/
structure Called (collate : String → String) (progress : Progress) (world : World) (r : Request)
    (called : World × Except Fault (Reply r)) : Prop where
  kept : Kept collate called.1.rows called.1.published called.1.failures
  progresses : Progresses world.rows called.1.rows
  answers : relaying.answers r called.2
  tracks : Tracks called.1.rows called.1.published (relaying.after progress r called.2)

section Calls

variable {world : World} {progress : Progress}

/-- A mark takes effect or not, and throws or not. In each case the rows stay backed, since
the mark says what the publication before it has shown. -/
theorem marked_called {r : Request} {turn : Turn} {row : Entry} {set : Entry → Entry}
    (added : List Failure) {next : World} {value : Reply r}
    (kept : Kept collate world.rows world.published world.failures)
    (tracks : Tracks world.rows world.published progress) (stored : row ∈ world.rows)
    (pending : row.status = .kPending) (key : ∀ entry, (set entry).messageId = entry.messageId)
    (grows : row.retryCount ≤ (set row).retryCount)
    (own : ∀ failure ∈ added, failure.messageId = row.messageId)
    (backed : LifeCycle world.published (world.failures ++ added) (set row))
    (rows : next.rows = updated collate world.rows row.messageId set)
    (published : next.published = world.published)
    (failures : next.failures = world.failures ++ added)
    (answers : ∀ reply, relaying.answers r reply)
    (drops : ∀ reply, relaying.after progress r reply =
      ⟨progress.batch.filter (·.messageId ≠ row.messageId), none⟩) :
    Called collate progress world r (attempt turn.thrown world next (.ok value)) := by
  rcases attempt_world turn.thrown world next (.ok value : Except Fault (Reply r)) with same | same
  · refine ⟨?_, ?_, answers _, ?_⟩
    · rw [same]
      exact kept
    · rw [same]
      exact .refl _
    · rw [same, drops]
      exact tracks.unmarked row.messageId
  · refine ⟨?_, ?_, answers _, ?_⟩
    · rw [same, rows, published, failures]
      exact kept.marked stored key own backed
    · rw [same, rows]
      exact kept.marked_progresses stored (key row) pending grows
    · rw [same, rows, published, drops]
      exact tracks.marked kept stored

/-- A scan finds every message once. -/
theorem scan_nodup (kept : Kept collate world.rows world.published world.failures) (limit : Nat) :
    ((world.scanPending limit).map LocalMessage.messageId).Nodup := by
  have keys : (world.rows.map Entry.messageId).Nodup := by
    apply List.Nodup.of_map collate
    rw [List.map_map]
    exact kept.keys
  have part : List.Sublist ((world.scanPending limit).map LocalMessage.messageId)
      (world.rows.map Entry.messageId) := by
    rw [World.scanPending, List.map_map]
    exact ((List.take_sublist _ _).trans List.filter_sublist).map Entry.messageId
  exact keys.sublist part

/-- One call of the round: a scan reads pending rows only, a publication is of a scanned row,
and a marking finds its row still as it was scanned. An exception may come before or after the
effect. -/
theorem exec_called (kept : Kept collate world.rows world.published world.failures)
    (tracks : Tracks world.rows world.published progress) {r : Request}
    (permitted : relaying.permits progress r) (turn : Turn) :
    Called collate progress world r (exec collate world turn r) := by
  cases r with
  | mqClient =>
    rcases attempt_world turn.thrown world world (.ok () : Except Fault Unit) with same | same <;>
    · refine ⟨?_, ?_, trivial, ?_⟩ <;> simp only [exec, same]
      · exact kept
      · exact .refl _
      · exact tracks
  | scanPending limit =>
    have scanned : Tracks world.rows world.published ⟨world.scanPending limit, none⟩ := by
      refine ⟨?_, nofun, nofun⟩
      intro msg member
      obtain ⟨row, taken, rfl⟩ := List.mem_map.mp member
      obtain ⟨stored, pending⟩ := List.mem_filter.mp (List.mem_of_mem_take taken)
      simp only [Bool.and_eq_true, beq_iff_eq] at pending
      exact ⟨row, stored, rfl, pending.1, rfl⟩
    simp only [exec, attempt]
    split
    · exact ⟨kept, .refl _, scan_nodup kept limit, scanned⟩
    · exact ⟨kept, .refl _, trivial, tracks⟩
    · exact ⟨kept, .refl _, trivial, tracks⟩
  | publish msg =>
    simp only [exec]
    split
    · exact ⟨kept, .refl _, trivial, tracks.scanned, nofun, nofun⟩
    · obtain ⟨row, stored, same, -, count⟩ := tracks.scanned msg permitted
      refine ⟨⟨kept.keys, kept.stored, ?_⟩, .refl _, trivial, tracks.scanned, ?_, ?_⟩
      · exact fun row stored => (kept.backed row stored).published_append _
      · intro other current
        obtain ⟨rfl, confirmed⟩ := Prod.mk.inj (Option.some.inj current)
        simp [confirmed]
      · intro other current
        obtain ⟨rfl, refused⟩ := Prod.mk.inj (Option.some.inj current)
        have counted := (kept.backed row stored).counted
        rw [same, count] at counted
        rw [refused, List.count_append, List.count_singleton_self]
        omega
  | markAcked messageId =>
    obtain ⟨msg, scanned, rfl, current⟩ := permitted
    obtain ⟨row, stored, same, pending, -⟩ := tracks.scanned msg scanned
    have sent := tracks.confirmed msg current
    rw [← same] at sent ⊢
    refine marked_called [] kept tracks stored pending ?_ ?_ (by simp) ?_ rfl rfl
      (List.append_nil _).symm (fun _ => trivial) (fun _ => rfl)
    · exact acknowledge_key
    · unfold acknowledge
      split <;> exact le_refl _
    · rw [List.append_nil]
      exact (kept.backed row stored).acknowledged pending sent
  | markFailed messageId retryCount backoffSeconds =>
    obtain ⟨msg, scanned, rfl, current, rfl, less, rfl⟩ := permitted
    obtain ⟨row, stored, same, pending, count⟩ := tracks.scanned msg scanned
    have refused := tracks.refused msg current
    rw [← same, ← count] at refused
    rw [← count] at less
    rw [← same, ← count]
    refine marked_called [⟨row.messageId, row.retryCount + 1, world.clock⟩] kept tracks stored
      pending ?_ ?_ ?_ ?_ rfl rfl rfl (fun _ => trivial) (fun _ => rfl)
    · intro entry
      rfl
    · exact Nat.le_succ _
    · simp
    · exact (kept.backed row stored).refused pending refused less world.clock
  | markGiveUp messageId =>
    obtain ⟨msg, scanned, rfl, current, enough⟩ := permitted
    obtain ⟨row, stored, same, pending, count⟩ := tracks.scanned msg scanned
    have refused := tracks.refused msg current
    rw [← same, ← count] at refused
    rw [← count] at enough
    rw [← same]
    refine marked_called [] kept tracks stored pending ?_ ?_ (by simp) ?_ rfl rfl
      (List.append_nil _).symm (fun _ => trivial) (fun _ => rfl)
    · intro entry
      rfl
    · exact le_refl _
    · rw [List.append_nil]
      exact (kept.backed row stored).givenUp refused enough

end Calls

/-- The invariant: every row's status, count and due time are backed by the histories, and a
round that is under way knows its rows. -/
structure Sound (collate : String → String) (world : World) : Prop where
  kept : Kept collate world.rows world.published world.failures
  running : ∀ rest, world.running = some rest → ∃ progress,
    Script.Follows relaying (fun _ _ => True) progress rest ∧
      Tracks world.rows world.published progress

/-- Where a round goes on, or ends, its progress is as its history says. -/
theorem resumed_sound {world : World} {progress : Progress} {rest : Rest}
    (kept : Kept collate world.rows world.published world.failures)
    (tracks : Tracks world.rows world.published progress)
    (follows : Script.Follows relaying (fun _ _ => True) progress rest) :
    Sound collate (world.resume rest) ∧ (world.resume rest).rows = world.rows := by
  cases rest with
  | done outcome => exact ⟨⟨kept, nofun⟩, rfl⟩
  | call r k =>
    refine ⟨⟨kept, ?_⟩, rfl⟩
    rintro rest ⟨⟩
    exact ⟨progress, follows, tracks⟩

/-- A payment adds a pending row. It has an id of its own, so no failure has been recorded for
it and the round that may be under way has not scanned it. -/
theorem inserted_sound {world next : World} {msg : LocalMessage} (sound : Sound collate world)
    (taken : world.insert collate msg = some next) :
    Sound collate next ∧ Progresses world.rows next.rows := by
  unfold World.insert at taken
  split at taken
  · rename_i free
    cases taken
    have apart : ∀ row ∈ world.rows, collate row.messageId ≠ collate msg.messageId := by
      simpa using free
    have unrecorded : failuresOf world.failures msg.messageId = [] := by
      refine List.filter_eq_nil_iff.mpr fun failure member => ?_
      rw [decide_eq_true_eq]
      intro same
      obtain ⟨row, stored, its⟩ := sound.kept.stored failure member
      exact apart row stored (by rw [its, same])
    refine ⟨⟨⟨?_, ?_, ?_⟩, ?_⟩, ?_⟩
    · rw [List.map_append, List.nodup_append]
      refine ⟨sound.kept.keys, List.nodup_singleton _, ?_⟩
      intro text member other new
      obtain ⟨row, stored, rfl⟩ := List.mem_map.mp member
      rw [List.mem_singleton.mp new]
      exact apart row stored
    · intro failure member
      obtain ⟨row, stored, its⟩ := sound.kept.stored failure member
      exact ⟨row, List.mem_append_left _ stored, its⟩
    · intro row member
      rcases List.mem_append.mp member with old | new
      · exact sound.kept.backed row old
      · rw [List.mem_singleton.mp new]
        refine ⟨.inl rfl, Nat.zero_le _, nofun, nofun, Nat.zero_le _, ?_, ?_⟩
        · simp [unrecorded]
        · simp [unrecorded]
    · intro rest going
      obtain ⟨progress, follows, tracks⟩ := sound.running rest going
      refine ⟨progress, follows, ?_, tracks.confirmed, tracks.refused⟩
      intro msg scanned
      obtain ⟨row, stored, facts⟩ := tracks.scanned msg scanned
      exact ⟨row, List.mem_append_left _ stored, facts⟩
    · intro row member
      exact ⟨row, List.mem_append_left _ member, rfl, le_refl _, fun _ => rfl⟩
  · cases taken

/-- Every event keeps the rows backed and moves them forward only. The cases are the events
and, in a round, the calls. -/
theorem step_sound {world next : World} {event : Event} (sound : Sound collate world)
    (taken : step collate world event = some next) :
    Sound collate next ∧ Progresses world.rows next.rows := by
  cases event with
  | insert msg => exact inserted_sound sound taken
  | tick clock =>
    cases taken
    exact ⟨⟨sound.kept, sound.running⟩, .refl _⟩
  | crash =>
    cases taken
    exact ⟨⟨sound.kept, nofun⟩, .refl _⟩
  | round =>
    simp only [step] at taken
    split at taken
    · cases taken
      have begins : Tracks world.rows world.published ⟨[], none⟩ := ⟨nofun, nofun, nofun⟩
      obtain ⟨resumed, same⟩ := resumed_sound sound.kept begins (relay_follows ⟨[], none⟩)
      exact ⟨resumed, by rw [same]; exact .refl _⟩
    · cases taken
  | relay turn =>
    simp only [step] at taken
    split at taken
    · rename_i r k going
      cases taken
      obtain ⟨progress, follows, tracks⟩ := sound.running _ going
      have called := exec_called sound.kept tracks follows.1 turn
      obtain ⟨resumed, same⟩ := resumed_sound called.kept called.tracks (follows.2 _ called.answers)
      exact ⟨resumed, by rw [same]; exact called.progresses⟩
    · cases taken

/-! A batch as a whole. -/

/-- What the calls for one message meet: the outcome of `publish` and of the mark after it,
and the time. -/
structure Luck where
  publish : Turn
  mark : Turn
  time : Int

/-- The message a call is about. -/
def Request.subject : Request → Option String
  | .mqClient => none
  | .scanPending _ => none
  | .publish msg => some msg.messageId
  | .markAcked messageId => some messageId
  | .markFailed messageId _ _ => some messageId
  | .markGiveUp messageId => some messageId

/-- The luck of a publication, and of the mark after it. -/
def Luck.turn (luck : Luck) : Request → Turn
  | .publish _ => luck.publish
  | _ => luck.mark

/-- Every call is answered by the luck of its message. -/
def answer (collate : String → String) (luck : Option String → Luck) (world : World) (r : Request) :
    World × Except Fault (Reply r) :=
  exec collate { world with clock := (luck r.subject).time } ((luck r.subject).turn r) r

/-- The loop of a round, carried out to its end. -/
def relayBatch (collate : String → String) (luck : Option String → Luck) (world : World)
    (messages : List LocalMessage) : World × Except Fault Unit :=
  Script.execute (answer collate luck) world (relayEach messages)

/-- What the table and the histories hold of the other messages. Isolation says that a call
about one message leaves this as it is. -/
def others (collate : String → String) (messageId : String) (world : World) :
    List Entry × List (String × Bool) × List Failure :=
  (world.rows.filter fun row => collate row.messageId != collate messageId,
    world.published.filter fun result => result.1 != messageId,
    world.failures.filter fun failure => failure.messageId != messageId)

/-- Whatever the calls for one message meet, the batch goes on to its end and the other
messages fare the same. The executions compared here are runs of the system
(`execute_reached`). -/
def Isolated (collate : String → String) (world : World) : Prop :=
  ∀ messages messageId luck luck', (∀ other ≠ some messageId, luck other = luck' other) →
    others collate messageId (relayBatch collate luck world messages).1 =
      others collate messageId (relayBatch collate luck' world messages).1 ∧
    (relayBatch collate luck world messages).2 = .ok ()

/-- Scripts whose calls are all about one message. -/
def about (messageId : String) :
    Protocol Request (fun r => Except Fault (Reply r)) Unit where
  permits _ r := r.subject = some messageId
  answers _ _ := True
  after state _ _ := state

/-- The calls about one message are about it. -/
theorem relayMessage_about (msg : LocalMessage) :
    Script.Follows (about msg.messageId) (fun _ _ => True) () (relayMessage msg) := by
  apply follows_bind
  refine ⟨rfl, ?_⟩
  rintro (fault | confirmed) -
  · trivial
  · cases confirmed with
    | true => exact ⟨rfl, fun _ _ => trivial⟩
    | false =>
      change Script.Follows _ _ _ (ite _ _ _)
      split
      · exact ⟨rfl, fun _ _ => trivial⟩
      · exact ⟨rfl, fun _ _ => trivial⟩

/-- An UPDATE of a message, seen from the others. -/
theorem filter_updated (rows : List Entry) (messageId subject : String) {set : Entry → Entry}
    (key : ∀ entry, (set entry).messageId = entry.messageId) :
    (updated collate rows subject set).filter (fun row => collate row.messageId != collate messageId)
      = updated collate (rows.filter fun row => collate row.messageId != collate messageId)
          subject set := by
  rw [updated, List.filter_map, updated]
  congr 1
  refine List.filter_congr fun row _ => ?_
  simp only [Function.comp_apply]
  split
  · rw [key]
  · rfl

/-- An UPDATE of one message changes no other. -/
theorem filter_updated_own (rows : List Entry) (messageId : String) {set : Entry → Entry}
    (key : ∀ entry, (set entry).messageId = entry.messageId) :
    (updated collate rows messageId set).filter
      (fun row => collate row.messageId != collate messageId) =
      rows.filter fun row => collate row.messageId != collate messageId := by
  rw [filter_updated rows messageId messageId key, updated]
  conv_rhs => rw [← List.map_id (rows.filter _)]
  refine List.map_congr_left fun row member => ?_
  have apart := (List.mem_filter.mp member).2
  rw [if_neg (by simpa using apart), id]

section Views

variable {messageId : String} {world world' : World}

/-- An UPDATE of a message is not seen from the others. -/
theorem others_updateRow (world : World) (messageId : String) {set : Entry → Entry}
    (key : ∀ entry, (set entry).messageId = entry.messageId) :
    others collate messageId (world.updateRow collate messageId set) =
      others collate messageId world :=
  congrArg (·, _) (filter_updated_own world.rows messageId key)

/-- An UPDATE of another message looks the same in worlds that look the same. -/
theorem others_updateRow_congr (subject : String) {set : Entry → Entry}
    (key : ∀ entry, (set entry).messageId = entry.messageId)
    (agree : others collate messageId world = others collate messageId world') :
    others collate messageId (world.updateRow collate subject set) =
      others collate messageId (world'.updateRow collate subject set) := by
  obtain ⟨rows, histories⟩ := Prod.mk.inj agree
  refine Prod.ext ?_ histories
  have here := @filter_updated collate world.rows messageId subject set key
  have there := @filter_updated collate world'.rows messageId subject set key
  rw [rows, ← there] at here
  exact here

/-- A recorded failure, seen from the others. -/
theorem others_record (world : World) (failure : Failure) :
    others collate messageId { world with failures := world.failures ++ [failure] } =
      ((others collate messageId world).1, (others collate messageId world).2.1,
        (others collate messageId world).2.2 ++
          if failure.messageId != messageId then [failure] else []) := by
  simp only [others, List.filter_append, List.filter_singleton]
  cases failure.messageId != messageId <;> rfl

/-- A call about a message shows nothing to the others: their rows, their failures and their
publications are the same before and after. -/
theorem exec_own {r : Request} (own : r.subject = some messageId) (turn : Turn) :
    others collate messageId (exec collate world turn r).1 = others collate messageId world := by
  cases r with
  | mqClient | scanPending => cases own
  | publish msg =>
    obtain rfl := Option.some.inj own
    simp only [exec]
    split
    · rfl
    · simp [others]
  | markAcked subject =>
    obtain rfl := Option.some.inj own
    rcases attempt_world turn.thrown world (world.updateRow collate subject acknowledge)
      (.ok () : Except Fault Unit) with same | same
    · exact congrArg _ same
    · exact (congrArg _ same).trans (others_updateRow world subject acknowledge_key)
  | markFailed subject retryCount backoffSeconds =>
    obtain rfl := Option.some.inj own
    rcases attempt_world turn.thrown world (world.fail collate subject retryCount backoffSeconds)
      (.ok () : Except Fault Unit) with same | same
    · exact congrArg _ same
    · apply (congrArg _ same).trans
      apply (others_record (world.updateRow collate subject _) _).trans
      rw [others_updateRow]
      · simp
      · exact fun _ => rfl
  | markGiveUp subject =>
    obtain rfl := Option.some.inj own
    rcases attempt_world turn.thrown world
      (world.updateRow collate subject fun row => { row with status := .kFailed })
      (.ok () : Except Fault Unit) with same | same
    · exact congrArg _ same
    · exact (congrArg _ same).trans (others_updateRow world subject fun _ => rfl)

/-- An attempt in two worlds that look the same. -/
theorem attempt_other {thrown : Option (Fault × Bool)} {next next' : World}
    (agree : others collate messageId world = others collate messageId world')
    (agreeNext : others collate messageId next = others collate messageId next') :
    others collate messageId (attempt thrown world next (.ok () : Except Fault Unit)).1 =
      others collate messageId (attempt thrown world' next' (.ok () : Except Fault Unit)).1 ∧
    (attempt thrown world next (.ok () : Except Fault Unit)).2 =
      (attempt thrown world' next' (.ok () : Except Fault Unit)).2 := by
  unfold attempt
  split
  · exact ⟨agreeNext, rfl⟩
  · exact ⟨agreeNext, rfl⟩
  · exact ⟨agree, rfl⟩

/-- A call about another message does the same in worlds that look the same. Its reply too
depends only on what is not the message's own. -/
theorem exec_other {r : Request} {subject : String} (its : r.subject = some subject) (turn : Turn)
    (agree : others collate messageId world = others collate messageId world')
    (clock : world.clock = world'.clock) :
    others collate messageId (exec collate world turn r).1 =
      others collate messageId (exec collate world' turn r).1 ∧
    (exec collate world turn r).2 = (exec collate world' turn r).2 := by
  cases r with
  | mqClient | scanPending => cases its
  | publish msg =>
    simp only [exec]
    split
    · exact ⟨agree, rfl⟩
    · refine ⟨?_, rfl⟩
      simp only [others, Prod.mk.injEq] at agree
      simp only [others, List.filter_append, agree]
  | markAcked other =>
    exact attempt_other agree (others_updateRow_congr other acknowledge_key agree)
  | markFailed other retryCount backoffSeconds =>
    apply attempt_other agree
    apply (others_record (world.updateRow collate other _) _).trans
    refine Eq.trans ?_ (others_record (world'.updateRow collate other _) _).symm
    have agreed : others collate messageId (world.updateRow collate other fun row =>
        { row with retryCount := retryCount, nextRetryTime := world'.clock + backoffSeconds }) =
        others collate messageId (world'.updateRow collate other fun row =>
          { row with retryCount := retryCount, nextRetryTime := world'.clock + backoffSeconds }) :=
      others_updateRow_congr other (fun _ => rfl) agree
    rw [clock, agreed]
  | markGiveUp other =>
    exact attempt_other agree (others_updateRow_congr other (fun _ => rfl) agree)

variable {luck luck' : Option String → Luck}

/-- A script about a message shows nothing to the others. -/
theorem execute_own {α : Type}
    {script : Script Request (fun r => Except Fault (Reply r)) α}
    (own : Script.Follows (about messageId) (fun _ _ => True) () script) (world : World) :
    others collate messageId (Script.execute (answer collate luck) world script).1 =
      others collate messageId world := by
  induction script generalizing world with
  | done => rfl
  | call r k inductionHypothesis =>
    apply (inductionHypothesis _ (own.2 _ trivial) _).trans
    exact exec_own own.1 _

/-- A script about another message does the same in worlds that look the same. -/
theorem execute_other {α : Type} {subject : String}
    {script : Script Request (fun r => Except Fault (Reply r)) α}
    (its : Script.Follows (about subject) (fun _ _ => True) () script)
    (same : luck (some subject) = luck' (some subject)) (world world' : World)
    (agree : others collate messageId world = others collate messageId world') :
    others collate messageId (Script.execute (answer collate luck) world script).1 =
      others collate messageId (Script.execute (answer collate luck') world' script).1 ∧
    (Script.execute (answer collate luck) world script).2 =
      (Script.execute (answer collate luck') world' script).2 := by
  induction script generalizing world world' with
  | done => exact ⟨agree, rfl⟩
  | call r k inductionHypothesis =>
    have called : others collate messageId (answer collate luck world r).1 =
        others collate messageId (answer collate luck' world' r).1 ∧
        (answer collate luck world r).2 = (answer collate luck' world' r).2 := by
      rw [answer, answer, its.1, ← same]
      exact exec_other its.1 _ agree rfl
    rw [Script.execute, Script.execute, called.2]
    exact inductionHypothesis _ (its.2 _ trivial) _ _ called.1

/-- The message's exceptions end with the message. -/
theorem relayBatch_cons (luck : Option String → Luck) (world : World) (msg : LocalMessage)
    (rest : List LocalMessage) :
    relayBatch collate luck world (msg :: rest) =
      relayBatch collate luck (Script.execute (answer collate luck) world (relayMessage msg)).1
        rest := by
  have caught : Script.execute (answer collate luck) world
      (tryCatch (relayMessage msg) fun _ => pure () : Relay Unit) =
      ((Script.execute (answer collate luck) world (relayMessage msg)).1, .ok ()) := by
    refine (Script.execute_bind (answer collate luck) (relayMessage msg)
      (catching fun _ => pure ()) world).trans ?_
    cases (Script.execute (answer collate luck) world (relayMessage msg)).2 with
    | error fault => rfl
    | ok value => rfl
  refine (Script.execute_bind (answer collate luck)
    (tryCatch (relayMessage msg) fun _ => pure () : Relay Unit)
    (following fun _ => relayEach rest) world).trans ?_
  rw [caught]
  rfl

/-- The fate of one message does not depend on that of the others: whatever befalls the calls
about it, the other rows come out the same. The executions here are parts of runs, by
`execute_reached`. -/
theorem isolated (world : World) : Isolated collate world := by
  intro messages messageId luck luck' same
  suffices together : ∀ world world',
      others collate messageId world = others collate messageId world' →
      others collate messageId (relayBatch collate luck world messages).1 =
        others collate messageId (relayBatch collate luck' world' messages).1 ∧
      (relayBatch collate luck world messages).2 = .ok () from together world world rfl
  induction messages with
  | nil => exact fun _ _ agree => ⟨agree, rfl⟩
  | cons msg rest inductionHypothesis =>
    intro world world' agree
    rw [relayBatch_cons, relayBatch_cons]
    apply inductionHypothesis
    have its := relayMessage_about msg
    by_cases own : msg.messageId = messageId
    · rw [own] at its
      rw [execute_own its, execute_own its]
      exact agree
    · exact (execute_other its (same _ (by simpa using own)) world world' agree).1

/-- What is left of the round has no bearing on a call. -/
theorem exec_running (world : World) (rest : Option Rest) (turn : Turn) (r : Request) :
    exec collate { world with running := rest } turn r =
      ({ (exec collate world turn r).1 with running := rest }, (exec collate world turn r).2) := by
  cases r with
  | mqClient | scanPending | publish | markAcked | markFailed | markGiveUp =>
    rcases turn with ⟨_ | ⟨fault, _ | _⟩, confirmed⟩ <;> rfl

/-- A round goes on whether it is noted as running or not. -/
theorem resume_running (world : World) (before : Option Rest) (rest : Rest) :
    { world with running := before }.resume rest = world.resume rest := by
  cases rest <;> rfl

/-- A script that is carried out to its end is a run of the system, so `Isolated` speaks of
rounds as they happen: each call with its own time, answer or exception. -/
theorem execute_reached (luck : Option String → Luck) (rest : Rest) (world : World) :
    Transitions.Reached (step collate) (fun _ _ => True) (world.resume rest)
      { (Script.execute (answer collate luck) world rest).1 with running := none } := by
  induction rest generalizing world with
  | done outcome => exact .initial
  | call r k inductionHypothesis =>
    let timed : World := { world with clock := (luck r.subject).time }
    let turn : Turn := (luck r.subject).turn r
    have ticked : step collate (world.resume (.call r k)) (.tick timed.clock) =
        some (timed.resume (.call r k)) := rfl
    have called : step collate (timed.resume (.call r k)) (.relay turn) =
        some ((answer collate luck world r).1.resume (k (answer collate luck world r).2)) := by
      have moved : exec collate (timed.resume (.call r k)) turn r =
          ({ (exec collate timed turn r).1 with running := some (.call r k) },
            (exec collate timed turn r).2) := exec_running timed (some (.call r k)) turn r
      change some ((exec collate (timed.resume (.call r k)) turn r).1.resume
        (k (exec collate (timed.resume (.call r k)) turn r).2)) = _
      rw [moved, resume_running]
      rfl
    refine .trans (.step _ (.step _ .initial trivial ticked) trivial called) ?_
    exact inductionHypothesis _ _

end Views

/-- In every run of rounds, with any results of `publish`, exceptions and crashes, every row's
state is backed by its history, rows only progress, and a message's exceptions stay with it.
Retry counts, due times and statuses are read off the history of the calls, not assumed. -/
theorem run_lifeCycle {clock : Int} {past : List World} {world : World}
    (run : Transitions.Run (step collate) (fun _ _ => True) (.initial clock) past world) :
    (∀ row ∈ world.rows, LifeCycle world.published world.failures row) ∧
      (∀ earlier ∈ past, Progresses earlier.rows world.rows) ∧ Isolated collate world := by
  have sound : ∀ {world}, Transitions.Reached (step collate) (fun _ _ => True) (.initial clock) world →
      Sound collate world := fun reached =>
    reached.invariant ⟨⟨List.nodup_nil, nofun, nofun⟩, nofun⟩
      fun _ _ _ before _ taken => (step_sound before taken).1
  refine ⟨(sound run.reached).kept.backed, ?_, isolated world⟩
  refine run.related (fun before after => Progresses before.rows after.rows) ?_ ?_
  · exact fun _ _ _ first second => first.trans second
  · exact fun _ _ _ reached _ taken => (step_sound (sound reached) taken).2

/-- A message of the shop. -/
def paidMessage (messageId : String) : LocalMessage :=
  ⟨messageId, "ORDER_PAID", "7001", "trade.exchange", "order.paid", "payload", .kPending, 0, ""⟩

/-- A round over one message: the client, the scan, `publish` with a result and the mark. -/
def oneMessage (confirmed : Bool) : List Event :=
  [.round, .relay ⟨none, true⟩, .relay ⟨none, true⟩, .relay ⟨none, confirmed⟩, .relay ⟨none, true⟩]

/-- Two messages, the first of which fails at 100 and is put off until 105, while the
second is confirmed; later the first one fails again, and its mark throws. -/
theorem two_lifeCycle : ∃ past world,
    Transitions.Run (step id) (fun _ _ => True) (.initial 100) past world ∧
      world.rows.map (fun row => (row.status, row.retryCount, row.nextRetryTime)) =
        [(.kPending, 1, 105), (.kAcked, 0, 100)] ∧
      (∀ row ∈ world.rows, LifeCycle world.published world.failures row) ∧
        (∀ earlier ∈ past, Progresses earlier.rows world.rows) ∧ Isolated id world := by
  have ran : ((Transitions.runWhere (step id) (fun _ _ => true) (.initial 100)
      (.insert (paidMessage "m1") :: .insert (paidMessage "m2") :: oneMessage false ++
        [.relay ⟨none, true⟩, .relay ⟨none, true⟩, .tick 105] ++
        [.round, .relay ⟨none, true⟩, .relay ⟨none, true⟩, .relay ⟨none, false⟩,
          .relay ⟨some (.db, false), true⟩])).map fun world =>
          world.rows.map fun row => (row.status, row.retryCount, row.nextRetryTime)) =
      some [(.kPending, 1, 105), (.kAcked, 0, 100)] := by decide +kernel
  obtain ⟨world, last, shown⟩ := Option.map_eq_some_iff.mp ran
  have reached := Transitions.Reached.of_runWhere
    (fun _ _ _ => (trivial : True)) .initial last
  obtain ⟨past, run⟩ := reached.run
  exact ⟨past, world, run, shown, run_lifeCycle run⟩

end Rounds

end TradeReconcile
