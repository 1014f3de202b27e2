import Mathlib.Algebra.BigOperators.Group.List.Basic
import Mathlib.Algebra.Order.Group.Nat
import TradeReconcile.Properties.LifeCycle

/-!
# Every outbox message is closed

A pending message is good for eight `publish` calls at most, less those that were counted.
A round that finds a message due takes at least one from what is left of the table: a
result of true closes the row, a result of false counts against it or closes it. So once
nothing throws and no payment comes in, finitely many rounds close every message, whatever
`publish` returns, wherever the clock stands and however many messages wait beyond the
limit of a scan.
-/

namespace TradeReconcile

namespace Rounds

open Scripts Transitions
open MessageRelayTask (kBatchLimit kMaxRetries kBaseBackoffSeconds)

variable {collate : String → String}

/-- What the clock shows. -/
def World.atTime (world : World) (clock : Int) : World := { world with clock := clock }

/-- An event, and what the clock shows then. -/
def stepAt (collate : String → String) (world : World) (moment : Int × Event) : Option World :=
  step collate (world.atTime moment.1) moment.2

/-- Nothing throws or crashes and no message is added. The clock does not go back, and a round
starts when a message is due. -/
def Proceeds (world : World) (moment : Int × Event) : Prop :=
  world.clock ≤ moment.1 ∧
    match moment.2 with
    | .round => ∃ row ∈ world.rows, row.status = .kPending ∧ row.nextRetryTime ≤ moment.1
    | .relay turn => turn.thrown = none
    | _ => False

/-- No round is running, and every message was confirmed or failed eight times. -/
def Closed (world : World) : Prop :=
  world.running = none ∧ ∀ row ∈ world.rows,
    (row.status = .kAcked ∧ (row.messageId, true) ∈ world.published) ∨
      (row.status = .kFailed ∧ 8 ≤ world.published.count (row.messageId, false))

/-- How a call may be answered then. -/
def Undisturbed (collate : String → String) (world : World) (r : Request)
    (called : World × Except Fault (Reply r)) : Prop :=
  ∃ clock confirmed, world.clock ≤ clock ∧
    called = exec collate (world.atTime clock) ⟨none, confirmed⟩ r

/-! What is left of the table. -/

/-- The `publish` calls that a row is good for. -/
def allowance (row : Entry) : Nat :=
  if row.status = .kPending then kMaxRetries - row.retryCount else 0

/-- The failures that the whole table can still take. -/
def allowances (rows : List Entry) : Nat := (rows.map allowance).sum

section Allowances

variable {rows : List Entry} {published : List (String × Bool)} {failures : List Failure}
  {row : Entry}

/-- An UPDATE of one message moves what is left by what it does to its row. Ids are unique, so
exactly one row changes and the sum changes by its summand. -/
theorem Kept.allowances_updated (kept : Kept collate rows published failures)
    (stored : row ∈ rows) (set : Entry → Entry) :
    allowances (updated collate rows row.messageId set) + allowance row =
      allowances rows + allowance (set row) := by
  obtain ⟨left, right, rfl⟩ := List.append_of_mem stored
  have keys := kept.keys
  rw [List.map_append, List.map_cons, List.nodup_append, List.nodup_cons] at keys
  obtain ⟨-, ⟨rightApart, -⟩, leftApart⟩ := keys
  have untouched : ∀ part : List Entry,
      (∀ other ∈ part, collate other.messageId ≠ collate row.messageId) →
      updated collate part row.messageId set = part := by
    intro part apart
    rw [updated]
    conv_rhs => rw [← List.map_id part]
    refine List.map_congr_left fun other member => ?_
    rw [if_neg (by simpa using apart other member), id]
  have before := untouched left fun other member =>
    leftApart _ (List.mem_map_of_mem member) _ List.mem_cons_self
  have after := untouched right fun other member same =>
    rightApart (List.mem_map.mpr ⟨other, member, same⟩)
  have parts : updated collate (left ++ row :: right) row.messageId set =
      left ++ set row :: right := by
    conv_rhs => rw [← before, ← after]
    simp [updated]
  rw [parts]
  simp only [allowances, List.map_append, List.map_cons, List.sum_append, List.sum_cons]
  omega

end Allowances

section Calls

variable {world : World} {progress : Progress} {msg : LocalMessage}

/-- What a message's calls leave: its row has one `publish` call less. -/
def Charged (collate : String → String) (progress : Progress) (world : World) (messageId : String)
    (last : World) : Prop :=
  Kept collate last.rows last.published last.failures ∧
    allowances last.rows + 1 ≤ allowances world.rows ∧
    ∃ after, Tracks last.rows last.published after ∧ Spares progress messageId after

/-- A mark that does not throw charges the row it is about. -/
theorem marked_charged {r : Request} {called : World × Except Fault (Reply r)} {row : Entry}
    (set : Entry → Entry) (left : Called collate progress world r called)
    (kept : Kept collate world.rows world.published world.failures) (stored : row ∈ world.rows)
    (drops : relaying.after progress r called.2 =
      ⟨progress.batch.filter (·.messageId ≠ row.messageId), none⟩)
    (rows : called.1.rows = updated collate world.rows row.messageId set)
    (less : allowance (set row) < allowance row) :
    Charged collate progress world row.messageId called.1 := by
  refine ⟨left.kept, ?_, _, left.tracks, ?_⟩
  · have moved := kept.allowances_updated stored set
    rw [rows]
    omega
  · rw [drops]
    intro other member apart
    exact List.mem_filter.mpr ⟨member, by simpa using apart⟩

/-- One message of the batch uses up some of what is left to its row: a confirm closes it, a
failure counts one retry or, at the bound, closes it as failed. This is where the measure
falls, whatever publish returns. -/
theorem relayMessage_ensures (kept : Kept collate world.rows world.published world.failures)
    (tracks : Tracks world.rows world.published progress) (scanned : msg ∈ progress.batch) :
    Script.Ensures (Undisturbed collate)
      (fun last _ => Charged collate progress world msg.messageId last) world
      (relayMessage msg) := by
  obtain ⟨row, stored, same, pending, count⟩ := tracks.scanned msg scanned
  have bounded := (kept.backed row stored).retries
  have allowed : allowance row = kMaxRetries - row.retryCount := if_pos pending
  rw [kMaxRetries] at allowed
  apply Script.Ensures.bind
  rintro _ ⟨clock, confirmed, -, rfl⟩
  have permitted : relaying.permits progress (.publish msg) := scanned
  obtain ⟨sentKept, -, -, sentTracks⟩ := @exec_called collate (world.atTime clock) progress kept
    tracks (.publish msg) permitted ⟨none, confirmed⟩
  cases confirmed with
  | true =>
    rintro _ ⟨later, last, -, rfl⟩
    have marked := @exec_called collate
      ((exec collate (world.atTime clock) ⟨none, true⟩ (.publish msg)).1.atTime later) _
      sentKept sentTracks (.markAcked msg.messageId) ⟨msg, scanned, rfl, rfl⟩ ⟨none, last⟩
    rw [← same] at marked ⊢
    have less : allowance (acknowledge row) < allowance row := by
      rw [allowed, acknowledge, if_pos pending]
      change 0 < 8 - row.retryCount
      omega
    have charged := marked_charged acknowledge marked sentKept stored rfl rfl less
    exact charged
  | false =>
    change Script.Ensures _ _ _ (ite _ _ _)
    split
    · rename_i enough
      rintro _ ⟨later, last, -, rfl⟩
      have marked := @exec_called collate
        ((exec collate (world.atTime clock) ⟨none, false⟩ (.publish msg)).1.atTime later) _
        sentKept sentTracks (.markGiveUp msg.messageId) ⟨msg, scanned, rfl, rfl, enough⟩
        ⟨none, last⟩
      rw [← same] at marked ⊢
      have less : allowance { row with status := .kFailed } < allowance row := by
        rw [allowed]
        change 0 < 8 - row.retryCount
        omega
      have charged := marked_charged (fun row => { row with status := .kFailed }) marked sentKept
        stored rfl rfl less
      exact charged
    · rename_i fewer
      rintro _ ⟨later, last, -, rfl⟩
      have marked := @exec_called collate
        ((exec collate (world.atTime clock) ⟨none, false⟩ (.publish msg)).1.atTime later) _
        sentKept sentTracks
        (.markFailed msg.messageId (msg.retryCount + 1) (kBaseBackoffSeconds * 2 ^ msg.retryCount))
        ⟨msg, scanned, rfl, rfl, rfl, Nat.lt_of_not_le fewer, rfl⟩ ⟨none, last⟩
      rw [← same] at marked ⊢
      have less : ∀ time, allowance
          { row with retryCount := msg.retryCount + 1, nextRetryTime := time } < allowance row := by
        intro time
        rw [allowed, allowance, if_pos pending, kMaxRetries, ← count]
        rw [← count, kMaxRetries] at fewer
        dsimp only
        omega
      have charged := marked_charged _ marked sentKept stored rfl rfl (less _)
      exact charged

/-- A batch takes one from what is left for every message. The induction is on the messages; a
message is confirmed, given up, or has one failure less to come. -/
theorem relayEach_ensures (messages : List LocalMessage) {world : World} {progress : Progress}
    (kept : Kept collate world.rows world.published world.failures)
    (tracks : Tracks world.rows world.published progress) (scanned : messages ⊆ progress.batch)
    (distinct : (messages.map LocalMessage.messageId).Nodup) :
    Script.Ensures (Undisturbed collate)
      (fun last _ => Kept collate last.rows last.published last.failures ∧
        allowances last.rows + messages.length ≤ allowances world.rows) world
      (relayEach messages) := by
  induction messages generalizing world progress with
  | nil => exact ⟨kept, le_refl _⟩
  | cons msg rest inductionHypothesis =>
    rw [List.cons_subset] at scanned
    rw [List.map_cons, List.nodup_cons] at distinct
    apply Script.Ensures.bind
    apply Script.Ensures.bind
    apply (relayMessage_ensures kept tracks scanned.1).mono
    rintro middle outcome ⟨still, less, after, left, spares⟩
    have next : rest ⊆ after.batch := by
      intro other member
      refine spares other (scanned.2 member) fun same => distinct.1 ?_
      rw [← same]
      exact List.mem_map_of_mem member
    have others : Script.Ensures (Undisturbed collate)
        (fun last _ => Kept collate last.rows last.published last.failures ∧
          allowances last.rows + (rest.length + 1) ≤ allowances world.rows) middle
        (relayEach rest) := by
      apply (inductionHypothesis still left next distinct.2).mono
      rintro last _ ⟨keeps, fewer⟩
      exact ⟨keeps, by omega⟩
    cases outcome with
    | error fault => exact others
    | ok value => exact others

/-- A round that finds a message due leaves less than there was, also when more are due than
one scan takes. -/
theorem relay_ensures (kept : Kept collate world.rows world.published world.failures) {row : Entry}
    (stored : row ∈ world.rows) (pending : row.status = .kPending)
    (due : row.nextRetryTime ≤ world.clock) :
    Script.Ensures (Undisturbed collate)
      (fun last _ => Kept collate last.rows last.published last.failures ∧
        allowances last.rows < allowances world.rows) world relay := by
  apply Script.Ensures.bind
  rintro _ ⟨first, confirmed, started, rfl⟩
  apply Script.Ensures.bind
  rintro _ ⟨clock, confirmed, later, rfl⟩
  have scanned := @exec_called collate (world.atTime clock) ⟨[], none⟩ kept ⟨nofun, nofun, nofun⟩
    (.scanPending kBatchLimit) trivial ⟨none, confirmed⟩
  apply (relayEach_ensures _ scanned.kept scanned.tracks (List.Subset.refl _)
    scanned.answers).mono
  rintro last outcome ⟨keeps, fewer⟩
  refine ⟨keeps, ?_⟩
  have found : 0 < ((world.atTime clock).scanPending kBatchLimit).length := by
    have among : row ∈ world.rows.filter fun row =>
        row.status == .kPending && row.nextRetryTime ≤ clock := by
      have now : row.nextRetryTime ≤ clock := due.trans (started.trans later)
      exact List.mem_filter.mpr ⟨stored, by simp [pending, now]⟩
    have some_ := List.length_pos_of_mem among
    rw [World.scanPending, List.length_map, List.length_take, kBatchLimit]
    exact lt_min (by decide) some_
  have fewer : allowances last.rows + ((world.atTime clock).scanPending kBatchLimit).length ≤
      allowances world.rows := fewer
  omega

/-- The rest of a round, wherever it was. -/
theorem rest_ensures {rest : Rest} (follows : Script.Follows relaying (fun _ _ => True) progress rest)
    (kept : Kept collate world.rows world.published world.failures)
    (tracks : Tracks world.rows world.published progress) :
    Script.Ensures (Undisturbed collate)
      (fun last _ => Kept collate last.rows last.published last.failures) world rest := by
  induction rest generalizing world progress with
  | done outcome => exact kept
  | call r k inductionHypothesis =>
    rintro _ ⟨clock, confirmed, -, rfl⟩
    have called := @exec_called collate (world.atTime clock) progress kept tracks r follows.1
      ⟨none, confirmed⟩
    exact inductionHypothesis _ (follows.2 _ called.answers) called.kept called.tracks

end Calls

/-! Rounds come to an end, and so do they all. -/

/-- A round that ends where the steps come to an end is part of them. -/
theorem ensures_acc {rest : Rest} {world : World}
    (ensures : Script.Ensures (Undisturbed collate)
      (fun last _ => Acc (Steps (stepAt collate) Proceeds) { last with running := none }) world
      rest) :
    Acc (Steps (stepAt collate) Proceeds) (world.resume rest) := by
  induction rest generalizing world with
  | done outcome => exact ensures
  | call r k inductionHypothesis =>
    refine .intro _ ?_
    rintro next ⟨⟨clock, event⟩, ⟨later, proceeds⟩, taken⟩
    cases event with
    | insert | tick | crash => cases proceeds
    | round => cases taken
    | relay turn =>
      obtain ⟨thrown, confirmed⟩ := turn
      obtain rfl : thrown = none := proceeds
      obtain rfl := Option.some.inj taken
      have moved := @exec_running collate (world.atTime clock) (some (.call r k)) ⟨none, confirmed⟩ r
      have called := inductionHypothesis _ (ensures _ ⟨clock, confirmed, later, rfl⟩)
      change Acc _ ((exec collate { world.atTime clock with running := some (.call r k) }
        ⟨none, confirmed⟩ r).1.resume (k (exec collate
          { world.atTime clock with running := some (.call r k) } ⟨none, confirmed⟩ r).2))
      rw [moved, resume_running]
      exact called

/-- Without a round a new one starts at the time the clock shows. -/
theorem stepAt_round {world : World} (idle : world.running = none) (clock : Int) :
    stepAt collate world (clock, .round) = some ((world.atTime clock).resume relay) := by
  simp only [stepAt, step, World.atTime, idle]

/-- Without a round the next step starts one, and the table has less left after it. The
induction is on what is left. -/
theorem idle_acc {world : World} (kept : Kept collate world.rows world.published world.failures)
    (idle : world.running = none) : Acc (Steps (stepAt collate) Proceeds) world := by
  induction total : allowances world.rows using Nat.strong_induction_on generalizing world with
  | h left inductionHypothesis =>
    refine .intro _ ?_
    rintro next ⟨⟨clock, event⟩, ⟨later, proceeds⟩, taken⟩
    cases event with
    | insert | tick | crash => cases proceeds
    | relay turn =>
      simp only [stepAt, step, World.atTime, idle] at taken
      cases taken
    | round =>
      obtain ⟨row, stored, pending, due⟩ := proceeds
      obtain rfl := Option.some.inj ((stepAt_round idle clock).symm.trans taken)
      apply ensures_acc
      have ends := @relay_ensures collate (world.atTime clock) kept row stored pending due
      apply ends.mono
      rintro last _ ⟨keeps, fewer⟩
      exact inductionHypothesis _ (total ▸ fewer) keeps rfl rfl

/-- Between two calls a round has a next call. -/
def Calls (world : World) : Prop := ∀ rest, world.running = some rest → ∃ r k, rest = .call r k

/-- What is left of a round is a call and its continuation. -/
theorem resume_calls (world : World) (rest : Rest) : Calls (world.resume rest) := by
  cases rest with
  | done outcome => rintro _ ⟨⟩
  | call r k =>
    rintro _ ⟨⟩
    exact ⟨r, k, rfl⟩

/-- Between two steps the thread is at rest or has its next call to make; a round never stands
at its end. This holds of every reached state. -/
theorem step_calls {world next : World} {event : Event} (calls : Calls world)
    (taken : step collate world event = some next) : Calls next := by
  cases event with
  | insert msg =>
    simp only [step, World.insert] at taken
    split at taken
    · cases taken
      exact calls
    · cases taken
  | tick clock =>
    cases taken
    exact calls
  | crash =>
    obtain rfl := Option.some.inj taken
    exact resume_calls world (.done (.ok ()))
  | round =>
    simp only [step] at taken
    split at taken
    · cases taken
      exact resume_calls _ _
    · cases taken
  | relay turn =>
    simp only [step] at taken
    split at taken
    · cases taken
      exact resume_calls _ _
    · cases taken

/-- From every sound state the steps end, mid-round included: the call in progress is followed
to the end of its round, and from there on whole rounds are counted. -/
theorem sound_acc {world : World} (sound : Sound collate world) (calls : Calls world) :
    Acc (Steps (stepAt collate) Proceeds) world := by
  cases running : world.running with
  | none => exact idle_acc sound.kept running
  | some rest =>
    obtain ⟨progress, follows, tracks⟩ := sound.running rest running
    obtain ⟨r, k, rfl⟩ := calls rest running
    have resumed : world.resume (.call r k) = world := by
      rw [World.resume, ← running]
    rw [← resumed]
    apply ensures_acc
    apply (rest_ensures follows sound.kept tracks).mono
    intro last _ keeps
    exact idle_acc keeps rfl

/-- A round that runs can go on, and without one the next can start until all is closed. So
steps come to an end only where every message is closed. -/
theorem sound_progress {world : World} (sound : Sound collate world) (calls : Calls world) :
    Closed world ∨ ∃ next, Steps (stepAt collate) Proceeds next world := by
  cases running : world.running with
  | some rest =>
    obtain ⟨r, k, rfl⟩ := calls rest running
    obtain ⟨next, taken⟩ : ∃ next,
        stepAt collate world (world.clock, .relay ⟨none, true⟩) = some next := by
      simp only [stepAt, step, World.atTime, running]
      exact ⟨_, rfl⟩
    have admitted : Proceeds world (world.clock, .relay ⟨none, true⟩) := ⟨le_refl _, rfl⟩
    exact .inr ⟨next, _, admitted, taken⟩
  | none =>
    by_cases waits : ∃ row ∈ world.rows, row.status = .kPending
    · obtain ⟨row, stored, pending⟩ := waits
      have admitted : Proceeds world (max world.clock row.nextRetryTime, .round) :=
        ⟨le_max_left _ _, row, stored, pending, le_max_right _ _⟩
      exact .inr ⟨_, _, admitted, stepAt_round running _⟩
    · refine .inl ⟨running, fun row stored => ?_⟩
      have life := sound.kept.backed row stored
      obtain pending | acked | failed := life.status
      · exact absurd ⟨row, stored, pending⟩ waits
      · exact .inl ⟨acked, life.acked acked⟩
      · exact .inr ⟨failed, (life.failed failed).1⟩

/-- From wherever payments, exceptions and crashes have led: when they are over, every message is
confirmed, or given up after eight failures, whatever `publish` returns. -/
theorem reached_closes {clock : Int} {world : World}
    (reached : Reached (step collate) (fun _ _ => True) (.initial clock) world) :
    Inevitable (stepAt collate) Proceeds Closed world := by
  have sound : Sound collate world := reached.invariant ⟨⟨List.nodup_nil, nofun, nofun⟩, nofun⟩
    fun _ _ _ before _ taken => (step_sound before taken).1
  have calls : Calls world := reached.invariant (resume_calls (.initial clock) (.done (.ok ())))
    fun _ _ _ before _ taken => step_calls before taken
  apply @Inevitable.of_acc World (Int × Event) _ _ (fun world => Sound collate world ∧ Calls world) _
    ?_ ?_ _ (sound_acc sound calls) ⟨sound, calls⟩
  · rintro world ⟨clock, event⟩ next ⟨sound, calls⟩ - taken
    have timed : Sound collate (world.atTime clock) := ⟨sound.kept, sound.running⟩
    have timedCalls : Calls (world.atTime clock) := calls
    exact ⟨(step_sound timed taken).1, step_calls timedCalls taken⟩
  · rintro world ⟨sound, calls⟩
    exact sound_progress sound calls

/-- Two messages in a round of which the first has failed and the second is on its way: both
are closed in the end. -/
theorem two_closes : ∃ world, world.running.isSome = true ∧
    world.rows.map Entry.retryCount = [1, 0] ∧
    Inevitable (stepAt id) Proceeds Closed world := by
  have ran : (runWhere (step id) (fun _ _ => true) (.initial 100)
      (.insert (paidMessage "m1") :: .insert (paidMessage "m2") :: oneMessage false)).any
        (fun world => world.running.isSome && world.rows.map Entry.retryCount == [1, 0]) = true := by
    decide +kernel
  obtain ⟨world, last, shown⟩ := (Option.any_eq_true ..).mp ran
  simp only [Bool.and_eq_true, beq_iff_eq] at shown
  have reached := Reached.of_runWhere (fun _ _ _ => (trivial : True)) .initial last
  exact ⟨world, shown.1, shown.2, reached_closes reached⟩

end Rounds

end TradeReconcile
