import Mathlib
import TradeReconcile.IdGenerator

/-!
# Identifiers grow with every call

The timestamp and the sequence number together only grow: a reading above the
last timestamp restarts the sequence, an equal one counts it up, and a sequence
that wraps waits for a later reading. Inside the range of the timestamp field
the shifted fields do not overlap, so the identifier grows with the pair.
-/

namespace TradeReconcile.IdGenerator

/-- The sequence number fits its field. -/
def Sound (state : State) : Prop := state.gSequence.toNat < 4096

/-- What the timestamp and the sequence number amount to in the identifier. -/
def level (state : State) : Int :=
  (state.gLastTimestampMs - kEpochMs) * 2 ^ 22 + (2 ^ 17 + 2 ^ 12) + state.gSequence.toNat

/-- Shifted fields that do not overlap add up. -/
theorem fields_add {milliseconds sequence : Nat} (below : sequence < 2 ^ 12) :
    milliseconds <<< 22 ||| 1 <<< 17 ||| 1 <<< 12 ||| sequence =
      milliseconds * 2 ^ 22 + (2 ^ 17 + 2 ^ 12) + sequence := by
  have worker : 1 <<< 12 ||| sequence = 2 ^ 12 + sequence := by
    rw [← Nat.shiftLeft_add_eq_or_of_lt below, Nat.shiftLeft_eq, Nat.one_mul]
  have datacenter : 1 <<< 17 ||| (2 ^ 12 + sequence) = 2 ^ 17 + (2 ^ 12 + sequence) := by
    rw [← Nat.shiftLeft_add_eq_or_of_lt (by omega), Nat.shiftLeft_eq, Nat.one_mul]
  have timestamp : milliseconds <<< 22 ||| (2 ^ 17 + (2 ^ 12 + sequence)) =
      milliseconds * 2 ^ 22 + (2 ^ 17 + (2 ^ 12 + sequence)) := by
    rw [← Nat.shiftLeft_add_eq_or_of_lt (by omega), Nat.shiftLeft_eq]
  rw [Nat.or_assoc, Nat.or_assoc, worker, datacenter, timestamp]
  omega

/-- In range the identifier is the level of the globals that produced it. The shifts do not
overlap, so the fields can be added, and identifiers are ordered as levels are. -/
theorem assemble_eq_level {state : State} (inside : InRange state.gLastTimestampMs)
    (below : state.gSequence.toNat < 4096) :
    assemble state.gLastTimestampMs state.gSequence = level state := by
  obtain ⟨milliseconds, offset⟩ : ∃ milliseconds : Nat,
      state.gLastTimestampMs - kEpochMs = milliseconds :=
    ⟨(state.gLastTimestampMs - kEpochMs).toNat, by have := inside.1; omega⟩
  have small : milliseconds < 2 ^ 41 := by
    have := inside.2
    omega
  have fits : milliseconds * 2 ^ 22 < 2 ^ 63 := by omega
  have shifted : (BitVec.ofInt 64 milliseconds <<< kTimestampShift).toNat = milliseconds <<< 22 := by
    have width : kTimestampShift = 22 := rfl
    rw [BitVec.ofInt_natCast, BitVec.toNat_shiftLeft, BitVec.toNat_ofNat, width, Nat.shiftLeft_eq,
      Nat.shiftLeft_eq, Nat.mod_eq_of_lt (by omega : milliseconds < 2 ^ 64), Nat.mod_eq_of_lt (by omega)]
  have word : (BitVec.ofInt 64 milliseconds <<< kTimestampShift |||
      kDatacenterId <<< kDatacenterShift ||| kWorkerId <<< kWorkerShift |||
      state.gSequence).toNat = milliseconds * 2 ^ 22 + (2 ^ 17 + 2 ^ 12) + state.gSequence.toNat := by
    have datacenter : (kDatacenterId <<< kDatacenterShift).toNat = 1 <<< 17 := by decide
    have worker : (kWorkerId <<< kWorkerShift).toNat = 1 <<< 12 := by decide
    simp only [BitVec.toNat_or, shifted, datacenter, worker]
    exact fields_add (by omega)
  rw [assemble, offset, BitVec.toInt_eq_toNat_of_lt (by omega), word, level, offset]
  push_cast
  rfl

/-- The spin ends on the first reading above the last timestamp. -/
theorem waitNextMs_some {lastMs nowMs : Int} {readings later : List Int}
    (ended : waitNextMs lastMs readings = some (nowMs, later)) :
    lastMs < nowMs ∧ ∃ spent, readings = spent ++ nowMs :: later := by
  induction readings with
  | nil => simp [waitNextMs] at ended
  | cons ts rest inductionHypothesis =>
    rw [waitNextMs] at ended
    split at ended
    · obtain ⟨above, spent, split⟩ := inductionHypothesis ended
      exact ⟨above, ts :: spent, by rw [split]; rfl⟩
    · rename_i above
      cases ended
      exact ⟨by omega, [], rfl⟩

/-- The sequence number counts up inside its field. -/
theorem next_sequence (gSequence : BitVec 64) :
    ((gSequence + 1) &&& kMaxSequence).toNat = (gSequence.toNat + 1) % 4096 := by
  have mask : kMaxSequence.toNat = 2 ^ 12 - 1 := by decide
  rw [BitVec.toNat_and, mask, Nat.and_two_pow_sub_one_eq_mod, BitVec.toNat_add]
  simp

/-- All that one call can do. A refused one leaves the globals alone; any other
one issues the word of the globals it leaves, which lie above the earlier ones:
in a later millisecond, or in the same one with the next sequence number. -/
theorem nextId_cases {state after : State} {first : Int} {rest later : List Int}
    {result : Except String String} (called : nextId state (first :: rest) = some (result, after, later)) :
    ((∃ text, result = .error text) ∧ first < state.gLastTimestampMs ∧ after = state ∧ later = rest) ∨
    (result = .ok (toString (assemble after.gLastTimestampMs after.gSequence)) ∧
      state.gLastTimestampMs ≤ first ∧
      (∃ spent, first :: rest = spent ++ later ∧ after.gLastTimestampMs ∈ spent) ∧
      (state.gLastTimestampMs < after.gLastTimestampMs ∧ after.gSequence = 0 ∨
        after.gLastTimestampMs = state.gLastTimestampMs ∧ first = state.gLastTimestampMs ∧
          after.gSequence = (state.gSequence + 1) &&& kMaxSequence ∧ after.gSequence ≠ 0)) := by
  rw [nextId] at called
  by_cases backwards : first < state.gLastTimestampMs
  · rw [if_pos backwards] at called
    cases called
    exact Or.inl ⟨⟨_, rfl⟩, backwards, rfl, rfl⟩
  rw [if_neg backwards] at called
  right
  by_cases same : first = state.gLastTimestampMs
  · rw [if_pos same] at called
    by_cases wrapped : (state.gSequence + 1) &&& kMaxSequence = 0
    · -- the sequence is exhausted: the timestamp is replaced, the sequence is already zero
      rw [if_pos wrapped] at called
      obtain ⟨⟨nowMs, remaining⟩, waited, issued⟩ := Option.map_eq_some_iff.mp called
      obtain ⟨above, spent, split⟩ := waitNextMs_some waited
      cases issued
      exact ⟨rfl, by omega, ⟨first :: spent ++ [nowMs], by simp [split], by simp⟩, Or.inl ⟨above, wrapped⟩⟩
    · rw [if_neg wrapped] at called
      cases called
      exact ⟨rfl, by omega, ⟨[first], rfl, by simp⟩, Or.inr ⟨same, same, rfl, wrapped⟩⟩
  · rw [if_neg same] at called
    cases called
    exact ⟨rfl, by omega, ⟨[first], rfl, by simp⟩, Or.inl ⟨by dsimp only; omega, rfl⟩⟩

/-- A call that returns raises the level and issues it. Within one millisecond the sequence
grows; when it wraps, the call waits for a later reading. -/
theorem returned_level {state after : State} {first : Int} {rest later : List Int} {text : String}
    (within : ∀ reading ∈ first :: rest, InRange reading) (sound : Sound state)
    (called : nextId state (first :: rest) = some (.ok text, after, later)) :
    text = toString (level after) ∧ level state < level after ∧ Sound after ∧
      ∀ reading ∈ later, InRange reading := by
  obtain ⟨⟨_, error⟩, -⟩ | ⟨issued, -, ⟨spent, split, member⟩, growth⟩ := nextId_cases called
  · cases error
  rw [split] at within
  have inside : InRange after.gLastTimestampMs := within _ (by simp [member])
  have bounded : after.gSequence.toNat < 4096 := by
    obtain ⟨-, reset⟩ | ⟨-, -, counted, -⟩ := growth
    · simp [reset]
    · rw [counted, next_sequence]
      omega
  have raised : level state < level after := by
    have before : state.gSequence.toNat < 4096 := sound
    obtain ⟨later, -⟩ | ⟨same, -, counted, nonzero⟩ := growth
    · simp only [level]
      omega
    · have step : after.gSequence.toNat = (state.gSequence.toNat + 1) % 4096 := by
        rw [counted, next_sequence]
      have positive : after.gSequence.toNat ≠ 0 := fun zero => nonzero (BitVec.eq_of_toNat_eq zero)
      simp only [level, same]
      omega
  have text_eq : text = toString (level after) := by
    rw [← assemble_eq_level inside bounded]
    exact Except.ok.inj issued
  exact ⟨text_eq, raised, bounded, fun reading later => within reading (by simp [later])⟩

/-- A refused call is one whose first reading lies below the last timestamp;
it leaves the globals and takes no further reading. -/
theorem refused_iff {state after : State} {first : Int} {rest later : List Int}
    {result : Except String String} (called : nextId state (first :: rest) = some (result, after, later)) :
    ((∃ text, result = .error text) ↔ first < state.gLastTimestampMs) ∧
      ((∃ text, result = .error text) → after = state ∧ later = rest) := by
  obtain ⟨error, backwards, kept, untaken⟩ | ⟨issued, forwards, -, -⟩ := nextId_cases called
  · exact ⟨⟨fun _ => backwards, fun _ => error⟩, fun _ => ⟨kept, untaken⟩⟩
  · have returned : ¬ ∃ text, result = .error text := by
      rintro ⟨text, error⟩
      rw [issued] at error
      cases error
    exact ⟨⟨fun error => absurd error returned, fun below => absurd below (by omega)⟩,
      fun error => absurd error returned⟩

/-- One call of a run: it was made on a non-empty rest of the readings. -/
theorem calls_succ {count : Nat} {state : State} {readings : List Int} {call : Call} {log : List Call}
    (made : calls (count + 1) state readings = call :: log) :
    ∃ first rest later, readings = first :: rest ∧
      nextId state (first :: rest) = some (call.result, call.after, later) ∧
      call.before = state ∧ call.first = first ∧ log = calls count call.after later := by
  rw [calls] at made
  split at made
  · cases made
  · rename_i result after later called
    cases made
    cases readings with
    | nil => cases called
    | cons first rest => exact ⟨first, rest, later, rfl, called, rfl, rfl, rfl⟩

/-- Every call takes the globals that the one before it left. -/
theorem calls_chain (count : Nat) (state : State) (readings : List Int) :
    (calls count state readings).IsChain (fun earlier later => later.before = earlier.after) ∧
      ∀ call ∈ (calls count state readings).head?, call.before = state := by
  induction count generalizing state readings with
  | zero => simp [calls]
  | succ count inductionHypothesis =>
    cases made : calls (count + 1) state readings with
    | nil => simp
    | cons call log =>
      obtain ⟨first, rest, later, -, -, before, -, remaining⟩ := calls_succ made
      obtain ⟨chain, next⟩ := inductionHypothesis call.after later
      rw [← remaining] at chain next
      refine ⟨chain.cons next, ?_⟩
      simpa using before

/-- From sound globals on, the identifiers of the calls that return lie above
the level of the globals, each above the one before. -/
theorem issued_increase (count : Nat) (state : State) (readings : List Int)
    (within : ∀ reading ∈ readings, InRange reading) (sound : Sound state) :
    ∃ ids : List Int, issued (calls count state readings) = ids.map toString ∧
      ids.Pairwise (· < ·) ∧ ∀ id ∈ ids, level state < id := by
  induction count generalizing state readings with
  | zero => exact ⟨[], rfl, List.Pairwise.nil, by simp⟩
  | succ count inductionHypothesis =>
    cases made : calls (count + 1) state readings with
    | nil => exact ⟨[], rfl, List.Pairwise.nil, by simp⟩
    | cons call log =>
      obtain ⟨first, rest, later, taken, called, -, -, remaining⟩ := calls_succ made
      rw [taken] at within
      cases result : call.result with
      | error text =>
        obtain ⟨kept, untaken⟩ := (refused_iff called).2 ⟨text, result⟩
        obtain ⟨ids, texts, increasing, above⟩ :=
          inductionHypothesis state rest (fun reading member => within reading (by simp [member])) sound
        refine ⟨ids, ?_, increasing, above⟩
        rw [remaining, kept, untaken]
        simpa [issued, result, Except.toOption] using texts
      | ok text =>
        rw [result] at called
        obtain ⟨text_eq, raised, next, inside⟩ := returned_level within sound called
        obtain ⟨ids, texts, increasing, above⟩ := inductionHypothesis call.after later inside next
        refine ⟨level call.after :: ids, ?_, List.pairwise_cons.mpr ⟨above, increasing⟩, ?_⟩
        · rw [List.map_cons, ← texts, ← text_eq, ← remaining]
          simp [issued, result, Except.toOption]
        · intro id member
          obtain rfl | tail := List.mem_cons.mp member
          · exact raised
          · exact raised.trans (above id tail)

/-- What every call of a run in range does with the globals that it finds. The induction is on
the calls; a refused call leaves the globals to the next one as they were. -/
theorem calls_each (count : Nat) (state : State) (readings : List Int)
    (within : ∀ reading ∈ readings, InRange reading) (sound : Sound state) :
    ∀ call ∈ calls count state readings,
      ((∃ text, call.result = .error text) ↔ call.first < call.before.gLastTimestampMs) ∧
      ((∃ text, call.result = .error text) → call.after = call.before) ∧
      ∀ text, call.result = .ok text → text = toString (level call.after) := by
  induction count generalizing state readings with
  | zero => simp [calls]
  | succ count inductionHypothesis =>
    intro wanted member
    cases made : calls (count + 1) state readings with
    | nil =>
      rw [made] at member
      cases member
    | cons call log =>
      obtain ⟨first, rest, later, taken, called, before, reading, remaining⟩ := calls_succ made
      rw [taken] at within
      have split := nextId_cases called
      have next : Sound call.after ∧ ∀ reading ∈ later, InRange reading := by
        cases result : call.result with
        | error text =>
          obtain ⟨kept, untaken⟩ := (refused_iff called).2 ⟨text, result⟩
          rw [kept, untaken]
          exact ⟨sound, fun reading member => within reading (by simp [member])⟩
        | ok text =>
          rw [result] at called
          exact (returned_level within sound called).2.2
      rw [made, remaining] at member
      obtain rfl | tail := List.mem_cons.mp member
      · rw [before, reading]
        refine ⟨(refused_iff called).1, fun error => ((refused_iff called).2 error).1, fun text result => ?_⟩
        rw [result] at called
        exact (returned_level within sound called).1
      · exact inductionHypothesis call.after later next.2 next.1 wanted tail

/-- Over any readings in range, in any order, the identifiers of the calls that
return strictly increase and so are distinct. A call is refused exactly when its
first reading lies below the last timestamp in use, the one of the globals that
the call before it left, and it then changes neither global. -/
theorem identifiers_increase (count : Nat) (readings : List Int)
    (within : ∀ reading ∈ readings, InRange reading) :
    (∃ ids : List Int, issued (calls count {} readings) = ids.map toString ∧ ids.Pairwise (· < ·)) ∧
      (issued (calls count {} readings)).Nodup ∧
      (calls count {} readings).IsChain (fun earlier later => later.before = earlier.after) ∧
      ∀ call ∈ calls count {} readings,
        ((∃ text, call.result = .error text) ↔ call.first < call.before.gLastTimestampMs) ∧
        ((∃ text, call.result = .error text) → call.after = call.before) ∧
        ∀ text, call.result = .ok text → text = toString (level call.after) := by
  have sound : Sound {} := Nat.zero_lt_succ _
  obtain ⟨ids, texts, increasing, -⟩ := issued_increase count {} readings within sound
  refine ⟨⟨ids, texts, increasing⟩, ?_, (calls_chain count {} readings).1,
    calls_each count {} readings within sound⟩
  rw [texts]
  have distinct : ids.Nodup := increasing.imp fun below => below.ne
  exact distinct.map fun first second same => Int.repr_injective same

/-- The readings of a busy millisecond: 4096 calls use its sequence numbers up, the next one
spins until the clock has gone on, one more call follows, and then the clock steps back and
catches up again. -/
def busyReadings : List Int :=
  List.replicate 4098 kEpochMs ++ [kEpochMs + 7, kEpochMs + 7, kEpochMs + 3, kEpochMs + 7]

/-- The sequence wraps and the clock goes back. No identifier comes twice, and the one call
that reads an earlier time is refused. -/
theorem unsteady_clock :
    (∀ reading ∈ busyReadings, InRange reading) ∧
      (issued (calls 4100 {} busyReadings)).drop 4094 =
        ["139262", "139263", "29495296", "29495297", "29495298"] ∧
      (issued (calls 4100 {} busyReadings)).Nodup := by
  have inside : ∀ reading ∈ busyReadings, InRange reading := by
    intro reading member
    rcases List.mem_append.mp member with same | last
    · rw [List.eq_of_mem_replicate same]
      decide
    · clear member
      revert reading
      decide
  exact ⟨inside, by decide +kernel, (identifiers_increase 4100 _ inside).2.1⟩

end TradeReconcile.IdGenerator
