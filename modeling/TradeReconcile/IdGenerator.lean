import Mathlib.Data.Int.Notation
import Mathlib.Data.List.Pairwise
import Mathlib.Data.Nat.Bitwise

/-!
# Snowflake identifiers

One call holds the mutex from its first clock reading to its result, so a
process is a sequence of calls over one sequence of readings. The readings are
a finite list: a call that still spins when they run out has not returned, and
no later call gets in. A reading below the last used timestamp is refused
before any of the two globals is written.
-/

namespace TradeReconcile.IdGenerator

/-- The first of January 2024, in milliseconds. -/
def kEpochMs : Int := 1704067200000
def kDatacenterIdBits : Nat := 5
def kWorkerIdBits : Nat := 5
def kSequenceBits : Nat := 12
/-- The last sequence number of a millisecond; the sequence wraps after it. -/
def kMaxSequence : BitVec 64 := (1 <<< kSequenceBits) - 1
def kTimestampShift : Nat := kDatacenterIdBits + kWorkerIdBits + kSequenceBits
def kDatacenterShift : Nat := kWorkerIdBits + kSequenceBits
def kWorkerShift : Nat := kSequenceBits
def kDatacenterId : BitVec 64 := 1
def kWorkerId : BitVec 64 := 1

/-- The globals behind the mutex. -/
structure State where
  gLastTimestampMs : Int := -1
  gSequence : BitVec 64 := 0
  deriving DecidableEq, Repr

/-- Spin until a reading lies above the last timestamp. -/
def waitNextMs (lastMs : Int) : List Int → Option (Int × List Int)
  | [] => none
  | ts :: later => if ts ≤ lastMs then waitNextMs lastMs later else some (ts, later)

/-- The signed 64-bit word of the four fields. They are shifted and joined as in the source,
whether or not the timestamp is in its range. -/
def assemble (nowMs : Int) (gSequence : BitVec 64) : Int :=
  (BitVec.ofInt 64 (nowMs - kEpochMs) <<< kTimestampShift |||
    kDatacenterId <<< kDatacenterShift |||
    kWorkerId <<< kWorkerShift |||
    gSequence).toInt

/-- One call on the readings still to come: its text or its error, the globals
it leaves and the readings it did not take. No result on readings that it spins
through to the end. -/
def nextId (state : State) : List Int → Option (Except String String × State × List Int)
  | [] => none
  | nowMs :: later =>
    if nowMs < state.gLastTimestampMs then
      some (.error "IdGenerator: system clock moved backwards, refusing to generate id", state, later)
    else
      let issue := fun (nowMs : Int) (gSequence : BitVec 64) (later : List Int) =>
        (Except.ok (toString (assemble nowMs gSequence)),
          { gLastTimestampMs := nowMs, gSequence := gSequence : State }, later)
      if nowMs = state.gLastTimestampMs then
        let gSequence := (state.gSequence + 1) &&& kMaxSequence
        if gSequence = 0 then
          (waitNextMs state.gLastTimestampMs later).map fun (nowMs, later) =>
            issue nowMs gSequence later
        else some (issue nowMs gSequence later)
      else some (issue nowMs 0 later)

/-- One call of a process, with the globals around it and its first reading of the clock. The
first reading is what the refusal is decided on. -/
structure Call where
  before : State
  first : Int
  result : Except String String
  after : State

/-- The calls of a process in the order in which they take the mutex, until
their number is reached or one of them does not return on the readings. -/
def calls : Nat → State → List Int → List Call
  | 0, _, _ => []
  | count + 1, state, readings =>
    match nextId state readings with
    | none => []
    | some (result, after, later) =>
      ⟨state, readings.headD 0, result, after⟩ :: calls count after later

/-- The texts of the calls that return. -/
def issued (log : List Call) : List String := log.filterMap fun call => call.result.toOption

/-- Instants whose offset from the epoch fits the timestamp field. -/
def InRange (reading : Int) : Prop := kEpochMs ≤ reading ∧ reading ≤ kEpochMs + 2 ^ 41 - 1

instance (reading : Int) : Decidable (InRange reading) := by
  unfold InRange
  infer_instance

end TradeReconcile.IdGenerator
