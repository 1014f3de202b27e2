import TradeReconcile.Numeral
import TradeReconcile.Properties.Identifiers
import TradeReconcile.RequestIdFilter

/-!
# Identifiers as request ids

The identifier is taken apart again by division, since its fields do not overlap. From the
third day of the epoch on it has sixteen digits, and digits are hexadecimal, so that the
consumer may send it as a request id.
-/

namespace TradeReconcile.IdGenerator

open Scripts
open RequestIdFilter (isValidRequestId doFilter)

/-- The fields of an identifier. -/
structure Fields where
  milliseconds : Int
  datacenter : Int
  worker : Int
  sequence : Int
deriving DecidableEq, Repr

/-- The fields, as shifts and masks read them. -/
def fields (id : Int) : Fields where
  milliseconds := id / 2 ^ kTimestampShift
  datacenter := id / 2 ^ kDatacenterShift % 2 ^ kDatacenterIdBits
  worker := id / 2 ^ kWorkerShift % 2 ^ kWorkerIdBits
  sequence := id % 2 ^ kSequenceBits

/-- The word in range, as a sum of its fields. -/
theorem assemble_eq {nowMs : Int} {gSequence : BitVec 64} (inside : InRange nowMs)
    (below : gSequence.toNat < 4096) :
    assemble nowMs gSequence =
      (nowMs - kEpochMs) * 2 ^ 22 + (2 ^ 17 + 2 ^ 12) + gSequence.toNat :=
  @assemble_eq_level ⟨nowMs, gSequence⟩ inside below

/-- Every field is recovered. -/
theorem fields_assemble {nowMs : Int} {gSequence : BitVec 64} (inside : InRange nowMs)
    (below : gSequence.toNat < 4096) :
    fields (assemble nowMs gSequence) = ⟨nowMs - kEpochMs, 1, 1, gSequence.toNat⟩ := by
  have timestamp : kTimestampShift = 22 := rfl
  have datacenter : kDatacenterShift = 17 ∧ kDatacenterIdBits = 5 := ⟨rfl, rfl⟩
  have worker : kWorkerShift = 12 ∧ kWorkerIdBits = 5 := ⟨rfl, rfl⟩
  have sequence : kSequenceBits = 12 := rfl
  rw [fields, assemble_eq inside below, timestamp, datacenter.1, datacenter.2, worker.1, worker.2,
    sequence, Fields.mk.injEq]
  refine ⟨?_, ?_, ?_, ?_⟩ <;> omega

/-- An identifier in range is positive and below 2^63. -/
theorem assemble_bounds {nowMs : Int} {gSequence : BitVec 64} (inside : InRange nowMs)
    (below : gSequence.toNat < 4096) :
    1 ≤ assemble nowMs gSequence ∧ assemble nowMs gSequence ≤ 2 ^ 63 - 1 := by
  obtain ⟨lower, upper⟩ := inside
  rw [assemble_eq ⟨lower, upper⟩ below]
  constructor <;> omega

/-! The texts of numbers. -/

/-- A number that is not negative is written with its digits. -/
theorem toString_digits {number : Int} (nonneg : 0 ≤ number) :
    toString number = String.ofList (Nat.toDigits 10 number.toNat) := by
  have positive : ¬number < 0 := by omega
  have magnitude : number.natAbs = number.toNat := by omega
  apply String.toList_inj.mp
  rw [Decimal.toString_toList, if_neg positive, magnitude, String.toList_ofList, List.nil_append]

/-- And with nothing else. -/
theorem toString_isDigit {number : Int} (nonneg : 0 ≤ number) :
    ∀ c ∈ (toString number).toList, c.isDigit = true := by
  rw [toString_digits nonneg, String.toList_ofList]
  exact Decimal.toDigits_isDigit _

/-- A number is below a power of ten exactly when its text is as short. -/
theorem toString_length_le_iff {number : Int} (nonneg : 0 ≤ number) {digits : Nat}
    (positive : 0 < digits) : (toString number).length ≤ digits ↔ number < 10 ^ digits := by
  rw [toString_digits nonneg, String.length_ofList,
    Nat.length_toDigits_le_iff (by decide) positive, Int.toNat_lt nonneg]
  norm_cast

/-- Its text has as many bytes as digits. -/
theorem toString_utf8ByteSize {number : Int} (nonneg : 0 ≤ number) :
    (toString number).utf8ByteSize = (toString number).length := by
  have digits := toString_isDigit nonneg
  rw [toString_digits nonneg, String.toList_ofList] at digits
  rw [toString_digits nonneg, String.length_ofList]
  apply Decimal.ascii_size
  intro c member
  obtain ⟨value, small, rfl⟩ := Decimal.digitChar_of_isDigit (digits c member)
  exact Decimal.digitChar_utf8Size small

/-- A number of sixteen to sixty-four digits is a valid request id. -/
theorem isValidRequestId_toString {number : Int} (lower : 10 ^ 15 ≤ number)
    (upper : number < 10 ^ 64) : isValidRequestId (toString number) = true := by
  have nonneg : 0 ≤ number := by omega
  have long : ¬(toString number).length ≤ 15 := by
    rw [toString_length_le_iff nonneg (by decide)]
    omega
  have short : (toString number).length ≤ 64 :=
    (toString_length_le_iff nonneg (by decide)).mpr upper
  have size := toString_utf8ByteSize nonneg
  have sized :
      ¬((toString number).utf8ByteSize < 16 || (toString number).utf8ByteSize > 64) = true := by
    simp only [Bool.or_eq_true, decide_eq_true_eq]
    omega
  rw [isValidRequestId, if_neg sized, List.all_eq_true]
  intro c member
  obtain ⟨value, small, rfl⟩ := Decimal.digitChar_of_isDigit (toString_isDigit nonneg c member)
  have hexadecimal : ∀ value < 10, RequestIdFilter.isHex (Nat.digitChar value) = true := by decide
  rw [hexadecimal value small, Bool.true_or]

/-- From the third day of the epoch on an identifier has sixteen digits. -/
theorem assemble_valid {nowMs : Int} {gSequence : BitVec 64} (inside : InRange nowMs)
    (below : gSequence.toNat < 4096) (late : 259200000 ≤ nowMs - kEpochMs) :
    isValidRequestId (toString (assemble nowMs gSequence)) = true := by
  obtain ⟨-, upper⟩ := assemble_bounds inside below
  apply isValidRequestId_toString
  · rw [assemble_eq inside below]
    omega
  · omega

/-! The consumer's notifications. -/

/-- A handler whose notify number is `id`: its notifications get through the filter of the
merchant's endpoint, and the number is short enough for its column. -/
def numbering (id : String) :
    Protocol NotifyConsumer.Request (fun r => Except Fault (NotifyConsumer.Reply r)) Unit where
  permits
    | (), .sendRequest notifyNo _ _ =>
      doFilter { method := .post, xRequestId := notifyNo } =
        .ok { method := .post, xRequestId := notifyNo, attributes := some notifyNo }
    | (), .insertWithDedup notifyNo _ _ _ => notifyNo.length ≤ 32
    | (), _ => True
  answers
    | .nextId, reply => reply = .ok id
    | _, _ => True
  after _ _ _ := ()

/-- With a valid notify number no notification is refused by the filter. The number is drawn
once and sent with each attempt, so this is said of every request that the handler sends. -/
theorem handling_numbered (C : ConsumerPlatform) (body : List UInt8) {id : String}
    (valid : isValidRequestId id = true) (short : id.length ≤ 32) :
    Script.Follows (numbering id) (fun _ _ => True) () (NotifyConsumer.handleMessage C body) := by
  have passes : doFilter { method := .post, xRequestId := id } =
      .ok { method := .post, xRequestId := id, attributes := some id } :=
    (RequestIdFilter.doFilter_writes rfl).mpr ⟨valid, rfl⟩
  apply follows_bind
  have answers : ∀ outcome : Except Fault Bool, Script.Follows (numbering id) (fun _ _ => True) ()
      (following NotifyConsumer.answer outcome) := by
    rintro (fault | _ | _)
    · trivial
    · exact ⟨trivial, fun _ _ => trivial⟩
    · exact ⟨trivial, fun _ _ => trivial⟩
  unfold NotifyConsumer.process
  cases NotifyConsumer.readMessage C body with
  | error fault => exact answers (.error fault)
  | ok message =>
    cases message with
    | none => exact answers (.ok false)
    | some message =>
      apply NotifyConsumer.processMessage_follows C message trivial
      · intro notifyNo answered
        obtain rfl := Except.ok.inj answered
        refine ⟨fun _ => True, ⟨?_, fun _ _ _ _ _ _ => trivial, ?_, ?_⟩, trivial⟩
        · intro _ r _ own
          cases r with
          | sendRequest number orderNo amount =>
            obtain rfl : number = notifyNo := own
            exact passes
          | insertWithDedup number messageId orderNo targetUrl =>
            obtain rfl : number = notifyNo := own
            exact short
          | _ => trivial
        · intro _ _ fault _ _ _
          exact answers (.error fault)
        · intro _ processed _
          exact answers (.ok processed)
      · intro fault _
        exact answers (.error fault)

/-! Every identifier of the generator. -/

/-- An identifier in range is a positive 64-bit number, its fields are the ones it was built
from, and its text has at most nineteen digits and nothing else. From the third day of the
epoch on the text is a valid request id, and the consumer's notifications that carry it get
through the filter. -/
theorem identifiers_decode (nowMs : Int) (gSequence : BitVec 64) (inside : InRange nowMs)
    (below : gSequence.toNat < 4096) :
    1 ≤ assemble nowMs gSequence ∧ assemble nowMs gSequence ≤ 2 ^ 63 - 1 ∧
    fields (assemble nowMs gSequence) = ⟨nowMs - kEpochMs, 1, 1, gSequence.toNat⟩ ∧
    (toString (assemble nowMs gSequence)).length ≤ 19 ∧
    (∀ c ∈ (toString (assemble nowMs gSequence)).toList, c.isDigit = true) ∧
    (259200000 ≤ nowMs - kEpochMs →
      isValidRequestId (toString (assemble nowMs gSequence)) = true ∧
      ∀ C body, Script.Follows (numbering (toString (assemble nowMs gSequence))) (fun _ _ => True) ()
        (NotifyConsumer.handleMessage C body)) := by
  obtain ⟨positive, bounded⟩ := assemble_bounds inside below
  have nonneg : 0 ≤ assemble nowMs gSequence := by omega
  have short : (toString (assemble nowMs gSequence)).length ≤ 19 := by
    rw [toString_length_le_iff nonneg (by decide)]
    omega
  refine ⟨positive, bounded, fields_assemble inside below, short, toString_isDigit nonneg, ?_⟩
  intro late
  have valid := assemble_valid inside below late
  exact ⟨valid, fun C body => handling_numbered C body valid (by omega)⟩

/-- The last sequence number of a millisecond on the fourth of January 2024. -/
theorem january_decodes :
    InRange (kEpochMs + 259200000) ∧
      fields (assemble (kEpochMs + 259200000) 4095) = ⟨259200000, 1, 1, 4095⟩ ∧
      isValidRequestId (toString (assemble (kEpochMs + 259200000) 4095)) = true := by
  have inside : InRange (kEpochMs + 259200000) := by decide
  obtain ⟨-, -, recovered, -, -, late⟩ := identifiers_decode _ 4095 inside (by decide)
  exact ⟨inside, recovered, (late (by decide)).1⟩

/-- What a call issues is the word of one of its readings; the readings after it are left. -/
theorem nextId_word {state after : State} {readings later : List Int} {result : Except String String}
    (called : nextId state readings = some (result, after, later)) (sound : Sound state) :
    Sound after ∧ later ⊆ readings ∧ ∀ text, result = .ok text →
      after.gLastTimestampMs ∈ readings ∧
        text = toString (assemble after.gLastTimestampMs after.gSequence) := by
  cases readings with
  | nil => cases called
  | cons first rest =>
    obtain ⟨⟨_, rfl⟩, -, rfl, rfl⟩ | ⟨rfl, -, ⟨spent, split, member⟩, growth⟩ := nextId_cases called
    · exact ⟨sound, List.subset_cons_self first _, fun text same => by cases same⟩
    · have bounded : Sound after := by
        obtain ⟨-, reset⟩ | ⟨-, -, counted, -⟩ := growth
        · simp [Sound, reset]
        · rw [Sound, counted, next_sequence]
          omega
      rw [split]
      refine ⟨bounded, List.subset_append_right spent later, ?_⟩
      intro text same
      exact ⟨List.mem_append_left later member, (Except.ok.inj same).symm⟩

/-- The texts of a whole run are the words of its readings. The induction is on the calls,
each of which leaves the readings it has not looked at to the next. -/
theorem issued_words (count : Nat) (state : State) (readings : List Int) (sound : Sound state) :
    ∀ text ∈ issued (calls count state readings), ∃ nowMs ∈ readings, ∃ gSequence : BitVec 64,
      gSequence.toNat < 4096 ∧ text = toString (assemble nowMs gSequence) := by
  induction count generalizing state readings with
  | zero => simp [calls, issued]
  | succ count inductionHypothesis =>
    intro text member
    cases called : nextId state readings with
    | none => simp [calls, called, issued] at member
    | some outcome =>
      obtain ⟨result, after, later⟩ := outcome
      obtain ⟨next, left, word⟩ := nextId_word called sound
      have others := fun member => inductionHypothesis after later next text member
      cases result with
      | error refusal =>
        simp only [calls, called, issued, List.filterMap_cons, Except.toOption] at member
        obtain ⟨nowMs, inside, rest⟩ := others member
        exact ⟨nowMs, left inside, rest⟩
      | ok first =>
        simp only [calls, called, issued, List.filterMap_cons, Except.toOption, List.mem_cons]
          at member
        obtain rfl | member := member
        · obtain ⟨read, same⟩ := word _ rfl
          exact ⟨_, read, _, next, same⟩
        · obtain ⟨nowMs, inside, rest⟩ := others member
          exact ⟨nowMs, left inside, rest⟩

/-- A process that runs from the third day of the epoch on issues valid request ids only. -/
theorem issued_valid (count : Nat) (readings : List Int)
    (within : ∀ reading ∈ readings, InRange reading ∧ 259200000 ≤ reading - kEpochMs) :
    ∀ text ∈ issued (calls count {} readings), isValidRequestId text = true := by
  intro text member
  have sound : Sound {} := Nat.zero_lt_succ _
  obtain ⟨nowMs, read, gSequence, below, rfl⟩ := issued_words count {} readings sound text member
  obtain ⟨inside, late⟩ := within nowMs read
  exact assemble_valid inside below late

end TradeReconcile.IdGenerator
