import TradeReconcile.ByteOrder
import TradeReconcile.Properties.Reconciliation

/-!
# The whole classification

The three passes split the trade numbers of both sides: those with a local row
only, those with a channel row only and those whose last rows disagree. Each
pass walks a map in key order, so each block ascends in the byte order of the
trade numbers, and with amounts of at most 10^18 no 64-bit operation leaves its
range.
-/

namespace TradeReconcile

/-- Amounts that the 64-bit differences can take. -/
def Moderate (rows : List ReconcileSideRow) : Prop :=
  ∀ row ∈ rows, -(10 ^ 18) ≤ row.amountFen ∧ row.amountFen ≤ 10 ^ 18

/-- Strictly ascending byte order of the trade numbers. -/
def InByteOrder (block : List ClassifiedDiff) : Prop :=
  block.Pairwise fun one two =>
    ByteOrder.bytes one.channelTradeNo < ByteOrder.bytes two.channelTradeNo

/-- The last row of every trade number. -/
def lastRows (rows : List ReconcileSideRow) : List ReconcileSideRow :=
  OrderedMap.surviving ReconcileSideRow.channelTradeNo rows

/-- The difference of a trade number without a channel row. -/
def ClassifiedDiff.ofLocal (tradeNo : String) (localRow : ReconcileSideRow) : ClassifiedDiff where
  type := .kLocalOnly
  channelTradeNo := tradeNo
  orderNo := localRow.orderNo
  localFen := localRow.amountFen
  channelFen := 0
  diffFen := localRow.amountFen

/-- The difference of a trade number without a local row. -/
def ClassifiedDiff.ofChannel (tradeNo : String) (channelRow : ReconcileSideRow) :
    ClassifiedDiff where
  type := .kChannelOnly
  channelTradeNo := tradeNo
  orderNo := channelRow.orderNo
  localFen := 0
  channelFen := channelRow.amountFen
  diffFen := -channelRow.amountFen

/-- The difference of a trade number whose last rows disagree. -/
def ClassifiedDiff.ofBoth (tradeNo : String) (localRow channelRow : ReconcileSideRow) :
    ClassifiedDiff where
  type := .kAmountMismatch
  channelTradeNo := tradeNo
  orderNo := localRow.orderNo
  localFen := localRow.amountFen
  channelFen := channelRow.amountFen
  diffFen := localRow.amountFen - channelRow.amountFen

section LastRows

/-- The last row of a number is one of the rows. -/
theorem lastOf_mem {tradeNo : String} {row : ReconcileSideRow} {rows : List ReconcileSideRow}
    (last : lastOf tradeNo rows = some row) : row ∈ rows ∧ row.channelTradeNo = tradeNo := by
  have member := List.mem_of_getLast? last
  simpa using member

/-- The map and the last rows have the same amounts. -/
theorem lastRows_sum (rows : List ReconcileSideRow) :
    ((byTradeNo rows).map fun entry => entry.2.amountFen).sum = sideSum (lastRows rows) := by
  rw [byTradeNo, ((OrderedMap.ofList_perm ReconcileSideRow.channelTradeNo rows).map _).sum_eq,
    List.map_map]
  rfl

end LastRows

section Blocks

variable {locals channels : List ReconcileSideRow}

/-- A traversal that keeps the trade number of its entry emits in byte order. -/
theorem pass_inByteOrder (rows : List ReconcileSideRow)
    {emit : String × ReconcileSideRow → Option ClassifiedDiff}
    (keyed : ∀ entry diff, emit entry = some diff → diff.channelTradeNo = entry.1) :
    InByteOrder ((byTradeNo rows).filterMap emit) := by
  have sorted : OrderedMap.Ascending (byTradeNo rows) :=
    OrderedMap.ofList_ascending ReconcileSideRow.channelTradeNo rows
  refine List.Pairwise.filterMap emit ?_ sorted
  intro one two less first emittedFirst second emittedSecond
  rw [keyed one first emittedFirst, keyed two second emittedSecond]
  exact ByteOrder.bytes_lt less

/-- No number comes twice in a block in strict order. -/
theorem InByteOrder.nodup {block : List ClassifiedDiff} (sorted : InByteOrder block) :
    (block.map ClassifiedDiff.channelTradeNo).Nodup := by
  rw [List.Nodup, List.pairwise_map]
  refine List.Pairwise.imp ?_ sorted
  intro one two less same
  rw [same] at less
  exact List.lt_irrefl _ less

/-- The differences of each block carry the number of their entry. A payment without a channel
row. -/
theorem localOnly_keyed (entry : String × ReconcileSideRow) (diff : ClassifiedDiff)
    (emitted : localOnly (byTradeNo channels) entry = some diff) :
    diff.channelTradeNo = entry.1 := by
  rw [localOnly] at emitted
  split at emitted
  · cases emitted
  · cases emitted
    rfl

/-- A channel row without a payment. -/
theorem channelOnly_keyed (entry : String × ReconcileSideRow) (diff : ClassifiedDiff)
    (emitted : channelOnly (byTradeNo locals) entry = some diff) :
    diff.channelTradeNo = entry.1 := by
  rw [channelOnly] at emitted
  split at emitted
  · cases emitted
  · cases emitted
    rfl

/-- A payment and a channel row of different amounts. -/
theorem amountMismatch_keyed (entry : String × ReconcileSideRow) (diff : ClassifiedDiff)
    (emitted : amountMismatch (byTradeNo channels) entry = some diff) :
    diff.channelTradeNo = entry.1 := by
  rw [amountMismatch] at emitted
  split at emitted
  · cases emitted
  · split at emitted
    · cases emitted
    · cases emitted
      rfl

/-- The first block, by the last rows of its numbers. -/
theorem mem_localOnly {diff : ClassifiedDiff} :
    diff ∈ (byTradeNo locals).filterMap (localOnly (byTradeNo channels)) ↔
      ∃ tradeNo localRow, lastOf tradeNo locals = some localRow ∧ lastOf tradeNo channels = none ∧
        diff = .ofLocal tradeNo localRow := by
  simp only [List.mem_filterMap, Prod.exists, byTradeNo_mem, localOnly, byTradeNo_find]
  refine exists_congr fun tradeNo => exists_congr fun localRow => and_congr_right fun _ => ?_
  cases lastOf tradeNo channels with
  | none => simp [ClassifiedDiff.ofLocal, eq_comm]
  | some channelRow => simp

/-- The second block. -/
theorem mem_channelOnly (moderate : Moderate channels) {diff : ClassifiedDiff} :
    diff ∈ (byTradeNo channels).filterMap (channelOnly (byTradeNo locals)) ↔
      ∃ tradeNo channelRow, lastOf tradeNo channels = some channelRow ∧
        lastOf tradeNo locals = none ∧ diff = .ofChannel tradeNo channelRow := by
  simp only [List.mem_filterMap, Prod.exists, byTradeNo_mem, channelOnly, byTradeNo_find]
  refine exists_congr fun tradeNo => exists_congr fun channelRow => and_congr_right fun last => ?_
  have bounds := moderate channelRow (lastOf_mem last).1
  have exact : wrap64 (-channelRow.amountFen) = -channelRow.amountFen :=
    wrap64_of_fits _ (by omega) (by omega)
  cases lastOf tradeNo locals with
  | none => simp [ClassifiedDiff.ofChannel, exact, eq_comm]
  | some localRow => simp

/-- The third block. -/
theorem mem_amountMismatch (moderateLocals : Moderate locals) (moderateChannels : Moderate channels)
    {diff : ClassifiedDiff} :
    diff ∈ (byTradeNo locals).filterMap (amountMismatch (byTradeNo channels)) ↔
      ∃ tradeNo localRow channelRow, lastOf tradeNo locals = some localRow ∧
        lastOf tradeNo channels = some channelRow ∧ localRow.amountFen ≠ channelRow.amountFen ∧
        diff = .ofBoth tradeNo localRow channelRow := by
  simp only [List.mem_filterMap, Prod.exists, byTradeNo_mem, amountMismatch, byTradeNo_find]
  refine exists_congr fun tradeNo => exists_congr fun localRow => ?_
  rw [exists_and_left]
  refine and_congr_right fun lastLocal => ?_
  cases lastChannel : lastOf tradeNo channels with
  | none => simp
  | some channelRow =>
    have localBounds := moderateLocals localRow (lastOf_mem lastLocal).1
    have channelBounds := moderateChannels channelRow (lastOf_mem lastChannel).1
    have exact : wrap64 (localRow.amountFen - channelRow.amountFen) =
        localRow.amountFen - channelRow.amountFen := wrap64_of_fits _ (by omega) (by omega)
    by_cases same : channelRow.amountFen = localRow.amountFen
    · simp [same]
    · have apart : localRow.amountFen ≠ channelRow.amountFen := fun equal => same equal.symm
      simp [same, apart, ClassifiedDiff.ofBoth, exact, eq_comm]

/-- Every trade number is in at most one block, once. The blocks are told apart by which sides
have the number; within a block the passes go through a map in the order of its keys. -/
theorem classified_nodup (locals channels : List ReconcileSideRow) :
    ((classifyReconcileDiffs locals channels).map ClassifiedDiff.channelTradeNo).Nodup := by
  have first : ∀ diff ∈ (byTradeNo locals).filterMap (localOnly (byTradeNo channels)),
      lastOf diff.channelTradeNo locals ≠ none ∧ lastOf diff.channelTradeNo channels = none := by
    intro diff member
    obtain ⟨tradeNo, localRow, here, absent, rfl⟩ := mem_localOnly.mp member
    exact ⟨by simp [ClassifiedDiff.ofLocal, here], absent⟩
  have second : ∀ diff ∈ (byTradeNo channels).filterMap (channelOnly (byTradeNo locals)),
      lastOf diff.channelTradeNo locals = none := by
    intro diff member
    obtain ⟨⟨tradeNo, channelRow⟩, -, emitted⟩ := List.mem_filterMap.mp member
    have keyed := channelOnly_keyed _ _ emitted
    simp only [channelOnly, byTradeNo_find] at emitted
    split at emitted
    · cases emitted
    · rename_i absent
      rw [keyed]
      exact absent
  have third : ∀ diff ∈ (byTradeNo locals).filterMap (amountMismatch (byTradeNo channels)),
      lastOf diff.channelTradeNo locals ≠ none ∧ lastOf diff.channelTradeNo channels ≠ none := by
    intro diff member
    obtain ⟨⟨tradeNo, localRow⟩, entry, emitted⟩ := List.mem_filterMap.mp member
    have keyed := amountMismatch_keyed _ _ emitted
    rw [byTradeNo_mem] at entry
    simp only [amountMismatch, byTradeNo_find] at emitted
    split at emitted
    · cases emitted
    · rename_i channelRow here
      rw [keyed]
      exact ⟨by simp [entry], by simp [here]⟩
  rw [classifyReconcileDiffs, List.map_append, List.map_append]
  refine List.Nodup.append (List.Nodup.append ?_ ?_ ?_) ?_ ?_
  · exact (pass_inByteOrder locals localOnly_keyed).nodup
  · exact (pass_inByteOrder channels channelOnly_keyed).nodup
  · intro tradeNo left right
    obtain ⟨one, inFirst, rfl⟩ := List.mem_map.mp left
    obtain ⟨two, inSecond, same⟩ := List.mem_map.mp right
    exact (first one inFirst).1 (same ▸ second two inSecond)
  · exact (pass_inByteOrder locals amountMismatch_keyed).nodup
  · intro tradeNo left right
    obtain ⟨three, inThird, rfl⟩ := List.mem_map.mp right
    rw [List.mem_append] at left
    cases left with
    | inl left =>
      obtain ⟨one, inFirst, same⟩ := List.mem_map.mp left
      exact (third three inThird).2 (same ▸ (first one inFirst).2)
    | inr left =>
      obtain ⟨two, inSecond, same⟩ := List.mem_map.mp left
      exact (third three inThird).1 (same ▸ second two inSecond)

/-- With moderate amounts every difference is the exact one of its two sides. -/
theorem classified_exact (moderateLocals : Moderate locals) (moderateChannels : Moderate channels) :
    ∀ diff ∈ classifyReconcileDiffs locals channels, diff.diffFen = diff.spread := by
  intro diff member
  rw [classifyReconcileDiffs, List.mem_append, List.mem_append, mem_localOnly,
    mem_channelOnly moderateChannels, mem_amountMismatch moderateLocals moderateChannels] at member
  obtain (⟨tradeNo, localRow, -, -, rfl⟩ | ⟨tradeNo, channelRow, -, -, rfl⟩) |
    ⟨tradeNo, localRow, channelRow, -, -, -, rfl⟩ := member
  · exact (Int.sub_zero _).symm
  · exact (Int.zero_sub _).symm
  · rfl

end Blocks

/-- The full specification of the comparison: three blocks in byte order, each
trade number at most once, nothing exactly when both sides agree, and the
difference of the two sides' totals as the sum. Repeated trade numbers count
with their last row. -/
theorem classifyReconcileDiffs_spec (locals channels : List ReconcileSideRow)
    (moderateLocals : Moderate locals) (moderateChannels : Moderate channels) :
    (∃ onlyLocal onlyChannel mismatched : List ClassifiedDiff,
      classifyReconcileDiffs locals channels = onlyLocal ++ onlyChannel ++ mismatched ∧
      (InByteOrder onlyLocal ∧ InByteOrder onlyChannel ∧ InByteOrder mismatched) ∧
      (∀ diff, diff ∈ onlyLocal ↔ ∃ tradeNo localRow, lastOf tradeNo locals = some localRow ∧
        lastOf tradeNo channels = none ∧ diff = .ofLocal tradeNo localRow) ∧
      (∀ diff, diff ∈ onlyChannel ↔ ∃ tradeNo channelRow,
        lastOf tradeNo channels = some channelRow ∧ lastOf tradeNo locals = none ∧
        diff = .ofChannel tradeNo channelRow) ∧
      ∀ diff, diff ∈ mismatched ↔ ∃ tradeNo localRow channelRow,
        lastOf tradeNo locals = some localRow ∧ lastOf tradeNo channels = some channelRow ∧
        localRow.amountFen ≠ channelRow.amountFen ∧
        diff = .ofBoth tradeNo localRow channelRow) ∧
    ((classifyReconcileDiffs locals channels).map ClassifiedDiff.channelTradeNo).Nodup ∧
    (classifyReconcileDiffs locals channels = [] ↔ Matched locals channels) ∧
    ((classifyReconcileDiffs locals channels).map ClassifiedDiff.diffFen).sum =
      sideSum (lastRows locals) - sideSum (lastRows channels) ∧
    (∀ channelRow ∈ channels, wrap64 (-channelRow.amountFen) = -channelRow.amountFen) ∧
    ∀ localRow ∈ locals, ∀ channelRow ∈ channels,
      wrap64 (localRow.amountFen - channelRow.amountFen) =
        localRow.amountFen - channelRow.amountFen := by
  refine ⟨⟨_, _, _, rfl, ⟨?_, ?_, ?_⟩, fun _ => mem_localOnly,
    fun _ => mem_channelOnly moderateChannels,
    fun _ => mem_amountMismatch moderateLocals moderateChannels⟩,
    classified_nodup locals channels, classified_nil locals channels, ?_, ?_, ?_⟩
  · exact pass_inByteOrder locals localOnly_keyed
  · exact pass_inByteOrder channels channelOnly_keyed
  · exact pass_inByteOrder locals amountMismatch_keyed
  · rw [List.map_congr_left (classified_exact moderateLocals moderateChannels), classified_sum,
      lastRows_sum, lastRows_sum]
  · intro channelRow member
    have bounds := moderateChannels channelRow member
    exact wrap64_of_fits _ (by omega) (by omega)
  · intro localRow localMember channelRow channelMember
    have localBounds := moderateLocals localRow localMember
    have channelBounds := moderateChannels channelRow channelMember
    exact wrap64_of_fits _ (by omega) (by omega)

/-- A side with a repeated trade number against one with a foreign number: the repetition
counts with its last row. -/
theorem classified_repeated :
    let locals : List ReconcileSideRow := [⟨"T1", "7001", 100⟩, ⟨"T2", "7002", 250⟩, ⟨"T1", "7001", 90⟩]
    let channels : List ReconcileSideRow := [⟨"T3", "7003", 10 ^ 18⟩, ⟨"T1", "7001", 80⟩]
    classifyReconcileDiffs locals channels =
        [⟨.kLocalOnly, "T2", "7002", 250, 0, 250⟩, ⟨.kChannelOnly, "T3", "7003", 0, 10 ^ 18, -(10 ^ 18)⟩,
          ⟨.kAmountMismatch, "T1", "7001", 90, 80, 10⟩] ∧
      ((classifyReconcileDiffs locals channels).map ClassifiedDiff.diffFen).sum =
        sideSum (lastRows locals) - sideSum (lastRows channels) := by
  intro locals channels
  have spec := classifyReconcileDiffs_spec locals channels
    (by simp [Moderate, locals]) (by simp [Moderate, channels])
  exact ⟨by decide +kernel, spec.2.2.2.1⟩

end TradeReconcile
