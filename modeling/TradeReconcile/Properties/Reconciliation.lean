import TradeReconcile.Properties.Atomicity

/-!
# What a reconciliation batch adds up to

The totals of a batch run over the raw rows of both sides, its differences over
two maps keyed by trade number. The local side has no repeated trade number, the
bill may have: an earlier line of a repeated number enters the channel's total
and count and is then overwritten. The batch therefore conserves money exactly
when the overwritten lines make no difference.
-/

namespace TradeReconcile

open Transactions

/-- The sum of a side, without the 64-bit range. -/
def sideSum (rows : List ReconcileSideRow) : Int := (rows.map ReconcileSideRow.amountFen).sum

/-- What the 64-bit range cuts off a side's sum. -/
def overflow (rows : List ReconcileSideRow) : Int := sideSum rows - wrap64 (sideSum rows)

/-- Rows that a later row of the same trade number overwrites. -/
def overwritten (rows : List ReconcileSideRow) : List ReconcileSideRow :=
  OrderedMap.superseded ReconcileSideRow.channelTradeNo rows

/-- The last row of a trade number. -/
def lastOf (tradeNo : String) (rows : List ReconcileSideRow) : Option ReconcileSideRow :=
  (rows.filter fun row => row.channelTradeNo = tradeNo).getLast?

/-- Under every trade number the last rows of both sides have the same amount, or
neither side has a row. -/
def Matched (locals channels : List ReconcileSideRow) : Prop :=
  ∀ tradeNo, (lastOf tradeNo locals).map ReconcileSideRow.amountFen =
    (lastOf tradeNo channels).map ReconcileSideRow.amountFen

section Totals

/-- Wrapping a summand first changes nothing. -/
theorem wrap64_add (left right : Int) : wrap64 (wrap64 left + right) = wrap64 (left + right) := by
  simp [wrap64]

/-- The running total is the wrapped sum. -/
theorem totalFen_eq (rows : List ReconcileSideRow) :
    ReconcileService.totalFen rows = wrap64 (sideSum rows) := by
  have running : ∀ start,
      rows.foldl (fun total row => wrap64 (total + row.amountFen)) (wrap64 start) =
        wrap64 (start + sideSum rows) := by
    induction rows with
    | nil => simp [sideSum]
    | cons row rest inductionHypothesis =>
      intro start
      rw [List.foldl_cons, wrap64_add, inductionHypothesis]
      simp only [sideSum, List.map_cons, List.sum_cons, Int.add_assoc]
  have whole := running 0
  rw [Int.zero_add] at whole
  exact whole

/-- A side adds up to its map and the overwritten rows. -/
theorem byTradeNo_sum (rows : List ReconcileSideRow) :
    ((byTradeNo rows).map fun entry => entry.2.amountFen).sum + sideSum (overwritten rows) =
      sideSum rows :=
  OrderedMap.ofList_sum ReconcileSideRow.channelTradeNo ReconcileSideRow.amountFen rows

/-- A side by trade numbers finds the last row of a number. -/
theorem byTradeNo_find (tradeNo : String) (rows : List ReconcileSideRow) :
    OrderedMap.find? tradeNo (byTradeNo rows) = lastOf tradeNo rows :=
  OrderedMap.find?_ofList ReconcileSideRow.channelTradeNo tradeNo rows

/-- And holds nothing else. -/
theorem byTradeNo_mem {tradeNo : String} {row : ReconcileSideRow} {rows : List ReconcileSideRow} :
    (tradeNo, row) ∈ byTradeNo rows ↔ lastOf tradeNo rows = some row := by
  rw [← byTradeNo_find]
  exact (OrderedMap.find?_eq_some
    (OrderedMap.ofList_ascending ReconcileSideRow.channelTradeNo rows).nodup).symm

end Totals

section Classification

/-- What a difference says about both sides, without the 64-bit range. -/
def ClassifiedDiff.spread (diff : ClassifiedDiff) : Int := diff.localFen - diff.channelFen

variable (locals channels : List ReconcileSideRow)

/-- A local entry is classified in the first pass, in the third or not at all; with
what the channel holds under its number it adds up to its own amount. -/
theorem localSide_sum :
    ((byTradeNo locals).map fun entry =>
        (localOnly (byTradeNo channels) entry).elim 0 ClassifiedDiff.spread).sum +
      ((byTradeNo locals).map fun entry =>
        (amountMismatch (byTradeNo channels) entry).elim 0 ClassifiedDiff.spread).sum +
      ((byTradeNo locals).map fun entry =>
        (OrderedMap.find? entry.1 (byTradeNo channels)).elim 0 ReconcileSideRow.amountFen).sum =
      ((byTradeNo locals).map fun entry => entry.2.amountFen).sum := by
  rw [← List.sum_map_add, ← List.sum_map_add]
  refine congrArg List.sum (List.map_congr_left ?_)
  rintro ⟨tradeNo, localRow⟩ _
  cases found : OrderedMap.find? tradeNo (byTradeNo channels) with
  | none => simp [localOnly, amountMismatch, found, ClassifiedDiff.spread]
  | some channelRow =>
    by_cases same : channelRow.amountFen = localRow.amountFen
    · simp [localOnly, amountMismatch, found, same]
    · simp [localOnly, amountMismatch, found, same, ClassifiedDiff.spread]

/-- A channel entry is classified in the second pass or has a local partner. -/
theorem channelSide_sum :
    ((byTradeNo channels).map fun entry =>
        if (OrderedMap.find? entry.1 (byTradeNo locals)).isSome then entry.2.amountFen else 0).sum =
      ((byTradeNo channels).map fun entry =>
        (channelOnly (byTradeNo locals) entry).elim 0 ClassifiedDiff.spread).sum +
      ((byTradeNo channels).map fun entry => entry.2.amountFen).sum := by
  rw [← List.sum_map_add]
  refine congrArg List.sum (List.map_congr_left ?_)
  rintro ⟨tradeNo, channelRow⟩ _
  cases found : OrderedMap.find? tradeNo (byTradeNo locals) with
  | none => simp [channelOnly, found, ClassifiedDiff.spread]
  | some localRow => simp [channelOnly, found]

/-- The three passes together: local amounts minus channel amounts, once per trade
number. -/
theorem classified_sum :
    ((classifyReconcileDiffs locals channels).map ClassifiedDiff.spread).sum =
      ((byTradeNo locals).map fun entry => entry.2.amountFen).sum -
        ((byTradeNo channels).map fun entry => entry.2.amountFen).sum := by
  have joined : ((byTradeNo locals).map fun entry =>
        (OrderedMap.find? entry.1 (byTradeNo channels)).elim 0 ReconcileSideRow.amountFen).sum =
      ((byTradeNo channels).map fun entry =>
        if (OrderedMap.find? entry.1 (byTradeNo locals)).isSome then entry.2.amountFen else 0).sum :=
    OrderedMap.join_sum (OrderedMap.ofList_ascending ReconcileSideRow.channelTradeNo locals).nodup
      (OrderedMap.ofList_ascending ReconcileSideRow.channelTradeNo channels).nodup
      ReconcileSideRow.amountFen
  have localSide := localSide_sum locals channels
  have channelSide := channelSide_sum locals channels
  simp only [classifyReconcileDiffs, List.map_append, List.sum_append, OrderedMap.filterMap_sum]
  omega

/-- Nothing is classified exactly when both sides match: each side's last row of a number has
its counterpart on the other side, with the same amount. -/
theorem classified_nil :
    classifyReconcileDiffs locals channels = [] ↔ Matched locals channels := by
  simp only [classifyReconcileDiffs, List.append_eq_nil_iff, List.filterMap_eq_nil_iff, Prod.forall,
    byTradeNo_mem, localOnly, channelOnly, amountMismatch, byTradeNo_find]
  constructor
  · rintro ⟨⟨localOnlys, channelOnlys⟩, mismatches⟩ tradeNo
    cases localLast : lastOf tradeNo locals with
    | none =>
      cases channelLast : lastOf tradeNo channels with
      | none => rfl
      | some channelRow => simpa [localLast] using channelOnlys tradeNo channelRow channelLast
    | some localRow =>
      cases channelLast : lastOf tradeNo channels with
      | none => simpa [channelLast] using localOnlys tradeNo localRow localLast
      | some channelRow =>
        have equal := mismatches tradeNo localRow localLast
        simp only [channelLast, ite_eq_left_iff, reduceCtorEq, imp_false, not_not] at equal
        simp [equal]
  · intro matched
    refine ⟨⟨?_, ?_⟩, ?_⟩
    · intro tradeNo localRow localLast
      have partner := matched tradeNo
      cases channelLast : lastOf tradeNo channels with
      | none => simp [localLast, channelLast] at partner
      | some channelRow => rfl
    · intro tradeNo channelRow channelLast
      have partner := matched tradeNo
      cases localLast : lastOf tradeNo locals with
      | none => simp [localLast, channelLast] at partner
      | some localRow => rfl
    · intro tradeNo localRow localLast
      have partner := matched tradeNo
      cases channelLast : lastOf tradeNo channels with
      | none => rfl
      | some channelRow =>
        simp only [localLast, channelLast, Option.map_some, Option.some.injEq] at partner
        simp [partner]

/-- Matching maps have the same size. -/
theorem matched_length {locals channels : List ReconcileSideRow}
    (matched : Matched locals channels) :
    (byTradeNo locals).length = (byTradeNo channels).length := by
  refine OrderedMap.length_of_keys fun tradeNo => ?_
  rw [OrderedMap.find?_ofList, OrderedMap.find?_ofList]
  simpa [lastOf] using congrArg Option.isSome (matched tradeNo)

end Classification

section Batch

/-- The batch conserves money: its totals differ by the sum of its differences, and
a balanced batch has equal counts and totals. -/
def Conserves (batch : ReconcileBatch) (diffs : List ReconcileDiff) : Prop :=
  batch.totalAmountFen - batch.channelAmountFen = (diffs.map ReconcileDiff.diffAmountFen).sum ∧
    (batch.status = .kBalanced →
      batch.totalCount = batch.channelCount ∧ batch.totalAmountFen = batch.channelAmountFen)

/-- The overwritten lines of the bill make no difference: their amounts add up to
what the 64-bit range cut off the bill beyond the local side (nothing, as long as
both sums are within it), and there are none when both sides match. -/
def NothingLost (locals channels : List ReconcileSideRow) : Prop :=
  sideSum (overwritten channels) = overflow channels - overflow locals ∧
    (Matched locals channels → overwritten channels = [])

/-- The amounts of a difference that fits. -/
theorem fits_sides {diff : ReconcileDiff} (fits : diff.fits = true) :
    (-(10 ^ 18) < diff.localAmountFen ∧ diff.localAmountFen < 10 ^ 18) ∧
      -(10 ^ 18) < diff.channelAmountFen ∧ diff.channelAmountFen < 10 ^ 18 := by
  simp only [ReconcileDiff.fits, fitsDecimal, Bool.and_eq_true, decide_eq_true_eq] at fits
  exact ⟨fits.1.1.2, fits.1.2⟩

/-- A difference whose columns fit has the exact difference of its two sides. The column's
range excludes that the subtraction wraps around. -/
theorem diffFen_exact {locals channels : List ReconcileSideRow} {diff : ClassifiedDiff}
    {batchNo : String} (member : diff ∈ classifyReconcileDiffs locals channels)
    (fits : (ReconcileService.storedDiff batchNo diff).fits = true) :
    diff.diffFen = diff.spread := by
  have wrapped : diff.diffFen = wrap64 diff.spread ∨ diff.diffFen = diff.spread := by
    simp only [classifyReconcileDiffs, List.mem_append, List.mem_filterMap, Prod.exists] at member
    rcases member with (⟨tradeNo, row, -, emitted⟩ | ⟨tradeNo, row, -, emitted⟩) |
      ⟨tradeNo, row, -, emitted⟩
    · simp only [localOnly] at emitted
      split at emitted
      · cases emitted
      · cases emitted
        exact .inr (by simp [ClassifiedDiff.spread])
    · simp only [channelOnly] at emitted
      split at emitted
      · cases emitted
      · cases emitted
        exact .inl (by simp [ClassifiedDiff.spread])
    · simp only [amountMismatch] at emitted
      split at emitted
      · cases emitted
      · split at emitted
        · cases emitted
        · cases emitted
          exact .inl rfl
  rcases wrapped with wrapped | exact
  · rw [wrapped]
    have sides : (-(10 ^ 18) < diff.localFen ∧ diff.localFen < 10 ^ 18) ∧
        -(10 ^ 18) < diff.channelFen ∧ diff.channelFen < 10 ^ 18 := fits_sides fits
    apply wrap64_of_fits <;> unfold ClassifiedDiff.spread <;> omega
  · exact exact

/-- The two computations of a batch agree exactly when nothing is lost: the totals count
overwritten lines, the differences do not. -/
theorem batch_conserves_iff {locals channels : List ReconcileSideRow} {billDate batchNo : String}
    (distinct : (locals.map ReconcileSideRow.channelTradeNo).Nodup)
    (fits : ∀ diff ∈ classifyReconcileDiffs locals channels,
      (ReconcileService.storedDiff batchNo diff).fits = true) :
    Conserves
      (ReconcileService.buildBatch billDate batchNo locals channels
        (classifyReconcileDiffs locals channels))
      ((classifyReconcileDiffs locals channels).map (ReconcileService.storedDiff batchNo)) ↔
      NothingLost locals channels := by
  have whole : overwritten locals = [] := OrderedMap.superseded_nil distinct
  have localSum := byTradeNo_sum locals
  have channelSum := byTradeNo_sum channels
  have classified := classified_sum locals channels
  have exact : ((classifyReconcileDiffs locals channels).map
      (ReconcileService.storedDiff batchNo)).map ReconcileDiff.diffAmountFen =
      (classifyReconcileDiffs locals channels).map ClassifiedDiff.spread := by
    rw [List.map_map]
    exact List.map_congr_left fun diff member => diffFen_exact member (fits diff member)
  have balanced : (ReconcileService.buildBatch billDate batchNo locals channels
      (classifyReconcileDiffs locals channels)).status = .kBalanced ↔ Matched locals channels := by
    rw [← classified_nil]
    simp [ReconcileService.buildBatch]
  rw [whole] at localSum
  rw [Conserves, NothingLost, exact, balanced]
  simp only [ReconcileService.buildBatch, totalFen_eq, overflow]
  have first : wrap64 (sideSum locals) - wrap64 (sideSum channels) =
      ((classifyReconcileDiffs locals channels).map ClassifiedDiff.spread).sum ↔
      sideSum (overwritten channels) = sideSum channels - wrap64 (sideSum channels) -
        (sideSum locals - wrap64 (sideSum locals)) := by
    simp only [sideSum, List.map_nil, List.sum_nil] at localSum channelSum ⊢
    omega
  rw [first]
  refine and_congr_right fun _ => forall_congr' fun matched => ?_
  have sizes := matched_length matched
  have localSize : (byTradeNo locals).length + (overwritten locals).length = locals.length :=
    OrderedMap.ofList_length ReconcileSideRow.channelTradeNo locals
  have channelSize :
      (byTradeNo channels).length + (overwritten channels).length = channels.length :=
    OrderedMap.ofList_length ReconcileSideRow.channelTradeNo channels
  have nothing := (classified_nil locals channels).mpr matched
  rw [nothing, List.map_nil, List.sum_nil] at classified
  rw [whole, List.length_nil] at localSize
  constructor
  · rintro ⟨counts, -⟩
    apply List.eq_nil_of_length_eq_zero
    omega
  · intro none
    rw [none] at channelSum channelSize
    have sums : sideSum locals = sideSum channels := by omega
    rw [List.length_nil] at channelSize
    exact ⟨by omega, by rw [sums]⟩

end Batch

/-- The day's local rows have distinct trade numbers, by `uk_channel_trade`: equal texts would
be equal under the collation too, and all of them are of one channel. -/
theorem localSide_distinct {collate : String → String} {db : Db} {billDate : String}
    {locals : List ReconcileSideRow} (keys : Schema collate db)
    (side : LocalSide collate billDate db locals) :
    (locals.map ReconcileSideRow.channelTradeNo).Nodup := by
  obtain ⟨day, -, rfl⟩ := side
  let selects (row : Row Payment) : Bool :=
    collate row.val.channel == collate ReconcileService.kChannel && row.val.status == .kSuccess &&
      BeijingTime.inWindow day row.val.callbackTime
  have sorted : (db.paymentsOfDay collate ReconcileService.kChannel day).Perm
      (db.payments.filter selects) := List.mergeSort_perm _ _
  rw [List.map_map, (sorted.map _).nodup_iff]
  have pairs : ((db.payments.filter selects).map fun row =>
      (collate row.val.channel, collate row.val.channelTradeNo)).Nodup :=
    keys.channelTrade.sublist (List.filter_sublist.map _)
  rw [List.Nodup, List.pairwise_map] at pairs ⊢
  refine List.Pairwise.imp_of_mem ?_ pairs
  intro one two first second apart same
  have channelOf : ∀ row ∈ db.payments.filter selects,
      collate row.val.channel = collate ReconcileService.kChannel := by
    intro row member
    have selected := (List.mem_filter.mp member).2
    simp only [selects, Bool.and_eq_true, beq_iff_eq] at selected
    exact selected.1.1
  apply apart
  rw [channelOf one first, channelOf two second]
  exact congrArg (fun tradeNo => (_, collate tradeNo)) same

/-- A day has one local side. -/
theorem LocalSide.unique {collate : String → String} {db : Db} {billDate : String}
    {one two : List ReconcileSideRow} (first : LocalSide collate billDate db one)
    (second : LocalSide collate billDate db two) : one = two := by
  obtain ⟨day, dated, rfl⟩ := first
  obtain ⟨other, same, rfl⟩ := second
  rw [dated] at same
  rw [Option.some.inj same]

/-- A completed run commits one batch with its differences, and the batch conserves money
exactly when the overwritten lines of the bill make no difference. Any bill the run accepts is
meant, and any payments of the day; the comparison's own sums are
`classifyReconcileDiffs_spec`. -/
theorem run_conserves_iff {P : Platform} {billDate bill : String} {first last : Shared Db}
    {answer : Answer} {locals channels : List ReconcileSideRow}
    (formed : WellFormed P.collate first)
    (alone : Alone P (.reconcile billDate (some bill)) first answer last)
    (completed : fresh (.reconcile billDate (some bill)) answer = true)
    (side : LocalSide P.collate billDate first.committed locals)
    (parsed : ReconcileService.parseBill bill = some channels) :
    ∃ batch diffs, last.committed.batches = first.committed.batches ++ [batch] ∧
      last.committed.diffs = first.committed.diffs ++ diffs ∧
      (∀ row ∈ diffs, row.val.batchNo = batch.val.batchNo) ∧
      (Conserves batch.val (diffs.map Row.val) ↔ NothingLost locals channels) := by
  have effect := fresh_effect formed alone completed
  generalize called : Call.reconcile billDate (some bill) = call at effect
  cases effect with
  | order | callback | handle => cases called
  | @run _ _ reconciliation before after reconciled =>
    cases called
    obtain ⟨batchNo, built⟩ := reconciled.batch
    have channelRows : reconciliation.channels = channels :=
      Option.some.inj (reconciled.parsed.symm.trans parsed)
    have localRows := LocalSide.unique reconciled.locals side
    have listed := reconciled.diffs
    rw [channelRows, localRows] at built listed
    have numbered : reconciliation.batch.val.batchNo = batchNo := by rw [built]; rfl
    rw [numbered] at listed
    refine ⟨reconciliation.batch, reconciliation.diffs, reconciled.batches, reconciled.diffRows,
      ?_, ?_⟩
    · intro row member
      have mapped : row.val ∈ reconciliation.diffs.map Row.val := List.mem_map_of_mem member
      rw [listed] at mapped
      obtain ⟨diff, -, same⟩ := List.mem_map.mp mapped
      rw [← same, numbered]
      rfl
    · rw [built, listed]
      refine batch_conserves_iff (localSide_distinct formed.schema side) fun diff member => ?_
      have mapped : ReconcileService.storedDiff batchNo diff ∈ reconciliation.diffs.map Row.val := by
        rw [listed]
        exact List.mem_map_of_mem member
      obtain ⟨row, stored, same⟩ := List.mem_map.mp mapped
      rw [← same]
      exact reconciled.diffsFit row stored

namespace Shop

/-- The shop's store with one payment of 39.90 on the day. -/
def settled : Shared Db :=
  { store with
    committed :=
      { store.committed with
        payments := [⟨50,
          ⟨"7002", "7001", "MOCK", "T1", 3990, .kSuccess, "2026-09-13 12:58:16", "raw"⟩⟩] } }

/-- The bill's line for that payment. -/
def billLine : String := "T1,7001,39.90,2026-09-13 12:58:16\n"

/-- The reconciliation of the day. -/
def reconcile (bill : String) : Call := .reconcile "2026-09-13" (some bill)

/-- A reconciliation of the day with every request answered. -/
def reconcileRun (bill : String) : Option (Answer × Shared Db) :=
  aloneRun platform (List.replicate 7 (.ok ⟨some "7003", 1789275496⟩)) (reconcile bill) settled

/-- The store with the paid order is well formed. -/
theorem settled_formed : WellFormed platform.collate settled := by
  constructor <;> constructor <;>
    simp [settled, store, UniqueIds, UniqueKey]

/-- The batch both runs below commit, up to what the bill adds up to. -/
def batch (channelCount channelAmountFen : Int) : Row ReconcileBatch :=
  ⟨100, ⟨"7003", "2026-09-13", "MOCK", 1, 3990, channelCount, channelAmountFen, 0, .kBalanced⟩⟩

/-- The run behind what was computed. -/
theorem reconcileRun_alone (bill : String) (stored : Row ReconcileBatch)
    (ran : ((reconcileRun bill).map fun (answer, last) =>
      (fresh (reconcile bill) answer, last.committed.batches, last.committed.diffs)) =
        some (true, [stored], [])) :
    ∃ answer last, Alone platform (reconcile bill) settled answer last ∧
      fresh (reconcile bill) answer = true ∧ last.committed.batches = [stored] ∧
      last.committed.diffs = [] := by
  obtain ⟨⟨answer, last⟩, ran, same⟩ := Option.map_eq_some_iff.mp ran
  simp only [Prod.mk.injEq] at same
  exact ⟨answer, last, .of_aloneRun ran, same⟩

end Shop

/-- A bill that names the payment twice is accepted and the batch is balanced,
though the bill has twice the count and the amount. -/
theorem shop_repeatedLine :
    ∃ answer last, WellFormed Shop.platform.collate Shop.settled ∧
      Alone Shop.platform (Shop.reconcile (Shop.billLine ++ Shop.billLine)) Shop.settled answer
        last ∧
      fresh (Shop.reconcile (Shop.billLine ++ Shop.billLine)) answer = true ∧
      last.committed.batches = [Shop.batch 2 7980] ∧ last.committed.diffs = [] ∧
      ¬Conserves (Shop.batch 2 7980).val [] := by
  obtain ⟨answer, last, alone, success, batches, diffs⟩ :=
    Shop.reconcileRun_alone (Shop.billLine ++ Shop.billLine) (Shop.batch 2 7980) (by decide +kernel)
  refine ⟨answer, last, Shop.settled_formed, alone, success, batches, diffs, ?_⟩
  rintro ⟨sum, -⟩
  exact absurd sum (by decide)

/-- A bill that has the payment at another amount and a line of its own. -/
def Shop.mixedBill : String :=
  "T1,7001,39.50,2026-09-13 12:58:16\nT2,7002,19.95,2026-09-13 13:00:00\n"

/-- The batch with these two differences. -/
def Shop.mixedBatch : Row ReconcileBatch :=
  ⟨100, ⟨"7003", "2026-09-13", "MOCK", 1, 3990, 2, 5945, 2, .kHasDiff⟩⟩

/-- One payment against two lines: the difference of the amounts is the sum of the two
differences that are stored. -/
theorem shop_conserves :
    ∃ answer last diffs,
      Alone Shop.platform (Shop.reconcile Shop.mixedBill) Shop.settled answer last ∧
      fresh (Shop.reconcile Shop.mixedBill) answer = true ∧
      last.committed.batches = [Shop.mixedBatch] ∧ last.committed.diffs = diffs ∧
      diffs.map (fun row => (row.val.diffType, row.val.diffAmountFen)) =
        [(.kChannelOnly, -1995), (.kAmountMismatch, 40)] ∧
      Conserves Shop.mixedBatch.val (diffs.map Row.val) := by
  have executed : ((aloneRun Shop.platform (List.replicate 9 (.ok ⟨some "7003", 1789275496⟩))
      (Shop.reconcile Shop.mixedBill) Shop.settled).map fun (answer, last) =>
      (fresh (Shop.reconcile Shop.mixedBill) answer, last.committed.batches,
        last.committed.diffs.map fun row => (row.val.diffType, row.val.diffAmountFen))) =
      some (true, [Shop.mixedBatch], [(.kChannelOnly, -1995), (.kAmountMismatch, 40)]) := by
    decide +kernel
  obtain ⟨⟨answer, last⟩, ran, same⟩ := Option.map_eq_some_iff.mp executed
  simp only [Prod.mk.injEq] at same
  obtain ⟨success, batches, amounts⟩ := same
  have alone : Alone Shop.platform (Shop.reconcile Shop.mixedBill) Shop.settled answer last :=
    .of_aloneRun ran
  let rows : List ReconcileSideRow := [⟨"T1", "7001", 3990⟩]
  have side : LocalSide Shop.platform.collate "2026-09-13" Shop.settled.committed rows :=
    ⟨_, rfl, by decide +kernel⟩
  have parsed : ReconcileService.parseBill Shop.mixedBill =
      some [⟨"T1", "7001", 3950⟩, ⟨"T2", "7002", 1995⟩] := by decide +kernel
  obtain ⟨batch, diffs, sameBatch, sameRows, -, exactly⟩ :=
    run_conserves_iff Shop.settled_formed alone success side parsed
  have only : batch = Shop.mixedBatch := by
    simpa [batches, Shop.settled, Shop.store] using sameBatch.symm
  subst only
  have listed : last.committed.diffs = diffs := sameRows
  refine ⟨answer, last, diffs, alone, success, batches, listed, listed ▸ amounts,
    exactly.mpr ⟨?_, ?_⟩⟩
  · decide
  · intro _
    decide

end TradeReconcile
