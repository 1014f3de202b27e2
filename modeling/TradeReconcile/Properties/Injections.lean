import TradeReconcile.Properties.Classification
import TradeReconcile.Properties.Columns
import TradeReconcile.Properties.Completion

/-!
# The script's differences are the ones that are found

The options of the script promise differences of one type each: removed lines are on the local
side only, forged lines on the channel's side only, and lines that were tampered with have
another amount. On a day whose numbers are printed as they are and read back as they are, the
run on the edited bill completes and stores exactly these differences. A line that is tampered
with and removed is only removed, and an amount of 0.01 cannot be tampered with.
-/

namespace TradeReconcile

open Transactions

/-! Sides that differ by known edits. -/

section Edits

variable {kept : List (ReconcileSideRow × ReconcileSideRow)} {missing extra : List ReconcileSideRow}

/-- Where no trade number is repeated, the last row of a number is its row. -/
theorem lastOf_distinct {rows : List ReconcileSideRow}
    (distinct : (rows.map ReconcileSideRow.channelTradeNo).Nodup) {tradeNo : String}
    {row : ReconcileSideRow} :
    lastOf tradeNo rows = some row ↔ row ∈ rows ∧ row.channelTradeNo = tradeNo := by
  constructor
  · exact lastOf_mem
  · rintro ⟨member, rfl⟩
    cases last : lastOf row.channelTradeNo rows with
    | none =>
      rw [lastOf, List.getLast?_eq_none_iff, List.filter_eq_nil_iff] at last
      simpa using last row member
    | some other =>
      obtain ⟨present, same⟩ := lastOf_mem last
      exact congrArg some (List.inj_on_of_nodup_map distinct present member same)

/-- A number has no last row if it has no row. -/
theorem lastOf_none {rows : List ReconcileSideRow} {tradeNo : String} :
    lastOf tradeNo rows = none ↔ ∀ row ∈ rows, row.channelTradeNo ≠ tradeNo := by
  simp [lastOf]

/-- The differences of a comparison. -/
theorem mem_classified {locals channels : List ReconcileSideRow} (moderateLocals : Moderate locals)
    (moderateChannels : Moderate channels) {diff : ClassifiedDiff} :
    diff ∈ classifyReconcileDiffs locals channels ↔
      (∃ tradeNo localRow, lastOf tradeNo locals = some localRow ∧ lastOf tradeNo channels = none ∧
        diff = .ofLocal tradeNo localRow) ∨
      (∃ tradeNo channelRow, lastOf tradeNo channels = some channelRow ∧
        lastOf tradeNo locals = none ∧ diff = .ofChannel tradeNo channelRow) ∨
      ∃ tradeNo localRow channelRow, lastOf tradeNo locals = some localRow ∧
        lastOf tradeNo channels = some channelRow ∧ localRow.amountFen ≠ channelRow.amountFen ∧
        diff = .ofBoth tradeNo localRow channelRow := by
  rw [classifyReconcileDiffs, List.mem_append, List.mem_append, mem_localOnly,
    mem_channelOnly moderateChannels, mem_amountMismatch moderateLocals moderateChannels, or_assoc]

/-- What is missing, what is extra, and what was kept with another amount. -/
def editedDiffs (kept : List (ReconcileSideRow × ReconcileSideRow))
    (missing extra : List ReconcileSideRow) : List ClassifiedDiff :=
  missing.map (fun row => .ofLocal row.channelTradeNo row) ++
    extra.map (fun row => .ofChannel row.channelTradeNo row) ++
    (kept.filter fun pair => pair.1.amountFen != pair.2.amountFen).map
      fun pair => .ofBoth pair.1.channelTradeNo pair.1 pair.2

/-- The comparison finds the edits, each one once and nothing else. Both lists have distinct
trade numbers, so it is enough to compare members; every number is on the left, on the right
or on both sides. -/
theorem classified_edited (aligned : ∀ pair ∈ kept, pair.1.channelTradeNo = pair.2.channelTradeNo)
    (distinct : ((kept.map Prod.fst ++ missing ++ extra).map ReconcileSideRow.channelTradeNo).Nodup)
    (moderateLocals : Moderate (kept.map Prod.fst ++ missing))
    (moderateChannels : Moderate (kept.map Prod.snd ++ extra)) :
    (classifyReconcileDiffs (kept.map Prod.fst ++ missing) (kept.map Prod.snd ++ extra)).Perm
      (editedDiffs kept missing extra) := by
  have numbers : (kept.map Prod.snd).map ReconcileSideRow.channelTradeNo =
      (kept.map Prod.fst).map ReconcileSideRow.channelTradeNo := by
    rw [List.map_map, List.map_map]
    exact List.map_congr_left fun pair member => (aligned pair member).symm
  have locals : ((kept.map Prod.fst ++ missing).map ReconcileSideRow.channelTradeNo).Nodup := by
    rw [List.map_append] at distinct
    exact distinct.of_append_left
  have channels : ((kept.map Prod.snd ++ extra).map ReconcileSideRow.channelTradeNo).Nodup := by
    rw [List.map_append, numbers, ← List.map_append]
    exact distinct.sublist ((List.sublist_append_left _ _).append (.refl _) |>.map _)
  rw [List.map_append, List.map_append, List.map_map, List.nodup_append, List.nodup_append] at distinct
  obtain ⟨⟨pairs, missingDistinct, first⟩, extraDistinct, second⟩ := distinct
  have missingApart : ∀ row ∈ missing, ∀ pair ∈ kept, pair.1.channelTradeNo ≠ row.channelTradeNo :=
    fun row absent pair present => first _ (List.mem_map_of_mem present) _ (List.mem_map_of_mem absent)
  have extraApart : ∀ row ∈ extra, ∀ pair ∈ kept, pair.1.channelTradeNo ≠ row.channelTradeNo :=
    fun row forged pair present => second _ (List.mem_append_left _ (List.mem_map_of_mem present)) _
      (List.mem_map_of_mem forged)
  have sidesApart : ∀ row ∈ extra, ∀ other ∈ missing, other.channelTradeNo ≠ row.channelTradeNo :=
    fun row forged other absent => second _ (List.mem_append_right _ (List.mem_map_of_mem absent)) _
      (List.mem_map_of_mem forged)
  refine (List.perm_ext_iff_of_nodup (.of_map _ (classified_nodup _ _)) ?_).mpr fun diff => ?_
  · refine List.Nodup.of_map ClassifiedDiff.channelTradeNo ?_
    have keys : (editedDiffs kept missing extra).map ClassifiedDiff.channelTradeNo =
        missing.map ReconcileSideRow.channelTradeNo ++ extra.map ReconcileSideRow.channelTradeNo ++
          (kept.filter fun pair => pair.1.amountFen != pair.2.amountFen).map
            fun pair => pair.1.channelTradeNo := by
      simp [editedDiffs, Function.comp_def, ClassifiedDiff.ofLocal, ClassifiedDiff.ofChannel,
        ClassifiedDiff.ofBoth]
    rw [keys, List.nodup_append, List.nodup_append]
    refine ⟨⟨missingDistinct, extraDistinct, ?_⟩, pairs.sublist (List.filter_sublist.map _), ?_⟩
    · simp only [List.mem_map]
      rintro _ ⟨other, absent, rfl⟩ _ ⟨row, forged, rfl⟩
      exact sidesApart row forged other absent
    · simp only [List.mem_append, List.mem_map, List.mem_filter]
      rintro _ (⟨row, absent, rfl⟩ | ⟨row, forged, rfl⟩) _ ⟨pair, ⟨present, -⟩, rfl⟩
      · exact (missingApart row absent pair present).symm
      · exact (extraApart row forged pair present).symm
  rw [mem_classified moderateLocals moderateChannels]
  simp only [lastOf_distinct locals, lastOf_distinct channels, lastOf_none, editedDiffs,
    List.mem_append, List.mem_map, List.mem_filter, bne_iff_ne, or_assoc]
  constructor
  · rintro (⟨_, row, ⟨⟨pair, present, rfl⟩ | absent, rfl⟩, alone, rfl⟩ |
      ⟨_, row, ⟨⟨pair, present, rfl⟩ | forged, rfl⟩, alone, rfl⟩ |
      ⟨_, row, other, ⟨⟨pair, present, rfl⟩ | absent, rfl⟩, ⟨⟨twin, also, rfl⟩ | forged, same⟩, apart, rfl⟩)
    · exact absurd (aligned pair present).symm (alone _ (.inl ⟨pair, present, rfl⟩))
    · exact .inl ⟨row, absent, rfl⟩
    · exact absurd (aligned pair present) (alone _ (.inl ⟨pair, present, rfl⟩))
    · exact .inr (.inl ⟨row, forged, rfl⟩)
    · have equal : twin = pair := by
        refine List.inj_on_of_nodup_map pairs also present ?_
        exact (aligned twin also).trans same
      subst equal
      exact .inr (.inr ⟨twin, ⟨present, apart⟩, rfl⟩)
    · exact absurd same.symm (extraApart other forged pair present)
    · exact absurd ((aligned twin also).trans same) (missingApart row absent twin also)
    · exact absurd same.symm (sidesApart other forged row absent)
  · rintro (⟨row, absent, rfl⟩ | ⟨row, forged, rfl⟩ | ⟨pair, ⟨present, apart⟩, rfl⟩)
    · refine .inl ⟨_, row, ⟨.inr absent, rfl⟩, ?_, rfl⟩
      rintro other (⟨pair, present, rfl⟩ | forged)
      · exact aligned pair present ▸ missingApart row absent pair present
      · exact (sidesApart other forged row absent).symm
    · refine .inr (.inl ⟨_, row, ⟨.inr forged, rfl⟩, ?_, rfl⟩)
      rintro other (⟨pair, present, rfl⟩ | absent)
      · exact extraApart row forged pair present
      · exact sidesApart row forged other absent
    · exact .inr (.inr ⟨_, pair.1, pair.2, ⟨.inl ⟨pair, present, rfl⟩, rfl⟩,
        ⟨.inl ⟨pair, present, rfl⟩, (aligned pair present).symm⟩, apart, rfl⟩)

end Edits

namespace ReconcileService

/-! The edited file, line by line. -/

/-- A payment whose line is read back: plain numbers, a readable amount, and a time without
structure. -/
structure Legible (payment : Payment) : Prop where
  plain : Plain payment
  readable : Readable payment
  timed : payment.callbackTime.toList ≠ [] ∧ ',' ∉ payment.callbackTime.toList ∧
    '\n' ∉ payment.callbackTime.toList

/-- A payment whose line is printed as it is. -/
def Unescaped (payment : Payment) : Prop :=
  ∀ c ∈ payment.channelTradeNo.toList ++ payment.orderNo.toList, batchChar c = [c]

/-- `0.01` in place of the amount. -/
def tampered (payment : Payment) : Payment := { payment with amountFen := 1 }

/-- What a forged line tells of. -/
def forged (date : String) (ts number : Nat) : Payment where
  paymentNo := ""
  orderNo := "ORDER_UNKNOWN_" ++ fourDigits number
  channel := kChannel
  channelTradeNo := "MOCKEXTRA" ++ ts.repr ++ fourDigits number
  amountFen := 19900
  status := .kSuccess
  callbackTime := date ++ " 12:00:00"
  rawBody := ""

/-- The payments that stay in the file, beside what the file tells of them. -/
def keptPairs (injection : Injection) (payments : List Payment) : List (Payment × Payment) :=
  let kept := payments.take (payments.length - injection.missing)
  (kept.take injection.tamper).map (fun payment => (payment, tampered payment)) ++
    (kept.drop injection.tamper).map fun payment => (payment, payment)

/-- The forged payments. -/
def forgeries (injection : Injection) (date : String) (ts : Nat) : List Payment :=
  (List.range injection.extra).map fun index => forged date ts (index + 1)

section Lines

variable {payment : Payment}

/-- The fields of a legible payment hold no comma. -/
theorem fields_plain (legible : Legible payment) : ∀ field ∈ [payment.channelTradeNo, payment.orderNo,
    MoneyUtil.fenToYuanString payment.amountFen, payment.callbackTime], ',' ∉ field.toList := by
  intro field member
  simp only [List.mem_cons, List.not_mem_nil, or_false] at member
  obtain rfl | rfl | rfl | rfl := member
  · exact legible.plain.tradeNo.1
  · exact legible.plain.orderNo.1
  · exact amount_plain legible.readable (.inl rfl)
  · exact legible.timed.2.1

/-- The line of a legible payment is read as its row. -/
theorem Legible.parsed (legible : Legible payment) :
    parseBillLine (exportLine payment) = some (sideRow payment) := by
  have fields := fields_plain legible
  have regular : Regular (exportLine payment) := by
    rw [Regular, exportLine, splitOn_fields.mpr ⟨fields, rfl⟩]
    exact fun _ => ⟨rfl, legible.timed.1⟩
  rw [(parseBillLine_eq_iff _).mpr regular, billRow_iff]
  exact ⟨_, _, fields, rfl, readable_amount legible.readable⟩

/-- It is one line. -/
theorem Legible.whole (legible : Legible payment) : '\n' ∉ (exportLine payment).toList := by
  have amount := amount_plain legible.readable (.inr rfl)
  simp [exportLine, legible.plain.tradeNo.2, legible.plain.orderNo.2, amount, legible.timed.2.2]

/-- A file of legible lines is read back. -/
theorem parseBill_legible {payments : List Payment} (legible : ∀ payment ∈ payments, Legible payment) :
    parseBill (String.join ((payments.map fun payment => (exportLine payment).toList).map
      fun line => String.ofList line ++ "\n")) = some (payments.map sideRow) := by
  have file : (String.join ((payments.map fun payment => (exportLine payment).toList).map
      fun line => String.ofList line ++ "\n")).toList =
      (payments.map fun payment => (exportLine payment).toList).flatMap (· ++ ['\n']) := by
    simp [String.toList_join, List.flatMap_map]
  have whole : ∀ line ∈ payments.map fun payment => (exportLine payment).toList, '\n' ∉ line := by
    intro line member
    obtain ⟨payment, present, rfl⟩ := List.mem_map.mp member
    exact (legible payment present).whole
  have rows : ∀ line ∈ payments.map fun payment => (exportLine payment).toList,
      isBillRow line = true := by
    intro line member
    obtain ⟨payment, present, rfl⟩ := List.mem_map.mp member
    exact exportLine_isBillRow (legible payment present).plain
  rw [parseBill, file, getlines_lines whole, List.filter_eq_self.mpr rows, List.mapM_map]
  refine mapM_map fun payment present => ?_
  simpa using (legible payment present).parsed

/-- What is tampered with is the line of the payment with the other amount. -/
theorem tamperLine_exportLine (legible : Legible payment) :
    tamperLine (exportLine payment).toList = (exportLine (tampered payment)).toList := by
  have split := splitOn_fields.mpr ⟨fields_plain legible, rfl⟩
  have cent : MoneyUtil.fenToYuanString 1 = "0.01" := by decide
  rw [tamperLine, exportLine, split]
  simp [exportLine, tampered, cent]

/-- A tampered payment is as legible as before. -/
theorem Legible.tampered (legible : Legible payment) : Legible (tampered payment) where
  plain := ⟨legible.plain.tradeNo, legible.plain.noComment, legible.plain.orderNo⟩
  readable := ⟨show (0 : Int) < 1 by decide, show (1 : Int) ≤ 100000000999 by decide⟩
  timed := legible.timed

/-- Digits and marks are printed as they are. -/
theorem batchChar_mark {c : Char} (mark : c.isDigit = true ∨ c ∈ [',', '+', '-', '.', ' ', ':']) :
    batchChar c = [c] := by
  have apart : ∀ other ∈ ['\n', '\t', '\\', Char.ofNat 0], c ≠ other := by
    intro other escaped same
    subst same
    simp only [List.mem_cons, List.not_mem_nil, or_false] at escaped
    rcases escaped with rfl | rfl | rfl | rfl <;> exact absurd mark (by decide)
  simp only [List.mem_cons, List.not_mem_nil, or_false, forall_eq_or_imp, forall_eq] at apart
  simp [batchChar, apart]

/-- The client prints the line as it is. None of the four fields holds a character that the
batch mode would escape. -/
theorem printed (readable : Readable payment) (unescaped : Unescaped payment) {seconds : Int}
    (timed : BeijingTime.parseDateTime payment.callbackTime = some seconds) :
    (exportLine payment).toList.flatMap batchChar = (exportLine payment).toList := by
  have each : ∀ c ∈ (exportLine payment).toList, batchChar c = [c] := by
    intro c member
    have chars := MoneyUtil.yuanStringToFen_chars (readable_amount readable) c
    have times := (parseDateTime_chars timed).2 c
    have numbers := unescaped c
    simp only [exportLine, String.toList_append, List.mem_append] at member numbers
    have marks : ∀ {some : List Char}, c ∈ some → some ⊆ [',', '+', '-', '.', ' ', ':'] → batchChar c = [c] :=
      fun present inside => batchChar_mark (.inr (inside present))
    rcases member with (((((tradeNo | comma) | orderNo) | comma) | amount) | comma) | time
    · exact numbers (.inl tradeNo)
    · exact marks comma (by decide)
    · exact numbers (.inr orderNo)
    · exact marks comma (by decide)
    · rcases chars amount with mark | ⟨lower, upper⟩
      · exact marks mark (by decide)
      · refine batchChar_mark (.inl ?_)
        rw [Char.isDigit, Bool.and_eq_true]
        exact ⟨decide_eq_true lower, decide_eq_true upper⟩
    · exact marks comma (by decide)
    · rcases times time with digit | mark
      · exact batchChar_mark (.inl digit)
      · exact marks mark (by decide)
  rw [List.flatMap_congr each]
  simp

/-- A forged line is the line of a payment that nobody made. -/
theorem extraLine_forged (date : String) (ts number : Nat) :
    extraLine date ts number = exportLine (forged date ts number) := by
  have amount : MoneyUtil.fenToYuanString 19900 = "199.00" := by decide
  change _ = (forged date ts number).channelTradeNo ++ "," ++ (forged date ts number).orderNo ++ "," ++
    MoneyUtil.fenToYuanString 19900 ++ "," ++ (forged date ts number).callbackTime
  rw [amount]
  rfl

end Lines

section Edit

variable {injection : Injection} {date : String} {ts : Nat} {payments : List Payment}

/-- What the file tells of, in its order. -/
def altered (injection : Injection) (date : String) (ts : Nat) (payments : List Payment) :
    List Payment :=
  (keptPairs injection payments).map Prod.snd ++ forgeries injection date ts

/-- Two edits of one list: the first lines are changed, the last ones removed. -/
theorem map_take_edit {α β : Type} (items : List α) (change same : α → β) (front kept : Nat) :
    ((items.take front).map change ++ (items.drop front).map same).take kept =
      ((items.take kept).take front).map change ++ ((items.take kept).drop front).map same := by
  induction items generalizing front kept with
  | nil => simp
  | cons item rest inductionHypothesis =>
    cases front with
    | zero => simp [List.map_take]
    | succ front =>
      cases kept with
      | zero => simp
      | succ kept => simpa using inductionHypothesis front kept

/-- The edited file is the file of the edited payments. -/
theorem edit_exported (legible : ∀ payment ∈ payments, Legible payment) :
    injection.edit date ts (payments.map fun payment => (exportLine payment).toList) =
      (altered injection date ts payments).map fun payment => (exportLine payment).toList := by
  have changed : ((payments.map fun payment => (exportLine payment).toList).take injection.tamper).map
      tamperLine = (payments.take injection.tamper).map fun payment =>
        (exportLine (tampered payment)).toList := by
    rw [← List.map_take, List.map_map]
    exact List.map_congr_left fun payment member =>
      tamperLine_exportLine (legible payment (List.mem_of_mem_take member))
  have whole : ((payments.take injection.tamper).map (fun payment =>
      (exportLine (tampered payment)).toList) ++ (payments.drop injection.tamper).map fun payment =>
        (exportLine payment).toList).length = payments.length := by
    simp
    omega
  rw [Injection.edit, changed, ← List.map_drop, whole, map_take_edit, altered, keptPairs, forgeries]
  simp [extraLine_forged, Function.comp_def]

end Edit

section Forgeries

variable {date : String} {ts number : Nat}

/-- The running number is written in digits. -/
theorem fourDigits_chars : ∀ c ∈ (fourDigits number).toList, c.isDigit = true := by
  intro c member
  rw [fourDigits, String.toList_append, String.toList_ofList, List.mem_append] at member
  rcases member with zero | digit
  · rw [(List.mem_replicate.mp zero).2]
    rfl
  · rw [Nat.toList_repr] at digit
    exact Decimal.toDigits_isDigit number c digit

/-- Leading zeros do not change a number, so no number is printed like another one. -/
theorem fourDigits_injective : Function.Injective fourDigits := by
  have value : ∀ number, Nat.ofDigitChars 10 (fourDigits number).toList 0 = number := by
    intro number
    rw [fourDigits, String.toList_append, String.toList_ofList, Nat.ofDigitChars_append,
      Nat.ofDigitChars_replicate_zero, Nat.mul_zero, Nat.toList_repr, Nat.ofDigitChars_ten_toDigits]
  intro one two same
  rw [← value one, same, value two]

/-- It has at most ten of them. -/
theorem fourDigits_length (small : number < 10 ^ 10) : (fourDigits number).length ≤ 10 := by
  have digits : number.repr.length ≤ 10 := (Nat.length_repr_le_iff (by decide)).mpr small
  rw [fourDigits, String.length_append, String.length_ofList, List.length_replicate]
  omega

/-- The forged trade numbers are distinct. -/
theorem forged_tradeNo_injective (date : String) (ts : Nat) :
    Function.Injective fun number => (forged date ts number).channelTradeNo := by
  intro one two same
  have texts : ("MOCKEXTRA" ++ ts.repr).toList ++ (fourDigits one).toList =
      ("MOCKEXTRA" ++ ts.repr).toList ++ (fourDigits two).toList := by
    rw [← String.toList_append, ← String.toList_append]
    exact congrArg String.toList same
  exact fourDigits_injective (String.toList_inj.mp (List.append_cancel_left texts))

/-- Forged lines are legible. -/
theorem forged_legible {day : Int} (dated : BeijingTime.parseDateTime (date ++ " 00:00:00") = some day) :
    Legible (forged date ts number) := by
  have digits : ∀ mark ∈ [',', '\n'], ∀ value, mark ∉ (fourDigits value).toList ∧
      mark ∉ Nat.toDigits 10 value := by
    intro mark among value
    have apart : mark.isDigit = false := by
      simp only [List.mem_cons, List.not_mem_nil, or_false] at among
      rcases among with rfl | rfl <;> rfl
    constructor
    · intro inside
      exact absurd (fourDigits_chars mark inside) (by simp [apart])
    · intro inside
      exact absurd (Decimal.toDigits_isDigit value mark inside) (by simp [apart])
  have dates : ∀ mark ∈ [',', '\n'], mark ∉ date.toList := by
    intro mark among inside
    have allowed := (parseDateTime_chars dated).2 mark (by simp [inside])
    simp only [List.mem_cons, List.not_mem_nil, or_false] at among
    rcases among with rfl | rfl <;> exact absurd allowed (by decide)
  have comma := digits ',' (by simp)
  have feed := digits '\n' (by simp)
  constructor
  · constructor
    · simp [forged, comma, feed]
    · simp [forged]
    · simp [forged, comma, feed]
  · exact ⟨show (0 : Int) < 19900 by decide, show (19900 : Int) ≤ 100000000999 by decide⟩
  · simp [forged, dates ',' (by simp), dates '\n' (by simp)]

/-- Their numbers fit the columns. -/
theorem forged_fits (clock : ts < 10 ^ 19) (small : number < 10 ^ 10) :
    (forged date ts number).channelTradeNo.length ≤ 64 ∧ (forged date ts number).orderNo.length ≤ 32 := by
  have digits := fourDigits_length small
  have seconds : ts.repr.length ≤ 19 := (Nat.length_repr_le_iff (by decide)).mpr clock
  have mock : "MOCKEXTRA".length = 9 := by decide
  have unknown : "ORDER_UNKNOWN_".length = 14 := by decide
  simp only [forged, String.length_append, mock, unknown]
  omega

end Forgeries

/-- A day whose exported bill is read back, and on which the forged lines are new and the
columns hold the edited sides. -/
structure Editable (collate : String → String) (db : Db) (day : Int) (injection : Injection)
    (ts : Nat) : Prop where
  plain : ∀ row ∈ db.paymentsOfDay collate kChannel day, Plain row.val ∧ Unescaped row.val
  unforged : ∀ row ∈ db.paymentsOfDay collate kChannel day, ∀ number,
    row.val.channelTradeNo ≠ "MOCKEXTRA" ++ ts.repr ++ fourDigits number
  clock : ts < 10 ^ 19
  count : (db.paymentsOfDay collate kChannel day).length + injection.extra < 2 ^ 32
  total : sideSum (localsOf collate db day) + 19900 * injection.extra < 10 ^ 18

/-- The differences that the options promise: removed payments, forged lines, and those
tampered lines whose amount was not one fen already. -/
def injectedDiffs (injection : Injection) (date : String) (ts : Nat) (payments : List Payment) :
    List ClassifiedDiff :=
  let kept := payments.take (payments.length - injection.missing)
  (payments.drop (payments.length - injection.missing)).map
      (fun payment => .ofLocal payment.channelTradeNo (sideRow payment)) ++
    (forgeries injection date ts).map
      (fun payment => .ofChannel payment.channelTradeNo (sideRow payment)) ++
    ((kept.take injection.tamper).filter fun payment => payment.amountFen != 1).map
      fun payment => .ofBoth payment.channelTradeNo (sideRow payment) (sideRow (tampered payment))

section Comparison

variable {injection : Injection} {date : String} {ts : Nat} {payments : List Payment}

/-- The kept lines as rows of both sides. -/
def keptRows (injection : Injection) (payments : List Payment) :
    List (ReconcileSideRow × ReconcileSideRow) :=
  (keptPairs injection payments).map fun pair => (sideRow pair.1, sideRow pair.2)

/-- The payments that are kept are all but the last ones. -/
theorem keptPairs_fst : (keptPairs injection payments).map Prod.fst =
    payments.take (payments.length - injection.missing) := by
  simp [keptPairs, Function.comp_def]

/-- A kept line is the payment's own or tampered with. -/
theorem keptPairs_aligned : ∀ pair ∈ keptPairs injection payments,
    pair.2 = pair.1 ∨ pair.2 = tampered pair.1 := by
  intro pair member
  rcases List.mem_append.mp member with changed | same
  · obtain ⟨payment, -, rfl⟩ := List.mem_map.mp changed
    exact .inr rfl
  · obtain ⟨payment, -, rfl⟩ := List.mem_map.mp same
    exact .inl rfl

/-- What the options promise is the comparison of the kept lines with their payments, the
missing ones and the forged ones. -/
theorem injectedDiffs_edited : injectedDiffs injection date ts payments =
    editedDiffs (keptRows injection payments)
      ((payments.drop (payments.length - injection.missing)).map sideRow)
      ((forgeries injection date ts).map sideRow) := by
  simp only [injectedDiffs, editedDiffs, keptRows, keptPairs, List.map_append, List.map_map]
  generalize payments.take (payments.length - injection.missing) = kept
  generalize kept.take injection.tamper = front
  generalize kept.drop injection.tamper = back
  simp [List.filter_map, Function.comp_def, sideRow, tampered]

/-- A line of the edited bill is a payment's, tampered with or not, or forged. -/
theorem altered_cases {payment : Payment} (member : payment ∈ altered injection date ts payments) :
    (∃ own ∈ payments, payment = own ∨ payment = tampered own) ∨
      ∃ number, payment = forged date ts number ∧ number ≤ injection.extra := by
  rcases List.mem_append.mp member with kept | new
  · obtain ⟨pair, present, rfl⟩ := List.mem_map.mp kept
    have own : pair.1 ∈ payments := by
      have first := List.mem_map_of_mem (f := Prod.fst) present
      rw [keptPairs_fst] at first
      exact List.mem_of_mem_take first
    exact .inl ⟨pair.1, own, keptPairs_aligned pair present⟩
  · obtain ⟨index, below, rfl⟩ := List.mem_map.mp new
    exact .inr ⟨index + 1, rfl, List.mem_range.mp below⟩

/-- Amounts of readable payments are moderate. -/
theorem moderate_readable (readable : ∀ payment ∈ payments, Readable payment) :
    Moderate (payments.map sideRow) := by
  intro row member
  obtain ⟨payment, present, rfl⟩ := List.mem_map.mp member
  obtain ⟨positive, small⟩ := readable payment present
  constructor
  · change -(10 ^ 18) ≤ payment.amountFen
    omega
  · change payment.amountFen ≤ 10 ^ 18
    omega

/-- Its amount can be read back. -/
theorem altered_readable (readable : ∀ payment ∈ payments, Readable payment) :
    ∀ payment ∈ altered injection date ts payments, Readable payment := by
  intro payment member
  rcases altered_cases member with ⟨own, present, rfl | rfl⟩ | ⟨number, rfl, -⟩
  · exact readable payment present
  · exact ⟨show (0 : Int) < 1 by decide, show (1 : Int) ≤ 100000000999 by decide⟩
  · exact ⟨show (0 : Int) < 19900 by decide, show (19900 : Int) ≤ 100000000999 by decide⟩

/-- The comparison finds what the options promise. The edited bill is split into the kept
pairs and the forged lines, the removed payments being on the local side only. -/
theorem classified_injected (readable : ∀ payment ∈ payments, Readable payment)
    (distinct : (payments.map Payment.channelTradeNo).Nodup)
    (unforged : ∀ payment ∈ payments, ∀ number, payment.channelTradeNo ≠
      "MOCKEXTRA" ++ ts.repr ++ fourDigits number) :
    (classifyReconcileDiffs (payments.map sideRow) ((altered injection date ts payments).map sideRow)).Perm
      (injectedDiffs injection date ts payments) := by
  have locals : payments.map sideRow = (keptRows injection payments).map Prod.fst ++
      (payments.drop (payments.length - injection.missing)).map sideRow := by
    have first : (keptRows injection payments).map Prod.fst =
        (payments.take (payments.length - injection.missing)).map sideRow := by
      rw [← keptPairs_fst, keptRows, List.map_map, List.map_map]
      rfl
    rw [first, ← List.map_append, List.take_append_drop]
  have channels : (altered injection date ts payments).map sideRow =
      (keptRows injection payments).map Prod.snd ++ (forgeries injection date ts).map sideRow := by
    simp [altered, keptRows, Function.comp_def]
  have moderateLocals := moderate_readable readable
  have moderateChannels := moderate_readable (@altered_readable injection date ts payments readable)
  rw [injectedDiffs_edited]
  rw [locals] at moderateLocals ⊢
  rw [channels] at moderateChannels ⊢
  refine classified_edited ?_ ?_ moderateLocals moderateChannels
  · intro pair member
    obtain ⟨kept, present, rfl⟩ := List.mem_map.mp member
    rcases keptPairs_aligned kept present with same | changed
    · rw [same]
    · rw [changed]
      rfl
  · rw [← locals, List.map_append, List.nodup_append, List.map_map, List.map_map]
    refine ⟨distinct, ?_, ?_⟩
    · rw [forgeries, List.map_map]
      exact List.nodup_range.map fun one two same =>
        Nat.succ.inj (forged_tradeNo_injective date ts same)
    · intro tradeNo own other new
      obtain ⟨payment, present, rfl⟩ := List.mem_map.mp own
      obtain ⟨row, member, rfl⟩ := List.mem_map.mp new
      obtain ⟨index, -, rfl⟩ := List.mem_map.mp member
      exact unforged payment present (index + 1)

/-- The total of a side is that of its payments. -/
theorem sideSum_sideRow (payments : List Payment) :
    sideSum (payments.map sideRow) = (payments.map Payment.amountFen).sum := by
  rw [sideSum, List.map_map]
  rfl

/-- No total is negative. -/
theorem amounts_nonneg (readable : ∀ payment ∈ payments, Readable payment) :
    0 ≤ (payments.map Payment.amountFen).sum := by
  refine List.sum_nonneg fun amount member => ?_
  obtain ⟨payment, present, rfl⟩ := List.mem_map.mp member
  exact Int.le_of_lt (readable payment present).1

/-- Tampering and removing only lower the channel's total, forging raises it by what was
forged. Tampered amounts become one fen, and no payment is below that. -/
theorem altered_sum (readable : ∀ payment ∈ payments, Readable payment) :
    ((altered injection date ts payments).map Payment.amountFen).sum ≤
      (payments.map Payment.amountFen).sum + 19900 * injection.extra := by
  have lowered : (((keptPairs injection payments).map Prod.snd).map Payment.amountFen).sum ≤
      (((keptPairs injection payments).map Prod.fst).map Payment.amountFen).sum := by
    rw [List.map_map, List.map_map]
    refine List.sum_le_sum fun pair member => ?_
    have own : pair.1 ∈ payments := by
      have first := List.mem_map_of_mem (f := Prod.fst) member
      rw [keptPairs_fst] at first
      exact List.mem_of_mem_take first
    have positive := (readable pair.1 own).1
    rcases keptPairs_aligned pair member with same | changed
    · simp [same]
    · simp only [Function.comp_apply, changed, tampered]
      omega
  have removed : 0 ≤ ((payments.drop (payments.length - injection.missing)).map
      Payment.amountFen).sum :=
    amounts_nonneg fun payment member => readable payment (List.mem_of_mem_drop member)
  have split := congrArg (fun rows : List Payment => (rows.map Payment.amountFen).sum)
    (List.take_append_drop (payments.length - injection.missing) payments)
  have added : ((forgeries injection date ts).map Payment.amountFen).sum = 19900 * injection.extra := by
    simp [forgeries, forged, Function.comp_def, mul_comm]
  rw [keptPairs_fst] at lowered
  simp only [List.map_append, List.sum_append] at split
  rw [altered, List.map_append, List.sum_append, added]
  omega

/-- A total that stays below the column's bound is stored as it is. -/
theorem total_fits (readable : ∀ payment ∈ payments, Readable payment)
    (bound : (payments.map Payment.amountFen).sum < 10 ^ 18) :
    fitsDecimal (wrap64 (sideSum (payments.map sideRow))) = true := by
  have nonneg := amounts_nonneg readable
  rw [sideSum_sideRow, wrap64_of_fits _ (by omega) (by omega), fitsDecimal_iff]
  omega

/-- An edited bill has at most the forged lines more. -/
theorem altered_length : (altered injection date ts payments).length ≤ payments.length + injection.extra := by
  simp [altered, keptPairs, forgeries]
  omega

/-- There are at most as many differences as payments and forged lines. -/
theorem injectedDiffs_length :
    (injectedDiffs injection date ts payments).length ≤ payments.length + injection.extra := by
  have filtered := List.length_filter_le (fun payment : Payment => payment.amountFen != 1)
    ((payments.take (payments.length - injection.missing)).take injection.tamper)
  simp only [List.length_take] at filtered
  simp only [injectedDiffs, forgeries, List.length_append, List.length_map, List.length_drop,
    List.length_range]
  omega

/-- Numbers and amounts that the columns of a difference hold. -/
def Narrow (payment : Payment) : Prop :=
  payment.channelTradeNo.length ≤ 64 ∧ payment.orderNo.length ≤ 32 ∧ Readable payment

/-- The promised differences fit their columns: they carry numbers of stored payments, which
fit, or forged ones, whose length the clock and the count bound. -/
theorem injectedDiffs_fit (narrow : ∀ payment ∈ payments, Narrow payment) (clock : ts < 10 ^ 19)
    (count : injection.extra < 2 ^ 32) :
    ∀ diff ∈ injectedDiffs injection date ts payments, (buildDiff "" diff).fits = true := by
  have fits : ∀ (payment : Payment) (diff : ClassifiedDiff), Narrow payment →
      diff.channelTradeNo = payment.channelTradeNo → diff.orderNo = payment.orderNo →
      (-(10 ^ 18) < diff.localFen ∧ diff.localFen < 10 ^ 18) →
      (-(10 ^ 18) < diff.channelFen ∧ diff.channelFen < 10 ^ 18) →
      (-(10 ^ 18) < diff.diffFen ∧ diff.diffFen < 10 ^ 18) → (buildDiff "" diff).fits = true := by
    rintro payment diff ⟨tradeNo, orderNo, -⟩ sameTradeNo sameOrderNo localFen channelFen diffFen
    rw [ReconcileDiff.fits]
    simp only [Bool.and_eq_true, decide_eq_true_eq, fitsDecimal_iff]
    refine ⟨⟨⟨⟨⟨by simp [buildDiff], ?_⟩, ?_⟩, localFen⟩, channelFen⟩, diffFen⟩
    · change diff.orderNo.length ≤ 32
      rw [sameOrderNo]
      exact orderNo
    · change diff.channelTradeNo.length ≤ 64
      rw [sameTradeNo]
      exact tradeNo
  intro diff member
  simp only [injectedDiffs, List.mem_append, List.mem_map, List.mem_filter] at member
  rcases member with (⟨payment, absent, rfl⟩ | ⟨payment, new, rfl⟩) | ⟨payment, ⟨changed, -⟩, rfl⟩
  · have own := narrow payment (List.mem_of_mem_drop absent)
    obtain ⟨positive, small⟩ := own.2.2
    refine fits payment _ own rfl rfl ?_ ?_ ?_ <;> simp [ClassifiedDiff.ofLocal, sideRow] <;> omega
  · obtain ⟨index, below, rfl⟩ := List.mem_map.mp new
    obtain ⟨tradeNo, orderNo⟩ := @forged_fits date ts (index + 1) clock (by
      have := List.mem_range.mp below
      omega)
    refine fits (forged date ts (index + 1)) _ ⟨tradeNo, orderNo, ?_⟩ rfl rfl ?_ ?_ ?_
    · exact ⟨show (0 : Int) < 19900 by decide, show (19900 : Int) ≤ 100000000999 by decide⟩
    all_goals simp [ClassifiedDiff.ofChannel, sideRow, forged]
  · have own := narrow payment (List.mem_of_mem_take (List.mem_of_mem_take changed))
    obtain ⟨positive, small⟩ := own.2.2
    refine fits payment _ own rfl rfl ?_ ?_ ?_ <;>
      simp [ClassifiedDiff.ofBoth, sideRow, tampered] <;> omega

end Comparison

/-- The payments of a day, without their row numbers. -/
def dayPayments (collate : String → String) (db : Db) (day : Int) : List Payment :=
  (db.paymentsOfDay collate kChannel day).map (·.val)

section Day

variable {collate : String → String} {db : Db} {day : Int} {injection : Injection} {ts : Nat}
  {billDate : String}

/-- The payments of a day have different trade numbers, by the table's unique key. -/
theorem dayPayments_distinct (keys : Schema collate db) :
    ((dayPayments collate db day).map Payment.channelTradeNo).Nodup := by
  rw [dayPayments, List.map_map]
  refine (paymentsOfDay_nodup keys kChannel day).map_on fun one first two second same => ?_
  obtain ⟨stored, channel, -⟩ := paymentsOfDay_mem.mp first
  obtain ⟨also, other, -⟩ := paymentsOfDay_mem.mp second
  have number : one.val.channelTradeNo = two.val.channelTradeNo := same
  exact keys.channelTrade.eq_of_key stored also
    (by simp only [Prod.mk.injEq]; exact ⟨channel.trans other.symm, congrArg collate number⟩)

/-- The payments of an editable day are legible and printed as they are. -/
theorem Editable.legible (editable : Editable collate db day injection ts)
    (readable : ∀ row ∈ db.payments, Readable row.val) :
    ∀ payment ∈ dayPayments collate db day, Legible payment ∧
      (exportLine payment).toList.flatMap batchChar = (exportLine payment).toList := by
  intro payment member
  obtain ⟨row, present, rfl⟩ := List.mem_map.mp member
  obtain ⟨plain, unescaped⟩ := editable.plain row present
  obtain ⟨stored, -, -, selected⟩ := paymentsOfDay_mem.mp present
  rw [BeijingTime.inWindow] at selected
  split at selected
  · cases selected
  · rename_i seconds timed
    refine ⟨⟨plain, readable row stored, (parseDateTime_chars timed).1, ?_, ?_⟩,
      printed (readable row stored) unescaped timed⟩
    · exact time_plain timed (.inl rfl)
    · exact time_plain timed (.inr rfl)

/-- The edited file is read as the edited payments. -/
theorem parseBill_genBillWith (dated : BeijingTime.parseDateTime (billDate ++ " 00:00:00") = some day)
    (editable : Editable collate db day injection ts)
    (readable : ∀ row ∈ db.payments, Readable row.val) :
    parseBill (genBillWith collate db day billDate ts injection) =
      some ((altered injection billDate ts (dayPayments collate db day)).map sideRow) := by
  have legible := editable.legible readable
  have exported : ((db.paymentsOfDay collate kChannel day).map fun row =>
      (exportLine row.val).toList.flatMap batchChar) =
      (dayPayments collate db day).map fun payment => (exportLine payment).toList := by
    rw [dayPayments, List.map_map]
    exact List.map_congr_left fun row member => (legible row.val (List.mem_map_of_mem member)).2
  rw [genBillWith, exported, edit_exported fun payment member => (legible payment member).1]
  refine parseBill_legible fun payment member => ?_
  rcases altered_cases member with ⟨own, present, rfl | rfl⟩ | ⟨number, rfl, -⟩
  · exact (legible payment present).1
  · exact (legible own present).1.tampered
  · exact forged_legible dated

/-- The local side of a run is the day's payments. -/
theorem localsOf_dayPayments (collate : String → String) (db : Db) (day : Int) :
    localsOf collate db day = (dayPayments collate db day).map sideRow := by
  rw [localsOf, dayPayments, List.map_map]
  rfl

/-- The differences that the options promise fit the columns as they are. -/
theorem Editable.diffs_fit (editable : Editable collate db day injection ts) (fits : db.Fits)
    (readable : ∀ row ∈ db.payments, Readable row.val) :
    ∀ diff ∈ injectedDiffs injection billDate ts (dayPayments collate db day),
      (buildDiff "" diff).fits = true := by
  have count := editable.count
  refine injectedDiffs_fit (fun payment member => ?_) editable.clock (by omega)
  obtain ⟨row, present, rfl⟩ := List.mem_map.mp member
  have stored := (paymentsOfDay_mem.mp present).1
  have fit := fits.payments row stored
  simp only [Change.fits, Payment.fits, Bool.and_eq_true, decide_eq_true_eq] at fit
  obtain ⟨⟨⟨⟨⟨⟨-, orderNo⟩, -⟩, tradeNo⟩, -⟩, -⟩, -⟩ := fit
  exact ⟨tradeNo, orderNo, readable row stored⟩

/-- Both sides and their differences fit the columns. Tampering and forging raise the total by
a bounded amount, and there are no more differences than payments and forged lines. -/
theorem Editable.storable (editable : Editable collate db day injection ts) (keys : Schema collate db)
    (fits : db.Fits) (readable : ∀ row ∈ db.payments, Readable row.val) :
    Storable (localsOf collate db day)
      ((altered injection billDate ts (dayPayments collate db day)).map sideRow) := by
  have stored : ∀ payment ∈ dayPayments collate db day, ∃ row ∈ db.payments, row.val = payment := by
    intro payment member
    obtain ⟨row, present, rfl⟩ := List.mem_map.mp member
    exact ⟨row, (paymentsOfDay_mem.mp present).1, rfl⟩
  have day_readable : ∀ payment ∈ dayPayments collate db day, Readable payment := by
    intro payment member
    obtain ⟨row, present, rfl⟩ := stored payment member
    exact readable row present
  have count : (dayPayments collate db day).length + injection.extra < 2 ^ 32 := by
    rw [dayPayments, List.length_map]
    exact editable.count
  have total := editable.total
  have unforged : ∀ payment ∈ dayPayments collate db day, ∀ number, payment.channelTradeNo ≠
      "MOCKEXTRA" ++ ts.repr ++ fourDigits number := by
    intro payment member
    obtain ⟨row, present, rfl⟩ := List.mem_map.mp member
    exact editable.unforged row present
  have found := @classified_injected injection billDate ts _ day_readable (dayPayments_distinct keys)
    unforged
  rw [localsOf_dayPayments] at total ⊢
  rw [sideSum_sideRow] at total
  have raised := @altered_sum injection billDate ts _ day_readable
  have longer := @altered_length injection billDate ts (dayPayments collate db day)
  have most := @injectedDiffs_length injection billDate ts (dayPayments collate db day)
  constructor
  · rw [List.length_map]
    omega
  · exact total_fits day_readable (by omega)
  · rw [List.length_map]
    omega
  · exact total_fits (altered_readable day_readable) (by omega)
  · rw [found.length_eq]
    omega
  · intro diff member
    have fit := editable.diffs_fit fits readable diff (found.mem_iff.mp member)
    rwa [storedDiff_eq fit]

end Day

/-- In every store that concurrent calls reach from one without payments, the run on an edited
bill of the day completes, and it stores the differences that the options promise, each once
and no others. The options are arbitrary numbers; the day has not been reconciled, its numbers
are printed and read back as they are, and nobody has paid under a forged one. -/
theorem reached_injected {P : Platform} {serves : Call → Prop} {first : Shared Db} {system : Trade}
    {envs : Nat → Env} {billDate : String} {day : Int} {injection : Injection} {ts : Nat}
    (formed : WellFormed P.collate first) (empty : first.committed.payments = [])
    (fits : first.committed.Fits) (reached : Reached P (Admits serves) first system)
    (dated : BeijingTime.parseDateTime (billDate ++ " 00:00:00") = some day)
    (unreconciled : reconciledOn P.collate system.shared.committed billDate = false)
    (issues : ∀ index, Issues P system.shared.committed (envs index))
    (editable : Editable P.collate system.shared.committed day injection ts) :
    ∃ steps reply last batch rows,
      aloneRun P ((List.range steps).map fun index => .ok (envs index))
        (.reconcile billDate (some (genBillWith P.collate system.shared.committed day billDate ts
          injection))) system.shared = some (.reply reply, last) ∧ reply.code = 0 ∧
      last.committed.batches = system.shared.committed.batches ++ [batch] ∧
      last.committed.diffs = system.shared.committed.diffs ++ rows ∧
      (rows.map Row.val).Perm ((injectedDiffs injection billDate ts
        (dayPayments P.collate system.shared.committed day)).map (buildDiff batch.val.batchNo)) := by
  have readable : ∀ row ∈ system.shared.committed.payments, Readable row.val :=
    commits_invariant (fun _ _ commit => commit_readable commit) formed.schema (by simp [empty])
      (reached_commits formed reached)
  have keys := (reached_locking formed reached).inv.1.schema
  have parsed := parseBill_genBillWith dated editable readable
  have storable := @Editable.storable _ _ _ _ _ billDate editable keys (reached_fits fits reached) readable
  have success : verdict P.collate system.shared.committed billDate
      (some (genBillWith P.collate system.shared.committed day billDate ts injection)) =
        some .kSuccess := by
    have read : (some (genBillWith P.collate system.shared.committed day billDate ts injection)).bind
        parseBill = _ := parsed
    rw [verdict, read]
    simp only [dated, unreconciled, Bool.false_eq_true, if_false]
    exact if_pos storable
  obtain ⟨steps, reply, last, ran, leaves⟩ := run_leaves (reached_locking formed reached).inv.1 issues
  obtain ⟨text, reconciliation, same, reconciled⟩ := leaves.stored success
  obtain rfl := Option.some.inj same
  have channels := Option.some.inj (reconciled.parsed.symm.trans parsed)
  have locals : reconciliation.locals = (dayPayments P.collate system.shared.committed day).map sideRow :=
    (LocalSide.unique reconciled.locals ⟨day, dated, rfl⟩).trans
      (localsOf_dayPayments P.collate system.shared.committed day)
  refine ⟨steps, reply, last, reconciliation.batch, reconciliation.diffs, ran, ?_, reconciled.batches,
    reconciled.diffRows, ?_⟩
  · exact leaves.code _ success
  · -- What is promised fits its columns, so nothing of it is cut.
    have whole : (injectedDiffs injection billDate ts
        (dayPayments P.collate system.shared.committed day)).map
          (storedDiff reconciliation.batch.val.batchNo) = _ :=
      List.map_congr_left fun diff member =>
        storedDiff_eq (editable.diffs_fit (reached_fits fits reached) readable diff member)
    rw [reconciled.diffs, channels, locals, ← whole]
    refine List.Perm.map _ (classified_injected ?_ (dayPayments_distinct keys) ?_)
    · intro payment member
      obtain ⟨row, present, rfl⟩ := List.mem_map.mp member
      exact readable row (paymentsOfDay_mem.mp present).1
    · intro payment member
      obtain ⟨row, present, rfl⟩ := List.mem_map.mp member
      exact editable.unforged row present

end ReconcileService

/-- The rows of the shop fit their columns. -/
theorem Shop.store_fits : store.committed.Fits := by
  constructor <;> decide

/-- The bill of the mugs, tampered with, and one forged line. -/
def Shop.editedBill : String :=
  "T1,7001,0.01,2026-09-13 12:58:16\n" ++
    "MOCKEXTRA17892800000001,ORDER_UNKNOWN_0001,199.00,2026-09-13 12:00:00\n"

/-- The differences of the two lines. -/
def Shop.editedDiffs : List ClassifiedDiff :=
  [⟨.kChannelOnly, "MOCKEXTRA17892800000001", "ORDER_UNKNOWN_0001", 0, 19900, -19900⟩,
    ⟨.kAmountMismatch, "T1", "7001", 3990, 1, 3989⟩]

/-- The amount of the one line is tampered with and a line is forged: the run stores the two
differences that the options promise. -/
theorem mugs_injected : ∃ system, Reached Shop.billing (Admits fun _ => True) Shop.store system ∧
    ∃ reply last batch rows, Shop.RunLeaves system Shop.editedBill reply last ∧ reply.code = 0 ∧
      last.committed.batches = system.shared.committed.batches ++ [batch] ∧
      last.committed.diffs = system.shared.committed.diffs ++ rows ∧
      (rows.map Row.val).Perm
        (Shop.editedDiffs.map (ReconcileService.buildDiff batch.val.batchNo)) := by
  obtain ⟨system, reached, payments, batches⟩ := @Shop.mugsBilled_reached "T1" (by decide +kernel)
  have formed : WellFormed Shop.billing.collate Shop.store := Shop.store_formed
  have issues : ∀ index, ReconcileService.Issues Shop.billing system.shared.committed
      (Shop.answers9001 index) := fun _ => ⟨"9001", rfl, by decide, by simp [batches]⟩
  have selected := Shop.mugsPayment_selected payments
  have editable : ReconcileService.Editable Shop.billing.collate system.shared.committed Shop.billedDay
      ⟨0, 1, 1⟩ 1789280000 := by
    constructor
    · rw [selected]
      intro row member
      obtain rfl := List.mem_singleton.mp member
      have same : ("T1".toList ++ "7001".toList).all (fun c => batchChar c == [c]) = true := by decide
      refine ⟨⟨by decide, by decide, by decide⟩, fun c inside => ?_⟩
      exact beq_iff_eq.mp (List.all_eq_true.mp same c inside)
    · rw [selected]
      intro row member number same
      obtain rfl := List.mem_singleton.mp member
      have length := congrArg String.length same
      have short : (Shop.mugsPayment "T1").val.channelTradeNo.length = 2 := by decide
      have mock : "MOCKEXTRA".length = 9 := by decide
      simp only [String.length_append, short, mock] at length
      omega
    · decide
    · rw [selected]
      decide
    · rw [ReconcileService.localsOf, selected]
      decide
  have dated : BeijingTime.parseDateTime ("2026-09-13" ++ " 00:00:00") = some Shop.billedDay := by decide
  obtain ⟨steps, reply, last, batch, rows, ran, code, stored, diffs, found⟩ :=
    ReconcileService.reached_injected formed rfl Shop.store_fits reached dated
      (by simp [ReconcileService.reconciledOn, batches]) issues editable
  have file : genBillWith Shop.billing.collate system.shared.committed Shop.billedDay "2026-09-13"
      1789280000 ⟨0, 1, 1⟩ = Shop.editedBill := by
    rw [genBillWith, selected]
    decide +kernel
  have promised : ReconcileService.injectedDiffs ⟨0, 1, 1⟩ "2026-09-13" 1789280000
      (ReconcileService.dayPayments Shop.billing.collate system.shared.committed Shop.billedDay) =
      Shop.editedDiffs := by
    rw [ReconcileService.dayPayments, selected]
    decide +kernel
  rw [file] at ran
  rw [promised] at found
  exact ⟨system, reached, reply, last, batch, rows, ⟨steps, ran⟩, code, stored, diffs, found⟩

end TradeReconcile
