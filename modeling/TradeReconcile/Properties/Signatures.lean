import TradeReconcile.Conduct.Alone
import TradeReconcile.Properties.Answers
import TradeReconcile.Properties.Replays

/-!
# What a signature binds

The signed text joins four fields with a separator that it does not escape. The
trade number may hold the separator, the other three fields of a callback that
gets as far as the payment insert cannot: the order number is a stored one, the
amount was read as an amount, and the timestamp was written as a number. So the
text falls apart in one way only, from both ends.
-/

namespace TradeReconcile

open Transactions

namespace SignUtil

/-- The signed text, cut at every separator, when only the trade number may hold one. -/
theorem splitOn_canonical {orderNo channelTradeNo amount timestamp : String}
    (orderPlain : '|' ∉ orderNo.toList) (amountPlain : '|' ∉ amount.toList)
    (timestampPlain : '|' ∉ timestamp.toList) :
    (canonical orderNo channelTradeNo amount timestamp).toList.splitOn '|' =
      orderNo.toList :: (channelTradeNo.toList.splitOn '|' ++ [amount.toList, timestamp.toList]) := by
  have text : (canonical orderNo channelTradeNo amount timestamp).toList =
      orderNo.toList ++ '|' :: (channelTradeNo.toList ++ '|' :: (amount.toList ++
        '|' :: timestamp.toList)) := by
    simp [canonical]
  rw [text, List.splitOn_append_cons_self_of_not_mem orderPlain, List.splitOn_append_cons_self,
    List.splitOn_append_cons_self_of_not_mem amountPlain, List.splitOn_eq_singleton timestampPlain]

/-- Such a text determines its fields. -/
theorem canonical_inj {orderNo channelTradeNo amount timestamp : String}
    {orderNo' channelTradeNo' amount' timestamp' : String}
    (plain : ∀ field ∈ [orderNo, amount, timestamp, orderNo', amount', timestamp'],
      '|' ∉ field.toList)
    (same : canonical orderNo channelTradeNo amount timestamp =
      canonical orderNo' channelTradeNo' amount' timestamp') :
    orderNo = orderNo' ∧ channelTradeNo = channelTradeNo' ∧ amount = amount' ∧
      timestamp = timestamp' := by
  have cut := congrArg (fun text : String => text.toList.splitOn '|') same
  simp only [List.mem_cons, List.not_mem_nil, or_false, forall_eq_or_imp, forall_eq] at plain
  obtain ⟨order, sum, time, order', sum', time'⟩ := plain
  simp only [splitOn_canonical order sum time, splitOn_canonical order' sum' time'] at cut
  obtain ⟨first, rest⟩ := List.cons.inj cut
  obtain ⟨middle, last⟩ := List.append_inj' rest rfl
  obtain ⟨third, fourth⟩ := List.cons.inj last
  have whole := congrArg ['|'].intercalate middle
  rw [List.intercalate_splitOn, List.intercalate_splitOn] at whole
  exact ⟨String.toList_inj.mp first, String.toList_inj.mp whole, String.toList_inj.mp third,
    String.toList_inj.mp (List.cons.inj fourth).1⟩

end SignUtil

/-- A separator that is no digit does not occur in a number. -/
theorem toString_plain {separator : Char} (digit : separator.isDigit = false) (minus : separator ≠ '-')
    (number : Int) : separator ∉ (toString number).toList := by
  rw [Decimal.toString_toList, List.mem_append]
  rintro (sign | member)
  · split at sign
    · exact minus (List.mem_singleton.mp sign)
    · cases sign
  · have isDigit := Decimal.toDigits_isDigit _ separator member
    rw [digit] at isDigit
    cases isDigit

/-- The controller writes the timestamp as a number. -/
theorem timestamp_number {W : WebPlatform} {request : Controllers.HttpRequest}
    {bill : Option String} {req : PaymentCallbackReq} {rawBody : String}
    (built : Controllers.build W request bill .handleCallback = .ok (.handleCallback req rawBody)) :
    ∃ number : Int, req.timestamp = toString number := by
  obtain ⟨orderNo, -, built⟩ := Controllers.bind_passed built
  obtain ⟨channel, -, built⟩ := Controllers.bind_passed built
  obtain ⟨channelTradeNo, -, built⟩ := Controllers.bind_passed built
  obtain ⟨amount, -, built⟩ := Controllers.bind_passed built
  obtain ⟨timestamp, -, built⟩ := Controllers.bind_passed built
  obtain ⟨sign, -, built⟩ := Controllers.bind_passed built
  obtain ⟨same, -⟩ := Call.handleCallback.inj (Except.ok.inj built)
  exact ⟨timestamp, by rw [← same]⟩

/-- Stored order numbers are decimal numbers and are compared exactly. -/
structure Numbered (P : Platform) (store : Shared Db) : Prop where
  digits : ∀ row ∈ store.committed.orders, ∀ c ∈ row.val.orderNo.toList, c.isDigit = true
  exact : ∀ row ∈ store.committed.orders, ∀ orderNo,
    P.collate row.val.orderNo = P.collate orderNo → row.val.orderNo = orderNo

/-- A callback that the controller built passes the signature check, and then the
order lookup and the amount check on some store. -/
structure GetsThrough (P : Platform) (W : WebPlatform) (req : PaymentCallbackReq)
    (store : Shared Db) : Prop where
  built : ∃ request bill rawBody,
    Controllers.build W request bill .handleCallback = .ok (.handleCallback req rawBody)
  signed : SignUtil.verifyMockSign P req.orderNo req.channelTradeNo req.amount req.timestamp
    req.sign = true
  checked : ∃ value finished session last, Solo (engine P.collate)
    (PaymentService.checkOrder req false) .idle store (.done (.ok value, finished)) session last

namespace PaymentService

variable {P : Platform}

/-- The check returns only for a stored order with the amount. -/
theorem checkOrder_passed (req : PaymentCallbackReq) (store : Shared Db) :
    Guarded.Achieves P True (fun _ => True)
      (fun outcome _ => ∀ value, outcome = .ok value → ∃ row ∈ store.committed.orders,
        P.collate row.val.orderNo = P.collate req.orderNo ∧
        (MoneyUtil.yuanStringToFen req.amount).isSome)
      (checkOrder req >>= pure) .idle store := by
  rw [checkOrder, bind_assoc]
  refine Guarded.select_achieves ((store.committed.findOrder P.collate req.orderNo).map (·.val))
    rfl (fun _ _ => by simp) (fun env => rfl) ?_
  cases found : store.committed.findOrder P.collate req.orderNo with
  | none => exact Guarded.raise_achieves (by simp)
  | some row =>
    simp only [Option.map_some]
    cases amount : MoneyUtil.yuanStringToFen req.amount with
    | none => exact Guarded.raise_achieves (by simp)
    | some total =>
      have named : P.collate row.val.orderNo = P.collate req.orderNo := by
        simpa using List.find?_some found
      exact Guarded.always_achieves
        (fun _ _ _ _ => ⟨row, List.mem_of_find?_eq_some found, named, rfl⟩) _

end PaymentService

/-- None of the three other fields of such a callback holds the separator. -/
theorem GetsThrough.plain {P : Platform} {W : WebPlatform} {req : PaymentCallbackReq}
    {store : Shared Db} (through : GetsThrough P W req store) (numbered : Numbered P store) :
    '|' ∉ req.orderNo.toList ∧ '|' ∉ req.amount.toList ∧ '|' ∉ req.timestamp.toList := by
  obtain ⟨value, finished, session, last, solo⟩ := through.checked
  have checked := PaymentService.checkOrder_passed (P := P) req store
  rw [bind_pure] at checked
  obtain ⟨row, present, named, accepted⟩ := achieves_solo checked solo value rfl
  obtain ⟨fen, amount⟩ := Option.isSome_iff_exists.mp accepted
  refine ⟨?_, ?_, ?_⟩
  · intro member
    rw [← numbered.exact row present req.orderNo named] at member
    exact absurd (numbered.digits row present _ member) (by decide)
  · intro member
    obtain sign | digit := MoneyUtil.yuanStringToFen_chars amount _ member
    · exact absurd sign (by decide)
    · exact absurd digit (by decide)
  · obtain ⟨request, bill, rawBody, built⟩ := through.built
    obtain ⟨number, written⟩ := timestamp_number built
    rw [written]
    exact toString_plain (by decide) (by decide) number

/-- Two callbacks that get through with one signature agree in all four signed fields,
whatever the trade numbers hold. Only that the keyed digest has no collisions is assumed: a
trade number may hold separators, but the fields around it are without, so the signed text is
still split in one way. -/
theorem sign_binds {P : Platform} {W : WebPlatform}
    (injective : ∀ one two, P.hmacSha256Hex P.secret one = P.hmacSha256Hex P.secret two → one = two)
    {one two : PaymentCallbackReq} {storeOne storeTwo : Shared Db}
    (numberedOne : Numbered P storeOne) (numberedTwo : Numbered P storeTwo)
    (throughOne : GetsThrough P W one storeOne) (throughTwo : GetsThrough P W two storeTwo)
    (sameSign : one.sign = two.sign) :
    one.orderNo = two.orderNo ∧ one.channelTradeNo = two.channelTradeNo ∧
      one.amount = two.amount ∧ one.timestamp = two.timestamp := by
  have signedOne := throughOne.signed
  have signedTwo := throughTwo.signed
  simp only [SignUtil.verifyMockSign, beq_iff_eq] at signedOne signedTwo
  have text := injective _ _ (signedOne.trans (sameSign.trans signedTwo.symm))
  obtain ⟨orderOne, amountOne, timestampOne⟩ := throughOne.plain numberedOne
  obtain ⟨orderTwo, amountTwo, timestampTwo⟩ := throughTwo.plain numberedTwo
  refine SignUtil.canonical_inj ?_ text
  simp only [List.mem_cons, List.not_mem_nil, or_false, forall_eq_or_imp, forall_eq]
  exact ⟨orderOne, amountOne, timestampOne, orderTwo, amountTwo, timestampTwo⟩

namespace Shop

/-- A keyed hash that tells all texts apart, with the true value of the text signed below. -/
def sealing : Platform :=
  { platform with hmacSha256Hex := fun _ text =>
      if text = "7001|T|1|39.90|1789275496" then
        "70375875f2e504c682e5163cb35e755a4f853eb1d15e1415366f8a1c02d79b94"
      else "of " ++ text }

/-- The digest of this platform has no collisions. -/
theorem sealing_injective (one two : String)
    (same : sealing.hmacSha256Hex sealing.secret one = sealing.hmacSha256Hex sealing.secret two) :
    one = two := by
  have first : ∀ text : String,
      "of " ++ text ≠ "70375875f2e504c682e5163cb35e755a4f853eb1d15e1415366f8a1c02d79b94" := by
    intro text equal
    have chars := congrArg (fun whole => whole.toList.head?) equal
    simp at chars
  by_cases one₁ : one = "7001|T|1|39.90|1789275496"
  · by_cases two₁ : two = "7001|T|1|39.90|1789275496"
    · rw [one₁, two₁]
    · simp only [sealing, if_pos one₁, if_neg two₁] at same
      exact absurd same.symm (first two)
  · by_cases two₁ : two = "7001|T|1|39.90|1789275496"
    · simp only [sealing, if_neg one₁, if_pos two₁] at same
      exact absurd same (first one)
    · simp only [sealing, if_neg one₁, if_neg two₁] at same
      exact String.append_right_inj _ |>.mp same

/-- A report of order 7001 with a trade number that holds the separator. -/
def separated (requestId : String) : PaymentCallbackReq where
  requestId := requestId
  orderNo := "7001"
  channel := "MOCK"
  channelTradeNo := "T|1"
  amount := "39.90"
  timestamp := "1789275496"
  sign := "70375875f2e504c682e5163cb35e755a4f853eb1d15e1415366f8a1c02d79b94"

/-- The check returned the value. -/
def isPassed (expected : Order × Int) : Prog (Except Exn (Order × Int) × Bool) → Bool
  | .done (.ok value, finished) => decide (value = expected) && !finished
  | _ => false

/-- The report passes the checks and finds its order, although its trade number holds the
separator of the canonical text. -/
theorem separated_through (W : WebPlatform) (requestId : String) :
    GetsThrough sealing W (separated requestId) ordered where
  built := by
    let body : Json := .obj [("orderNo", .str "7001"), ("channel", .str "MOCK"),
      ("channelTradeNo", .str "T|1"), ("amount", .str "39.90"), ("timestamp", .int 1789275496),
      ("sign", .str "70375875f2e504c682e5163cb35e755a4f853eb1d15e1415366f8a1c02d79b94")]
    exact ⟨⟨requestId, some body, "", "", 0⟩, none, "", rfl⟩
  signed := by
    have text : SignUtil.canonical "7001" "T|1" "39.90" "1789275496" = "7001|T|1|39.90|1789275496" := by
      decide
    rw [SignUtil.verifyMockSign, beq_iff_eq]
    simp only [separated, sealing, text, if_true]
  checked := by
    have same : PaymentService.checkOrder (separated requestId) =
        PaymentService.checkOrder (separated "") := by
      simp only [PaymentService.checkOrder, separated]
    rw [same]
    have ran : ((soloRun (engine sealing.collate) [.ok ⟨none, 0⟩]
        (PaymentService.checkOrder (separated "") false) .idle ordered).map
        fun ended => isPassed (pendingOrder.val, 3990) ended.1) = some true := by decide +kernel
    obtain ⟨⟨program, session, last⟩, ran, answered⟩ := Option.map_eq_some_iff.mp ran
    cases program with
    | done outcome =>
      obtain ⟨_ | value, finished⟩ := outcome
      · cases answered
      · exact ⟨value, finished, session, last, .of_soloRun .entered ran⟩
    | ask | start | statement | commit | rollback | release => cases answered

end Shop

/-- The same report under two request ids. -/
theorem separated_binds :
    Numbered Shop.sealing Shop.ordered ∧
      (Shop.separated "cb-00001").requestId ≠ (Shop.separated "cb-00002").requestId ∧
      (Shop.separated "cb-00001").channelTradeNo = (Shop.separated "cb-00002").channelTradeNo := by
  have numbered : Numbered Shop.sealing Shop.ordered :=
    ⟨by simp [Shop.ordered, Shop.pendingOrder, Shop.store], fun _ _ _ same => same⟩
  have W : WebPlatform := ⟨id, fun _ => none⟩
  have binds := sign_binds Shop.sealing_injective numbered numbered
    (Shop.separated_through W "cb-00001") (Shop.separated_through W "cb-00002") rfl
  exact ⟨numbered, by decide, binds.2.1⟩

end TradeReconcile
