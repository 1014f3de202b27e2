import TradeReconcile.OrderedMap
import TradeReconcile.Services.Guard

/-!
# Reconciling a day's payments with the channel's bill

`ReconcileService::run` reads the bill file line by line, selects the day's
payments, classifies both sides by trade number and stores a batch with its
differences in one transaction. The bill's text is an input: reading the file
happens before the transaction and its absence is a failure of its own. Listing and
handling differences are single statements without a transaction.
-/

namespace TradeReconcile

open Transactions

/-- `services::ClassifiedDiff`. -/
structure ClassifiedDiff where
  type : ReconcileDiffType
  channelTradeNo : String
  orderNo : String
  localFen : Int := 0
  channelFen : Int := 0
  diffFen : Int := 0
deriving DecidableEq, Repr

/-- Rows by trade number; a later row with the same number overwrites. -/
def byTradeNo (rows : List ReconcileSideRow) : List (String × ReconcileSideRow) :=
  OrderedMap.ofList ReconcileSideRow.channelTradeNo rows

/-- First pass: local rows without a channel row. -/
def localOnly (channelByTradeNo : List (String × ReconcileSideRow)) :
    String × ReconcileSideRow → Option ClassifiedDiff
  | (tradeNo, localRow) =>
    match OrderedMap.find? tradeNo channelByTradeNo with
    | some _ => none
    | none => some {
        type := .kLocalOnly, channelTradeNo := tradeNo, orderNo := localRow.orderNo
        localFen := localRow.amountFen, diffFen := localRow.amountFen }

/-- Second pass: channel rows without a local row. -/
def channelOnly (localByTradeNo : List (String × ReconcileSideRow)) :
    String × ReconcileSideRow → Option ClassifiedDiff
  | (tradeNo, channelRow) =>
    match OrderedMap.find? tradeNo localByTradeNo with
    | some _ => none
    | none => some {
        type := .kChannelOnly, channelTradeNo := tradeNo, orderNo := channelRow.orderNo
        channelFen := channelRow.amountFen, diffFen := wrap64 (-channelRow.amountFen) }

/-- Third pass: rows on both sides with different amounts. -/
def amountMismatch (channelByTradeNo : List (String × ReconcileSideRow)) :
    String × ReconcileSideRow → Option ClassifiedDiff
  | (tradeNo, localRow) =>
    match OrderedMap.find? tradeNo channelByTradeNo with
    | none => none
    | some channelRow =>
      if channelRow.amountFen = localRow.amountFen then none
      else some {
        type := .kAmountMismatch, channelTradeNo := tradeNo, orderNo := localRow.orderNo
        localFen := localRow.amountFen, channelFen := channelRow.amountFen
        diffFen := wrap64 (localRow.amountFen - channelRow.amountFen) }

/-- Compare both sides by trade number, in three passes over the two maps. Each pass goes
through its map in the order of the keys. -/
def classifyReconcileDiffs (locals channels : List ReconcileSideRow) : List ClassifiedDiff :=
  let localByTradeNo := byTradeNo locals
  let channelByTradeNo := byTradeNo channels
  localByTradeNo.filterMap (localOnly channelByTradeNo) ++
    channelByTradeNo.filterMap (channelOnly localByTradeNo) ++
    localByTradeNo.filterMap (amountMismatch channelByTradeNo)

/-- What repeated `std::getline` calls yield: the pieces between delimiters, with
no last piece when the text ends at a delimiter. `piece` holds the characters
read so far, in reverse. -/
def getlines (delimiter : Char) : List Char → List Char → List (List Char)
  | [], [] => []
  | piece, [] => [piece.reverse]
  | piece, c :: rest =>
    if c = delimiter then piece.reverse :: getlines delimiter [] rest
    else getlines delimiter (c :: piece) rest

namespace ReconcileService

def kChannel : String := "MOCK"

/-- `channelTradeNo,orderNo,amount,callbackTime`; further columns are ignored. Only the number
of columns is checked, and the amount. -/
def parseBillLine (line : String) : Option ReconcileSideRow :=
  match getlines ',' [] line.toList with
  | tradeNo :: orderNo :: amount :: _ :: _ =>
    (MoneyUtil.yuanStringToFen (String.ofList amount)).map fun fen =>
      ⟨String.ofList tradeNo, String.ofList orderNo, fen⟩
  | _ => none

/-- Empty lines and comment lines are skipped. A line of spaces is neither. -/
def isBillRow (line : List Char) : Bool :=
  match line with
  | [] => false
  | '#' :: _ => false
  | _ => true

/-- All rows of the bill, or nothing when some line does not parse. -/
def parseBill (bill : String) : Option (List ReconcileSideRow) :=
  ((getlines '\n' [] bill.toList).filter isBillRow).mapM fun line =>
    parseBillLine (String.ofList line)

/-- A running 64-bit total. -/
def totalFen (rows : List ReconcileSideRow) : Int :=
  rows.foldl (fun total row => wrap64 (total + row.amountFen)) 0

/-- The batch of a run, with the counts and totals of both sides and what the comparison has
found. -/
def buildBatch (billDate batchNo : String) (locals channels : List ReconcileSideRow)
    (classified : List ClassifiedDiff) : ReconcileBatch where
  batchNo := batchNo
  billDate := billDate
  channel := kChannel
  totalCount := locals.length
  totalAmountFen := totalFen locals
  channelCount := channels.length
  channelAmountFen := totalFen channels
  diffCount := classified.length
  status := if classified.isEmpty then .kBalanced else .kHasDiff

/-- The row of a difference. -/
def buildDiff (batchNo : String) (diff : ClassifiedDiff) : ReconcileDiff where
  batchNo := batchNo
  orderNo := diff.orderNo
  channelTradeNo := diff.channelTradeNo
  localAmountFen := diff.localFen
  channelAmountFen := diff.channelFen
  diffType := diff.type
  diffAmountFen := diff.diffFen
  handleStatus := .kPending
  handleRemark := ""
  handledAt := ""

/-- The loop of step 5, one INSERT for each difference in the order of the comparison. -/
def insertDiffs (batchNo : String) : List ClassifiedDiff → Guarded Unit
  | [] => pure ()
  | diff :: rest => do
    let _ ← Guarded.execSqlSync (.diffInsert (buildDiff batchNo diff))
    insertDiffs batchNo rest

/-- The reply to a completed batch. -/
def batchReply (batch : ReconcileBatch) : Result Json :=
  Result.ok (.obj [("batchNo", .str batch.batchNo), ("diffCount", .int batch.diffCount),
    ("status", .int batch.status.toInt)]) batch.billDate

/-- The code under the guard. The first check is made on the client, outside of the
transaction; the SELECT of the local rows fixes the snapshot. -/
def runBody (billDate : String) (channels : List ReconcileSideRow) : Guarded (Result Json) := do
  let repeated : Bool ← Guarded.execSqlSync (.hasBatchForDate billDate kChannel)
  if repeated then
    Guarded.bizException .kReconcileBatchStatusInvalid "该日期已对账，勿重复跑批"
  else
    let locals : List ReconcileSideRow ← Guarded.execSqlSync (.localRows kChannel billDate)
    let classified := classifyReconcileDiffs locals channels
    let batchNo ← Guarded.nextId
    let batch := buildBatch billDate batchNo locals channels classified
    let _ ← Guarded.execSqlSync (.batchInsert batch)
    insertDiffs batchNo classified
    Guarded.commit
    return batchReply batch

/-- `run(billDate)`, with the text of the bill file or nothing when it cannot be
opened. -/
def run (billDate : String) (bill : Option String) : Prog (Result Json) :=
  match bill with
  | none =>
    .done (Result.fail .kReconcileBillParseFailed
      "账单文件不存在（先用 scripts/gen_bill.sh 生成）" billDate)
  | some text =>
    match parseBill text with
    | none => .done (Result.fail .kReconcileBillParseFailed "账单行解析失败" billDate)
    | some channels =>
      (Guarded.transaction (runBody billDate channels)).bind fun outcome =>
        .done (catchAll billDate outcome)

/-- The reply to a query for differences. -/
def diffsReply (batchNo : String) (diffs : List ReconcileDiff) : Result Json :=
  Result.ok (.obj [("diffs", .arr (diffs.map ReconcileDiff.toJson)),
    ("count", .int diffs.length)]) batchNo

/-- `listDiffs(batchNo, limit)`. Only the driver's exceptions are caught. It lists rows of any
status, up to the limit. -/
def listDiffs (batchNo : String) (limit : Nat) : Prog (Except Fault (Result Json)) :=
  .statement (.diffList batchNo limit) fun
    | .ok rows => .done (.ok (diffsReply batchNo (rows.map (·.val))))
    | .error .db =>
      .done (.ok (Result.fail .kDbError ErrCode.kDbError.toMessage batchNo))
    | .error fault => .done (.error fault)

/-- The status that an action asks for. -/
def handleStatusOf (action : String) : Option HandleStatus :=
  if action = "verify" then some .kVerified
  else if action = "ignore" then some .kIgnored
  else none

/-- The reply to the one call that handled the difference. -/
def handledReply (diffId : Int) (handleStatus : HandleStatus) : Result Json :=
  Result.ok (.obj [("diffId", .int diffId), ("handleStatus", .int handleStatus.toInt)]) ""

/-- The conditional update of `handleDiff`. It runs on the client itself, where the
server commits a statement at its end: both happen or, with an exception, neither. -/
def updateDiff (diffId : Int) (handleStatus : HandleStatus) (remark : String) :
    Prog (Except Fault (Result Json)) :=
  .statement (.diffHandle diffId handleStatus remark) fun
    | .error fault => .done (.error fault)
    | .ok affectedRows => .commit fun
      | .error fault => .done (.error fault)
      | .ok () =>
        if affectedRows = 0 then
          .done (.ok (Result.fail .kReconcileDiffAlreadyHandled "差异已处理过" ""))
        else
          .done (.ok (handledReply diffId handleStatus))

/-- `handleDiff(diffId, action, remark)`, which has no catch clause. The lookup only tells
whether the row exists; the guarded UPDATE decides who handles it. -/
def handleDiff (diffId : Int) (action remark : String) : Prog (Except Fault (Result Json)) :=
  match handleStatusOf action with
  | none => .done (.ok (Result.fail .kParamInvalid "action 必须是 verify 或 ignore" ""))
  | some handleStatus =>
    .statement (.diffGetById diffId) fun
      | .error fault => .done (.error fault)
      | .ok none => .done (.ok (Result.fail .kReconcileBatchNotFound "差异记录不存在" ""))
      | .ok (some _) => updateDiff diffId handleStatus remark

end ReconcileService

end TradeReconcile
