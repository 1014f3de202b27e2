import TradeReconcile.Services.Reconcile

/-!
# The bills that the script generates

`scripts/gen_bill.sh` stands in for the channel. It exports a day's successful payments,
selected as the reconciliation selects them, one line for each. Nothing is quoted. The
options of the script then edit the lines of the file.
-/

namespace TradeReconcile

/-- `CONCAT_WS(',', channel_trade_no, order_no, CAST(amount AS CHAR), DATE_FORMAT(...))`.
A DECIMAL column prints two decimals, a DATETIME column the text it was given. -/
def exportLine (payment : Payment) : String :=
  payment.channelTradeNo ++ "," ++ payment.orderNo ++ "," ++
    MoneyUtil.fenToYuanString payment.amountFen ++ "," ++ payment.callbackTime

/-- The file of a day, with every value printed as it is stored. The client's own escapes are
left to `genBillWith`; without a character that it escapes both are one file
(`genBillWith_plain`). -/
def genBill (collate : String → String) (db : Db) (day : Int) : String :=
  String.join ((db.paymentsOfDay collate ReconcileService.kChannel day).map fun row =>
    exportLine row.val ++ "\n")

/-- `--missing`, `--extra` and `--tamper`, each with its number of lines. The script does not
bound them; more lines than the bill has means all of them. -/
structure Injection where
  missing : Nat := 0
  extra : Nat := 0
  tamper : Nat := 0
deriving DecidableEq, Repr

/-- How `mysql -B` prints a character of a value: what would break a row, a line feed, a tab,
a NUL or a backslash, is written with a backslash. All else is printed as it is. -/
def batchChar (c : Char) : List Char :=
  if c = '\n' then ['\\', 'n']
  else if c = '\t' then ['\\', 't']
  else if c = '\\' then ['\\', '\\']
  else if c = Char.ofNat 0 then ['\\', '0']
  else [c]

/-- `awk -F',' '{$3="0.01"; print $1","$2","$3","$4}'`. Fields that are missing are empty,
fields after the fourth are not printed. -/
def tamperLine (line : List Char) : List Char :=
  let fields := line.splitOn ','
  fields.getD 0 [] ++ ',' :: (fields.getD 1 [] ++ ',' :: ("0.01".toList ++ ',' :: fields.getD 3 []))

/-- `printf '%04d'`. -/
def fourDigits (value : Nat) : String :=
  String.ofList (List.replicate (4 - value.repr.length) '0') ++ value.repr

/-- The `printf` of a forged line. -/
def extraLine (date : String) (ts number : Nat) : String :=
  "MOCKEXTRA" ++ ts.repr ++ fourDigits number ++ "," ++ ("ORDER_UNKNOWN_" ++ fourDigits number) ++
    "," ++ "199.00" ++ "," ++ (date ++ " 12:00:00")

/-- The three edits in their order: the first lines are tampered with, the last ones are
removed, forged ones are appended. -/
def Injection.edit (injection : Injection) (date : String) (ts : Nat) (lines : List (List Char)) :
    List (List Char) :=
  let tampered := (lines.take injection.tamper).map tamperLine ++ lines.drop injection.tamper
  tampered.take (tampered.length - injection.missing) ++
    (List.range injection.extra).map fun index => (extraLine date ts (index + 1)).toList

/-- The file that the script leaves with its options. -/
def genBillWith (collate : String → String) (db : Db) (day : Int) (date : String) (ts : Nat)
    (injection : Injection) : String :=
  let exported := (db.paymentsOfDay collate ReconcileService.kChannel day).map fun row =>
    (exportLine row.val).toList.flatMap batchChar
  String.join ((injection.edit date ts exported).map fun line => String.ofList line ++ "\n")

/-- Without options, and where nothing has to be escaped, the script leaves the plain export. -/
theorem genBillWith_plain {collate : String → String} {db : Db} {day : Int}
    (plain : ∀ row ∈ db.paymentsOfDay collate ReconcileService.kChannel day,
      ∀ c ∈ (exportLine row.val).toList, batchChar c = [c]) (date : String) (ts : Nat) :
    genBillWith collate db day date ts {} = genBill collate db day := by
  have unchanged : ∀ lines, Injection.edit {} date ts lines = lines := by
    simp [Injection.edit]
  have same : ∀ row ∈ db.paymentsOfDay collate ReconcileService.kChannel day,
      (exportLine row.val).toList.flatMap batchChar = (exportLine row.val).toList := by
    intro row member
    rw [List.flatMap_congr (plain row member)]
    simp
  simp only [genBillWith, genBill, unchanged, List.map_map]
  apply congrArg String.join
  refine List.map_congr_left fun row member => ?_
  rw [Function.comp_apply, same row member, String.ofList_toList]

end TradeReconcile
