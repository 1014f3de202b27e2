import TradeReconcile.Services.Calls
import TradeReconcile.Transactions.Decisions

/-!
# Where a service decides to refuse

A creation refuses for lack of stock only where the conditional deduction has found no
product to take from, and a run refuses its date only where the query for the day's batch has
found one. Neither service has written anything by then that these statements read.
-/

namespace TradeReconcile

open Transactions

/-- The code of an answer that is made for its call and not a stored one. -/
def Answer.code : Answer → Option Int
  | .order (.kExecuted result) => some result.code
  | .order (.kCached _) => none
  | .reply result => some result.code
  | .thrown _ => none

/-- The request of a creation. -/
def Call.creation : Call → Option CreateOrderReq
  | .createOrder req => some req
  | _ => none

/-- The refusal of a call that says something about the store. -/
def Call.refusal : Call → Option ErrCode
  | .createOrder _ => some .kStockNotEnough
  | .reconcile _ _ => some .kReconcileBatchStatusInvalid
  | _ => none

/-- An answer that is not the call's refusal. -/
def Accepts (call : Call) (answer : Answer) : Prop :=
  ∀ code, call.refusal = some code → answer.code ≠ some code.toInt

/-- Images that the deciding statements do not read. -/
def Change.Plain : Change → Prop
  | .product _ | .batch _ => False
  | _ => True

/-- They leave the products and the batches as they are. -/
theorem overlay_plain (collate : String → String) {own : List Change}
    (plain : ∀ change ∈ own, change.Plain) (db : Db) :
    ((engine collate).overlay db own).products = db.products ∧
      ((engine collate).overlay db own).batches = db.batches := by
  induction own generalizing db with
  | nil => exact ⟨rfl, rfl⟩
  | cons change rest inductionHypothesis =>
    have first := plain change List.mem_cons_self
    obtain ⟨products, batches⟩ := inductionHypothesis
      (fun other member => plain other (List.mem_cons_of_mem change member)) (db.put change)
    have same : (db.put change).products = db.products ∧ (db.put change).batches = db.batches := by
      cases change with
      | product | batch => exact first.elim
      | account | flow | order | payment | idempotent | message | diff => exact ⟨rfl, rfl⟩
    exact ⟨products.trans same.1, batches.trans same.2⟩

namespace Guarded

variable {α β : Type} {P : Platform} {tells : (s : Stmt) → Resp s → Prop}

/-- Guarded code all of whose outcomes are good. -/
def Ends (good : Except Exn α → Prop) (body : Guarded α) : Prop :=
  ∀ finished, (body finished).Ends fun outcome => good outcome.1

/-- Guarded code whose outcomes are good, unless it had a telling reply. -/
def Decides (P : Platform) (tells : (s : Stmt) → Resp s → Prop) (good : Except Exn α → Prop)
    (body : Guarded α) : Prop :=
  ∀ finished, (body finished).Decides (engine P.collate) Change.Plain tells
    fun outcome => good outcome.1

/-- What ends well decides: nothing has to be told to it. -/
theorem Ends.decides {good : Except Exn α → Prop} {body : Guarded α} (ends : Ends good body) :
    Decides P tells good body :=
  fun finished => (ends finished).decides

/-- A body that ends with a good value. -/
theorem pure_ends {good : Except Exn α → Prop} {value : α} (ended : good (.ok value)) :
    Ends good (pure value : Guarded α) :=
  fun _ => ended

/-- A body that ends with a good refusal. -/
theorem bizException_ends {good : Except Exn α → Prop} {code : ErrCode} {message : String}
    (ended : good (.error (.biz code message))) : Ends good (bizException code message : Guarded α) :=
  fun _ => ended

/-- The time does not matter for how a body ends. -/
theorem clock_ends {good : Except Exn β → Prop} {rest : Int → Guarded β}
    (after : ∀ time, Ends good (rest time)) : Ends good (clock >>= rest) :=
  fun finished env => after env.clock finished

/-- Nor for what it decides. -/
theorem clock_decides {good : Except Exn β → Prop} {rest : Int → Guarded β}
    (after : ∀ time, Decides P tells good (rest time)) : Decides P tells good (clock >>= rest) :=
  fun finished env => after env.clock finished

section Rules

/-! Every service answers a fault with a code of its own. -/

variable {good : Except Exn β → Prop} (faulted : ∀ fault, good (.error (.fault fault)))
include faulted

/-- A statement before a body that ends well, whatever the reply; a fault ends well by
itself. -/
theorem exec_ends {s : Stmt} {rest : Resp s → Guarded β} (after : ∀ reply, Ends good (rest reply)) :
    Ends good (execSqlSync s >>= rest) := by
  rintro finished (fault | reply)
  · exact faulted fault
  · exact after reply finished

/-- A number before a body that ends well; there may be none. -/
theorem nextId_ends {rest : String → Guarded β} (after : ∀ id, Ends good (rest id)) :
    Ends good (nextId >>= rest) := by
  rintro finished ⟨_ | id, clock⟩
  · exact faulted .std
  · exact after id finished

/-- A commit before a body that ends well; a second one cannot be made, and a commit may
fail. -/
theorem commit_ends {rest : Unit → Guarded β} (after : Ends good (rest ())) :
    Ends good (commit >>= rest) := by
  intro finished
  cases finished with
  | true => exact faulted .std
  | false =>
    rintro (fault | ⟨⟩)
    · exact faulted fault
    · exact after true

/-- A statement that tells nothing and writes plain images. -/
theorem plain_decides {s : Stmt} {rest : Resp s → Guarded β}
    (plain : ∀ number env db reply changes, execute P.collate s number env db = .ok (reply, changes) →
      ∀ change ∈ changes, change.Plain)
    (after : ∀ reply, Decides P tells good (rest reply)) :
    Decides P tells good (execSqlSync s >>= rest) := by
  intro finished
  constructor
  · intro number env db reply changes ran
    exact .inr (.inr ⟨after reply finished, plain number env db reply changes ran⟩)
  · exact faulted

/-- The statement that decides: its reply tells why, or every outcome is good. -/
theorem exec_decides {s : Stmt} {rest : Resp s → Guarded β} (latest : statementSource s ≠ .snapshot)
    (after : ∀ reply, tells s reply ∨ Ends good (rest reply)) :
    Decides P tells good (execSqlSync s >>= rest) := by
  intro finished
  constructor
  · intro number env db reply changes ran
    rcases after reply with telling | ends
    · exact .inl ⟨latest, telling⟩
    · exact .inr (.inl (ends finished))
  · exact faulted

/-- A transaction ends with the outcome of the code inside or with a fault. -/
theorem transaction_decides {body : Guarded β} (inside : Decides P tells good body) :
    (transaction body).Decides (engine P.collate) Change.Plain tells good := by
  rintro (fault | ⟨⟩)
  · exact faulted fault
  · refine (inside false).bind ?_
    rintro ⟨outcome, _ | _⟩ ended
    · exact ended
    · exact ended

end Rules

end Guarded

open Guarded

namespace OrderService

variable {P : Platform} {req : CreateOrderReq}

/-- The deduction found nothing to take from. -/
def Tells (req : CreateOrderReq) : (s : Stmt) → Resp s → Prop
  | .productDeductStock productId quantity, affectedRows =>
      productId = req.productId ∧ quantity = req.quantity ∧ affectedRows = (0 : Nat)
  | _, _ => False

/-- An outcome whose answer is not that the stock is too small. -/
def Accepted (req : CreateOrderReq) (outcome : Except Exn CreateOrderOutcome) : Prop :=
  Accepts (.createOrder req) (.order (catchOutcome req.requestId outcome))

/-- No failure is answered as a refusal for lack of stock. -/
theorem fault_accepted (fault : Fault) : Accepted req (.error (.fault fault)) := by
  cases fault <;> simp [Accepted, Accepts, Call.refusal, catchOutcome, catchAll, Answer.code,
    Result.fail, ErrCode.toInt]

/-- The creation refuses for lack of stock only after the conditional deduction has changed no
row, which tells that the stock is short. -/
theorem place_decides : Decides P (Tells req) (Accepted req) (place P req) := by
  have missing : ∀ message, Accepted req (.error (.biz .kProductNotFound message)) := by
    simp [Accepted, Accepts, Call.refusal, catchOutcome, catchAll, Answer.code, Result.fail,
      ErrCode.toInt]
  refine plain_decides fault_accepted (fun number env db reply changes ran => ?_) ?_
  · simp only [execute, Except.ok.injEq, Prod.mk.injEq] at ran
    simp [← ran.2]
  rintro (_ | product)
  · exact (bizException_ends (missing _)).decides
  simp only
  split
  · exact (bizException_ends (missing _)).decides
  refine exec_decides fault_accepted (by simp [statementSource]) fun deducted => ?_
  by_cases none : deducted = 0
  · exact .inl ⟨rfl, rfl, none⟩
  · right
    rw [if_neg none]
    refine nextId_ends fault_accepted fun orderNo => clock_ends fun clock => ?_
    refine exec_ends fault_accepted fun _ => exec_ends fault_accepted fun _ => ?_
    refine commit_ends fault_accepted (pure_ends ?_)
    simp [Accepted, Accepts, Call.refusal, catchOutcome, Answer.code, Result.ok, ErrCode.toInt]

/-- Claiming the request id writes plain images. -/
theorem insert_plain {record : Idempotent} {number : Nat} {env : Env} {db : Db} {affected : Nat}
    {changes : List Change}
    (ran : execute P.collate (.idempotentInsert record) number env db = .ok (affected, changes)) :
    ∀ change ∈ changes, change.Plain := by
  obtain ⟨-, ⟨-, -, rfl⟩ | ⟨-, -, rfl⟩⟩ := insertOrKeep_ok ran
  · simp
  · simp [Change.Plain]

/-- A request that is claimed by another call is not refused for lack of stock; else the
creation decides. -/
theorem createOrderBody_decides : Decides P (Tells req) (Accepted req) (createOrderBody P req) := by
  have processing : Accepted req (.ok (.kExecuted (Result.fail .kDuplicateRequest
      ErrCode.kDuplicateRequest.toMessage req.requestId))) := by
    simp [Accepted, Accepts, Call.refusal, catchOutcome, Answer.code, Result.fail, ErrCode.toInt]
  have cached : ∀ body, Accepted req (.ok (.kCached body)) := by
    simp [Accepted, Accepts, catchOutcome, Answer.code]
  refine clock_decides fun clock => ?_
  simp only [IdempotentDao.tryAcquire, bind_assoc]
  refine plain_decides fault_accepted (fun _ _ _ _ _ => insert_plain) fun affected => ?_
  split
  · exact place_decides
  refine plain_decides fault_accepted (fun number env db reply changes ran => ?_) ?_
  · simp only [execute, Except.ok.injEq, Prod.mk.injEq] at ran
    simp [← ran.2]
  rintro (_ | ⟨_ | _ | _, responseBody⟩)
  · exact (pure_ends processing).decides
  · exact (pure_ends processing).decides
  · exact (pure_ends (cached responseBody)).decides
  · exact (pure_ends processing).decides

end OrderService

namespace ReconcileService

variable {P : Platform} {billDate : String}

/-- The day has a batch. -/
def Tells (billDate : String) : (s : Stmt) → Resp s → Prop
  | .hasBatchForDate date channel, repeated =>
      date = billDate ∧ channel = kChannel ∧ repeated = true
  | _, _ => False

/-- An outcome whose answer is not that the day has been reconciled. -/
def Accepted (billDate : String) (bill : Option String) (outcome : Except Exn (Result Json)) : Prop :=
  Accepts (.reconcile billDate bill) (.reply (catchAll billDate outcome))

/-- No failure is answered as a date that has been reconciled. -/
theorem fault_accepted (bill : Option String) (fault : Fault) :
    Accepted billDate bill (.error (.fault fault)) := by
  cases fault <;> simp [Accepted, Accepts, Call.refusal, catchAll, Answer.code, Result.fail,
    ErrCode.toInt]

/-- The inserts of the differences refuse nothing. The induction is on the list of them. -/
theorem insertDiffs_ends {good : Except Exn (Result Json) → Prop}
    (faulted : ∀ fault, good (.error (.fault fault))) {rest : Unit → Guarded (Result Json)}
    (after : Ends good (rest ())) (batchNo : String) (classified : List ClassifiedDiff) :
    Ends good (insertDiffs batchNo classified >>= rest) := by
  induction classified with
  | nil => exact after
  | cons diff others inductionHypothesis =>
    rw [insertDiffs, bind_assoc]
    exact exec_ends faulted fun _ => inductionHypothesis

/-- A run is refused only by the lookup of its date, or by the unique key of the batch; both
tell that the date has a batch. -/
theorem runBody_decides (bill : Option String) (channels : List ReconcileSideRow) :
    Decides P (Tells billDate) (Accepted billDate bill) (runBody billDate channels) := by
  refine exec_decides (fault_accepted bill) (by simp [statementSource]) fun repeated => ?_
  cases repeated with
  | true => exact .inl ⟨rfl, rfl, rfl⟩
  | false =>
    right
    refine exec_ends (fault_accepted bill) fun locals => nextId_ends (fault_accepted bill)
      fun batchNo => exec_ends (fault_accepted bill) fun _ => ?_
    apply insertDiffs_ends (fault_accepted bill)
    refine commit_ends (fault_accepted bill) (pure_ends ?_)
    simp [Accepted, Accepts, Call.refusal, catchAll, Answer.code, batchReply, Result.ok, ErrCode.toInt]

end ReconcileService

/-- The telling replies of a call. -/
def Call.Tells : Call → (s : Stmt) → Resp s → Prop
  | .createOrder req => OrderService.Tells req
  | .reconcile billDate _ => ReconcileService.Tells billDate
  | _ => fun _ _ => False

/-- Every service refuses only after a telling reply. The calls without a refusal to speak of
decide trivially; the two others do because a failure of any request leads to an answer that
is no refusal. -/
theorem program_decides {P : Platform} (call : Call) :
    (program P call).Decides (engine P.collate) Change.Plain call.Tells (Accepts call) := by
  have silent {other : Call} (quiet : other.refusal = none) (answer : Answer) : Accepts other answer :=
    fun code named => by simp [quiet] at named
  cases call with
  | createOrder req =>
    have rejected (message : String) : Accepts (.createOrder req)
        (.order (.kExecuted (Result.fail .kParamInvalid message req.requestId))) := by
      simp [Accepts, Call.refusal, Answer.code, Result.fail, ErrCode.toInt]
    rw [program, OrderService.createOrder]
    split
    · exact rejected _
    · rw [Program.bind_bind]
      exact (transaction_decides OrderService.fault_accepted OrderService.createOrderBody_decides).bind
        fun outcome accepted => accepted
  | reconcile billDate bill =>
    have rejected (message : String) : Accepts (.reconcile billDate bill)
        (.reply (Result.fail .kReconcileBillParseFailed message billDate)) := by
      simp [Accepts, Call.refusal, Answer.code, Result.fail, ErrCode.toInt]
    rw [program]
    cases bill with
    | none => exact rejected _
    | some text =>
      rw [ReconcileService.run]
      cases parsed : ReconcileService.parseBill text with
      | none => exact rejected _
      | some channels =>
        simp only [Program.bind_bind]
        exact (transaction_decides (ReconcileService.fault_accepted (some text))
          (ReconcileService.runBody_decides (some text) channels)).bind fun outcome accepted => accepted
  | handleCallback req rawBody =>
    exact (Program.ends_of_all (silent rfl) _).decides
  | listDiffs batchNo limit =>
    exact (Program.ends_of_all (silent rfl) _).decides
  | handleDiff diffId action remark =>
    exact (Program.ends_of_all (silent rfl) _).decides

end TradeReconcile
