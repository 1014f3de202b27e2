import TradeReconcile.Services.Calls
import TradeReconcile.Transactions.Typing

/-!
# Every stored row fits its columns

The server checks the rows it inserts, and the updates of the services keep what was checked:
a paid order, a charged account, a completed snapshot and a handled difference still fit.
Products are left out. Their stock depends on the quantities of the orders.
-/

namespace TradeReconcile

open Transactions

/-- An account that its table admits. -/
def Account.fits (account : Account) : Bool :=
  0 ≤ account.balanceFen && fitsDecimal account.balanceFen

/-- The image fits the columns of its table. -/
def Change.fits : Change → Bool
  | .product _ => true
  | .account row => row.val.fits
  | .flow row => row.val.fits
  | .order row => row.val.fits
  | .payment row => row.val.fits
  | .idempotent row => row.val.fits && row.val.responseBody.utf8ByteSize < 2 ^ 16
  | .message row => row.val.fits
  | .batch row => row.val.fits
  | .diff row => row.val.fits && row.val.handleRemark.length ≤ 255

/-- Every row fits the columns of its table: lengths of texts and ranges of numbers. A table
that was filled through statements does. -/
structure Db.Fits (db : Db) : Prop where
  accounts : ∀ row ∈ db.accounts, (Change.account row).fits = true
  flows : ∀ row ∈ db.flows, (Change.flow row).fits = true
  orders : ∀ row ∈ db.orders, (Change.order row).fits = true
  payments : ∀ row ∈ db.payments, (Change.payment row).fits = true
  idempotents : ∀ row ∈ db.idempotents, (Change.idempotent row).fits = true
  messages : ∀ row ∈ db.messages, (Change.message row).fits = true
  batches : ∀ row ∈ db.batches, (Change.batch row).fits = true
  diffs : ∀ row ∈ db.diffs, (Change.diff row).fits = true

section Statements

variable {collate : String → String} {db : Db}

/-- A row image that fits leaves every table within its columns. -/
theorem put_fits (fits : db.Fits) {change : Change} (own : change.fits = true) : (db.put change).Fits := by
  cases change with
  | product row => exact { fits with }
  | account row => exact { fits with accounts := putRow_all fits.accounts own }
  | flow row => exact { fits with flows := putRow_all fits.flows own }
  | order row => exact { fits with orders := putRow_all fits.orders own }
  | payment row => exact { fits with payments := putRow_all fits.payments own }
  | idempotent row => exact { fits with idempotents := putRow_all fits.idempotents own }
  | message row => exact { fits with messages := putRow_all fits.messages own }
  | batch row => exact { fits with batches := putRow_all fits.batches own }
  | diff row => exact { fits with diffs := putRow_all fits.diffs own }

/-- What an insert writes fits: the server checks it. -/
theorem insertRow_fits {α : Type} {fits clash : Bool} {image : Row α → Change} {id affected : Nat}
    {value : α} {changes : List Change} (ran : insertRow fits clash image id value = .ok (affected, changes))
    (kept : fits = true → (image ⟨id, value⟩).fits = true) :
    ∀ change ∈ changes, change.fits = true := by
  obtain ⟨fitting, -, -, rfl⟩ := insertRow_ok ran
  simpa using kept fitting

/-- The same of an insert that ignores a duplicate. -/
theorem insertOrKeep_fits {α : Type} {fits clash : Bool} {image : Row α → Change} {id affected : Nat}
    {value : α} {changes : List Change}
    (ran : insertOrKeep fits clash image id value = .ok (affected, changes))
    (kept : fits = true → (image ⟨id, value⟩).fits = true) :
    ∀ change ∈ changes, change.fits = true := by
  obtain ⟨fitting, ⟨-, -, rfl⟩ | ⟨-, -, rfl⟩⟩ := insertOrKeep_ok ran
  · simp
  · simpa using kept fitting

/-- What an update writes fits if its new values do. -/
theorem updateRows_fits {α : Type} {table : List (Row α)} {selects : Row α → Bool} {set : α → α}
    {image : Row α → Change} {affected : Nat} {changes : List Change}
    (ran : updateRows table selects set image = (affected, changes))
    (kept : ∀ row ∈ table, selects row = true → (image ⟨row.id, set row.val⟩).fits = true) :
    ∀ change ∈ changes, change.fits = true := by
  obtain ⟨-, rfl⟩ := Prod.mk.inj ran
  intro change member
  obtain ⟨row, selected, rfl⟩ := List.mem_map.mp member
  obtain ⟨present, chosen⟩ := List.mem_filter.mp selected
  exact kept row present chosen

/-- A statement that reads rows that fit writes rows that fit. An insert has passed the check
of its columns; an update either leaves the bounded columns alone or has checked what it puts
there. -/
theorem execute_fits (fits : db.Fits) {s : Stmt} {number : Nat} {env : Env} {reply : Resp s}
    {changes : List Change} (ran : execute collate s number env db = .ok (reply, changes)) :
    ∀ change ∈ changes, change.fits = true := by
  cases s with
  | idempotentInsert record =>
    refine insertOrKeep_fits ran fun fitting => ?_
    rw [Change.fits, Bool.and_eq_true]
    exact ⟨fitting, rfl⟩
  | idempotentMarkSuccess requestId responseBody =>
    simp only [execute] at ran
    split at ran
    · cases ran
    · rename_i short
      refine updateRows_fits (Except.ok.inj ran) fun row present _ => ?_
      have before := fits.idempotents row present
      simp only [Change.fits, Bool.and_eq_true, decide_eq_true_eq] at before ⊢
      exact ⟨before.1, Nat.lt_of_not_le short⟩
  | productDeductStock productId quantity => exact updateRows_fits (Except.ok.inj ran) fun _ _ _ => rfl
  | orderInsert order => exact insertRow_fits ran fun fitting => fitting
  | orderMarkPaid orderNo => exact updateRows_fits (Except.ok.inj ran) fun row present _ => fits.orders row present
  | paymentInsertWithDedup payment => exact insertOrKeep_fits ran fun fitting => fitting
  | accountDeduct accountNo amountFen =>
    simp only [execute] at ran
    split at ran
    · rename_i covered
      refine updateRows_fits (Except.ok.inj ran) fun row present chosen => ?_
      exact List.all_eq_true.mp covered row (List.mem_filter.mpr ⟨present, chosen⟩)
    · cases ran
  | accountInsertFlow flow => exact insertRow_fits ran fun fitting => fitting
  | messageInsert message => exact insertRow_fits ran fun fitting => fitting
  | batchInsert batch => exact insertRow_fits ran fun fitting => fitting
  | diffInsert diff =>
    refine insertRow_fits ran fun fitting => ?_
    rw [Change.fits, Bool.and_eq_true]
    exact ⟨fitting, rfl⟩
  | diffHandle diffId handleStatus remark =>
    simp only [execute] at ran
    split at ran
    · cases ran
    · rename_i short
      refine updateRows_fits (Except.ok.inj ran) fun row present chosen => ?_
      have found : db.diffs.any (handleable diffId) = true := List.any_eq_true.mpr ⟨row, present, chosen⟩
      have before := fits.diffs row present
      rw [Change.fits, Bool.and_eq_true] at before ⊢
      simp only [found, Bool.true_and, decide_eq_true_eq] at short
      exact ⟨before.1, decide_eq_true (Nat.le_of_not_lt short)⟩
  | idempotentSelect | productGetById | orderGetByOrderNo | paymentGetByChannelTradeNo
  | accountGetByUserId | diffList | diffGetById =>
    obtain ⟨-, rfl⟩ := Prod.mk.inj (Except.ok.inj ran)
    simp
  | hasBatchForDate | localRows =>
    simp only [execute] at ran
    split at ran
    · cases ran
    · obtain ⟨-, rfl⟩ := Prod.mk.inj (Except.ok.inj ran)
      simp

end Statements

/-- Every statement of every service writes only what the columns hold. One case for each
statement. -/
theorem engine_checking (collate : String → String) :
    Checking (engine collate) Db.Fits (fun change => change.fits = true) where
  put _ _ fits own := put_fits fits own
  run _ _ _ _ _ _ fits ran := execute_fits fits ran

/-- In every run from rows that fit, every committed row fits. The server checks each value as
it is written, and no service goes around it. -/
theorem reached_fits {P : Platform} {admits : Trade → Action Call Env Fault → Prop}
    {first : Shared Db} {system : Trade} (fits : first.committed.Fits)
    (reached : Reached P admits first system) : system.shared.committed.Fits :=
  (reached_checked (engine_checking P.collate) fits reached).1

end TradeReconcile
