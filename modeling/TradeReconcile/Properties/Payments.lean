import TradeReconcile.Conduct.Calls

/-!
# Payments happen once and the ledger has no gaps

Two invariants of the committed database, proved over single steps and carried to
every interleaving by the refinement. The first keeps five tables in step: an
order is pending with nothing attached to it, or paid with exactly one payment,
one flow entry and one message. The second orders each account's flow entries by
insertion and closes the chain of balances from the opening balance to the
current one.
-/

namespace TradeReconcile

open Transactions

section SettledOnce

/-- The rows that refer to one order number. -/
def paymentsOf (collate : String → String) (db : Db) (orderNo : String) : List (Row Payment) :=
  db.payments.filter fun row => collate row.val.orderNo == collate orderNo

/-- The flow entries of an order. -/
def flowsOf (collate : String → String) (db : Db) (orderNo : String) : List (Row AccountFlow) :=
  db.flows.filter fun row => collate row.val.orderNo == collate orderNo

/-- The messages of an order. -/
def messagesOf (collate : String → String) (db : Db) (orderNo : String) :
    List (Row LocalMessage) :=
  db.messages.filter fun row => collate row.val.bizId == collate orderNo

/-- One payment, one flow entry on the account of the order's user, one message, all of the
order's total where they have an amount. -/
structure PaidOnce (collate : String → String) (db : Db) (order : Order) : Prop where
  payment : ∃ row, paymentsOf collate db order.orderNo = [row] ∧ row.val.status = .kSuccess ∧
    row.val.amountFen = order.totalAmountFen
  flow : ∃ row, flowsOf collate db order.orderNo = [row] ∧ row.val.bizType = .kPayment ∧
    row.val.direction = .kOut ∧ row.val.amountFen = order.totalAmountFen ∧
    ∃ account ∈ db.accounts, account.val.accountNo = row.val.accountNo ∧
      account.val.userId = order.userId
  message : ∃ row, messagesOf collate db order.orderNo = [row]

/-- Nothing refers to the order. -/
structure Untouched (collate : String → String) (db : Db) (order : Order) : Prop where
  payment : paymentsOf collate db order.orderNo = []
  flow : flowsOf collate db order.orderNo = []
  message : messagesOf collate db order.orderNo = []

/-- Every order is paid once or untouched, and nothing refers to a missing order. This is the
state of the four tables between two commits. -/
structure SettledOnce (collate : String → String) (db : Db) : Prop where
  orders : ∀ row ∈ db.orders,
    (row.val.status = .kPaid ∧ PaidOnce collate db row.val) ∨
      (row.val.status = .kPendingPayment ∧ Untouched collate db row.val)
  payments : ∀ row ∈ db.payments, ∃ order ∈ db.orders,
    collate order.val.orderNo = collate row.val.orderNo
  flows : ∀ row ∈ db.flows, ∃ order ∈ db.orders,
    collate order.val.orderNo = collate row.val.orderNo
  messages : ∀ row ∈ db.messages, ∃ order ∈ db.orders,
    collate order.val.orderNo = collate row.val.bizId

variable {P : Platform}

/-- A new order has a number that nothing refers to, since every row that refers to an order
refers to a stored one. The other orders keep their rows, and the new one is pending. -/
theorem Placed.settledOnce {req : CreateOrderReq} {placement : Placement} {before after : Db}
    (placed : Placed P req placement before after) (holds : SettledOnce P.collate before) :
    SettledOnce P.collate after := by
  have free := placed.orderFree
  simp only [Db.hasOrderKey, List.any_eq_false, Bool.or_eq_true, not_or, beq_iff_eq] at free
  have kept : ∀ {key : String}, (∃ order ∈ before.orders, P.collate order.val.orderNo = key) →
      ∃ order ∈ after.orders, P.collate order.val.orderNo = key := by
    rintro key ⟨order, member, same⟩
    exact ⟨order, by rw [placed.orders]; exact List.mem_append_left _ member, same⟩
  have sameRows : ∀ order : Order,
      paymentsOf P.collate after order.orderNo = paymentsOf P.collate before order.orderNo ∧
      flowsOf P.collate after order.orderNo = flowsOf P.collate before order.orderNo ∧
      messagesOf P.collate after order.orderNo = messagesOf P.collate before order.orderNo := by
    intro order
    simp only [paymentsOf, flowsOf, messagesOf, placed.payments, placed.flows, placed.messages,
      and_self]
  refine ⟨?_, ?_, ?_, ?_⟩
  · intro row member
    rw [placed.orders, List.mem_append, List.mem_singleton] at member
    obtain ⟨samePayments, sameFlows, sameMessages⟩ := sameRows row.val
    rcases member with old | rfl
    · rcases holds.orders row old with ⟨paid, once⟩ | ⟨pending, untouched⟩
      · refine .inl ⟨paid, ?_, ?_, ?_⟩
        · rw [samePayments]
          exact once.payment
        · rw [sameFlows, placed.accounts]
          exact once.flow
        · rw [sameMessages]
          exact once.message
      · refine .inr ⟨pending, ?_, ?_, ?_⟩
        · rw [samePayments, untouched.payment]
        · rw [sameFlows, untouched.flow]
        · rw [sameMessages, untouched.message]
    · obtain ⟨orderNo, clock, made⟩ := placed.order
      -- A row that referred to the new number would refer to an order that has it.
      refine .inr ⟨by rw [made]; rfl, ?_, ?_, ?_⟩
      · rw [samePayments, paymentsOf, List.filter_eq_nil_iff]
        intro payment present refers
        obtain ⟨order, member, same⟩ := holds.payments payment present
        exact (free order member).1 (same.trans (by simpa using refers))
      · rw [sameFlows, flowsOf, List.filter_eq_nil_iff]
        intro flow present refers
        obtain ⟨order, member, same⟩ := holds.flows flow present
        exact (free order member).1 (same.trans (by simpa using refers))
      · rw [sameMessages, messagesOf, List.filter_eq_nil_iff]
        intro message present refers
        obtain ⟨order, member, same⟩ := holds.messages message present
        exact (free order member).1 (same.trans (by simpa using refers))
  · intro row member
    exact kept (holds.payments row (placed.payments ▸ member))
  · intro row member
    exact kept (holds.flows row (placed.flows ▸ member))
  · intro row member
    exact kept (holds.messages row (placed.messages ▸ member))

/-- An account keeps its number and its user when another balance is debited. -/
theorem Settled.account_kept {req : PaymentCallbackReq} {rawBody : String}
    {settlement : Settlement} {before after : Db}
    (settled : Settled P req rawBody settlement before after) {accountNo : String} {userId : Nat}
    (owned : ∃ account ∈ before.accounts, account.val.accountNo = accountNo ∧
      account.val.userId = userId) :
    ∃ account ∈ after.accounts, account.val.accountNo = accountNo ∧
      account.val.userId = userId := by
  obtain ⟨account, member, number, user⟩ := owned
  rcases settled.accounts.mem_before member with rfl | kept
  · exact ⟨settlement.debited, settled.accounts.new_mem, number, user⟩
  · exact ⟨account, kept, number, user⟩

/-- Settling touches the rows of one order number and no other: three lists grow by one row
each for this number and are unchanged for any other. -/
theorem Settled.rows_of {req : PaymentCallbackReq} {rawBody : String} {settlement : Settlement}
    {before after : Db} (settled : Settled P req rawBody settlement before after)
    (orderNo : String) :
    (P.collate orderNo ≠ P.collate req.orderNo →
      paymentsOf P.collate after orderNo = paymentsOf P.collate before orderNo ∧
      flowsOf P.collate after orderNo = flowsOf P.collate before orderNo ∧
      messagesOf P.collate after orderNo = messagesOf P.collate before orderNo) ∧
    (P.collate orderNo = P.collate req.orderNo →
      paymentsOf P.collate after orderNo =
        paymentsOf P.collate before orderNo ++ [settlement.payment] ∧
      flowsOf P.collate after orderNo = flowsOf P.collate before orderNo ++ [settlement.flow] ∧
      messagesOf P.collate after orderNo =
        messagesOf P.collate before orderNo ++ [settlement.message]) := by
  obtain ⟨_, _, _, payment⟩ := settled.payment
  obtain ⟨_, _, message⟩ := settled.message
  simp only [paymentsOf, flowsOf, messagesOf, settled.payments, settled.flows, settled.messages,
    List.filter_append, List.filter_singleton, payment, settled.flow, message,
    PaymentService.buildPayment, Payment.stored, PaymentService.buildMessage]
  refine ⟨fun other => ?_, fun same => ?_⟩
  · have apart : (P.collate req.orderNo == P.collate orderNo) = false := by
      simpa using Ne.symm other
    simp [apart]
  · simp [same]

/-- The settled order gets its three rows; every other order keeps what it had. It had none
before, because it was pending, and the new rows carry its number and no other. -/
theorem Settled.settledOnce {req : PaymentCallbackReq} {rawBody : String}
    {settlement : Settlement} {before after : Db}
    (settled : Settled P req rawBody settlement before after) (keys : Schema P.collate before)
    (holds : SettledOnce P.collate before) : SettledOnce P.collate after := by
  have kept : ∀ {key : String}, (∃ order ∈ before.orders, P.collate order.val.orderNo = key) →
      ∃ order ∈ after.orders, P.collate order.val.orderNo = key := by
    rintro key ⟨order, member, same⟩
    obtain ⟨later, present, _, version, _⟩ := settled.evolves.orders order member
    exact ⟨later, present, by rw [version]; exact same⟩
  have target : ∃ order ∈ after.orders, P.collate order.val.orderNo = P.collate req.orderNo :=
    ⟨settlement.paidOrder, settled.orders.new_mem, settled.named⟩
  obtain ⟨paymentNo, callbackTime, _, payment⟩ := settled.payment
  obtain ⟨messageId, nextRetryTime, message⟩ := settled.message
  refine ⟨?_, ?_, ?_, ?_⟩
  · intro row member
    rcases settled.orders.mem_after_apart keys.orderIds member with rfl | ⟨old, otherId⟩
    · obtain ⟨pending, untouched⟩ : settlement.order.val.status = .kPendingPayment ∧
          Untouched P.collate before settlement.order.val := by
        rcases holds.orders settlement.order settled.orderPresent with ⟨paid, _⟩ | untouched
        · rw [settled.pending] at paid
          cases paid
        · exact untouched
      obtain ⟨payments, flows, messages⟩ :=
        (settled.rows_of settlement.order.val.orderNo).2 settled.named
      rw [untouched.payment, List.nil_append] at payments
      rw [untouched.flow, List.nil_append] at flows
      rw [untouched.message, List.nil_append] at messages
      refine .inl ⟨rfl, ⟨_, payments, ?_⟩, ⟨_, flows, ?_⟩, ⟨_, messages⟩⟩
      · rw [payment]
        exact ⟨rfl, rfl⟩
      · rw [settled.flow]
        exact ⟨rfl, rfl, rfl, settled.account_kept
          ⟨settlement.account, settled.accountPresent, rfl, settled.owner⟩⟩
    · have otherNo : P.collate row.val.orderNo ≠ P.collate req.orderNo := by
        intro same
        have clash := keys.orderNo.eq_of_key old settled.orderPresent
          (same.trans settled.named.symm)
        exact otherId (by rw [clash])
      obtain ⟨payments, flows, messages⟩ := (settled.rows_of row.val.orderNo).1 otherNo
      rcases holds.orders row old with ⟨paid, once⟩ | ⟨pending, untouched⟩
      · refine .inl ⟨paid, ?_, ?_, ?_⟩
        · rw [payments]
          exact once.payment
        · rw [flows]
          obtain ⟨flow, only, bizType, direction, amount, owned⟩ := once.flow
          exact ⟨flow, only, bizType, direction, amount, settled.account_kept owned⟩
        · rw [messages]
          exact once.message
      · exact .inr ⟨pending, payments.trans untouched.payment, flows.trans untouched.flow,
          messages.trans untouched.message⟩
  · intro row member
    rw [settled.payments, List.mem_append, List.mem_singleton] at member
    rcases member with old | rfl
    · exact kept (holds.payments row old)
    · rw [payment]
      exact target
  · intro row member
    rw [settled.flows, List.mem_append, List.mem_singleton] at member
    rcases member with old | rfl
    · exact kept (holds.flows row old)
    · rw [settled.flow]
      exact target
  · intro row member
    rw [settled.messages, List.mem_append, List.mem_singleton] at member
    rcases member with old | rfl
    · exact kept (holds.messages row old)
    · rw [message]
      exact target

/-- Batches and differences do not matter. -/
theorem SettledOnce.reconciled {collate : String → String} {db : Db} (holds : SettledOnce collate db)
    (batches : List (Row ReconcileBatch)) (diffs : List (Row ReconcileDiff)) :
    SettledOnce collate { db with batches := batches, diffs := diffs } :=
  ⟨fun row member => (holds.orders row member).imp (fun paid => ⟨paid.1, paid.2.payment,
    paid.2.flow, paid.2.message⟩) (fun pending => ⟨pending.1, pending.2.payment, pending.2.flow,
    pending.2.message⟩), holds.payments, holds.flows, holds.messages⟩

/-- From empty order, payment, flow and outbox tables, every committed database of every run
settles each order at most once and completely. Calls of all kinds interleave, and requests
fail, whenever they like; a commit that throws has had no effect. `reached_books` carries the
count of payments, and the guard on the pending status makes it at most one. -/
theorem reached_settledOnce {first : Shared Db} {system : Trade}
    (formed : WellFormed P.collate first) (orders : first.committed.orders = [])
    (payments : first.committed.payments = []) (flows : first.committed.flows = [])
    (messages : first.committed.messages = [])
    (reached : Reached P (Admits fun _ => True) first system) :
    SettledOnce P.collate system.shared.committed := by
  refine commits_invariant ?_ formed.schema ?_ (reached_commits formed reached)
  · intro call before after _ keys step holds
    cases step with
    | placed placed => exact placed.settledOnce holds
    | settled settled => exact settled.settledOnce keys holds
    | reconciled reconciled =>
      rw [reconciled.frame]
      exact holds.reconciled _ _
    | handled handled =>
      rw [handled.frame]
      exact holds.reconciled _ _
  · constructor <;> simp [orders, payments, flows, messages]

/-- An order is placed, and two callbacks about it overlap: the second has stored its payment
under another trade number before the first commits, and then waits for the order's row. -/
def Shop.contended : Option Trade :=
  Shop.run (fun _ _ => true)
    (.call (Shop.order "req-0001") :: Shop.advances 0 "7001" 11 ++
      .call (Shop.callback "cb-00001" "T1") :: Shop.advances 1 "8001" 6 ++
      .call (Shop.callback "cb-00002" "T2") :: Shop.advances 2 "8002" 4 ++
      Shop.advances 1 "9001" 7 ++ Shop.advances 2 "9002" 4)

/-- Two callbacks of one order overlap. The order is paid once: the payment of the one whose
update comes second is taken back. -/
theorem shop_settledOnce : ∃ system : Trade,
    Reached Shop.platform (Admits fun _ => True) Shop.store system ∧
      system.shared.committed.orders.map (·.val.status) = [.kPaid] ∧
      system.shared.committed.payments.map (·.val.channelTradeNo) = ["T1"] ∧
      SettledOnce Shop.platform.collate system.shared.committed := by
  have executed : (Shop.contended.map fun system =>
      (system.shared.committed.orders.map (·.val.status),
        system.shared.committed.payments.map (·.val.channelTradeNo))) =
      some ([.kPaid], ["T1"]) := by decide +kernel
  obtain ⟨system, ran, shown⟩ := Option.map_eq_some_iff.mp executed
  obtain ⟨paid, once⟩ := Prod.mk.inj shown
  have reached : Reached Shop.platform (Admits fun _ => True) Shop.store system :=
    reached_of_run ran
  exact ⟨system, reached, paid, once,
    reached_settledOnce Shop.store_formed rfl rfl rfl rfl reached⟩

end SettledOnce

section Ledger

/-- The rows of an account as the table holds them. -/
def entriesOf (collate : String → String) (db : Db) (accountNo : String) : List (Row AccountFlow) :=
  db.flows.filter fun row => collate row.val.accountNo == collate accountNo

/-- The flow entries of one account in the order of their row numbers, which are
handed out in the order of insertion. -/
def ledger (collate : String → String) (db : Db) (accountNo : String) : List (Row AccountFlow) :=
  (entriesOf collate db accountNo).mergeSort fun one two => decide (one.id ≤ two.id)

/-- Each entry debits a positive amount and starts from the balance at which the
previous one ended. -/
def Chained : Int → List (Row AccountFlow) → Int → Prop
  | opening, [], closing => opening = closing
  | opening, entry :: rest, closing => entry.val.beforeFen = opening ∧ 0 < entry.val.amountFen ∧
      entry.val.afterFen = entry.val.beforeFen - entry.val.amountFen ∧
      Chained entry.val.afterFen rest closing

/-- A chain goes on with an entry that starts where it ends. -/
theorem Chained.snoc {entries : List (Row AccountFlow)} {entry : Row AccountFlow} :
    ∀ {opening closing : Int}, Chained opening entries closing → entry.val.beforeFen = closing →
      0 < entry.val.amountFen → entry.val.afterFen = closing - entry.val.amountFen →
      Chained opening (entries ++ [entry]) entry.val.afterFen := by
  induction entries with
  | nil =>
    intro opening closing chained start positive difference
    exact ⟨start.trans chained.symm, positive, by rw [difference, start], rfl⟩
  | cons first rest inductionHypothesis =>
    intro opening closing chained start positive difference
    exact ⟨chained.1, chained.2.1, chained.2.2.1,
      inductionHypothesis chained.2.2.2 start positive difference⟩

/-- Every account stems from one of the first accounts, its entries stand in
insertion order and chain its opening balance to its balance. -/
def Balanced (collate : String → String) (first db : Db) : Prop :=
  ∀ account ∈ db.accounts, ∃ opened ∈ first.accounts, opened.id = account.id ∧
    (entriesOf collate db account.val.accountNo).Pairwise (fun one two => one.id < two.id) ∧
    Chained opened.val.balanceFen (entriesOf collate db account.val.accountNo)
      account.val.balanceFen ∧ 0 ≤ account.val.balanceFen

/-- The debited account's chain grows by the new entry, the others stay. The new entry starts
at the balance the chain ended with and ends at the new balance. -/
theorem Settled.balanced {P : Platform} {req : PaymentCallbackReq} {rawBody : String}
    {settlement : Settlement} {first before after : Db}
    (settled : Settled P req rawBody settlement before after) (keys : Schema P.collate before)
    (holds : Balanced P.collate first before) : Balanced P.collate first after := by
  intro account member
  rcases settled.accounts.mem_after_apart keys.accountIds member with rfl | ⟨old, otherId⟩
  · obtain ⟨opened, present, sameId, sorted, chained, _⟩ :=
      holds settlement.account settled.accountPresent
    have entries : entriesOf P.collate after settlement.account.val.accountNo =
        entriesOf P.collate before settlement.account.val.accountNo ++ [settlement.flow] := by
      simp [entriesOf, settled.flows, List.filter_append, settled.flow_accountNo]
    refine ⟨opened, present, sameId, ?_, ?_, Int.sub_nonneg.mpr settled.covered⟩
    · change List.Pairwise _ (entriesOf P.collate after settlement.account.val.accountNo)
      rw [entries]
      refine List.pairwise_append.mpr ⟨sorted, by simp, ?_⟩
      intro earlier inside last only
      rw [List.mem_singleton.mp only]
      have selected := List.mem_filter.mp inside
      exact settled.latest earlier selected.1 (by simpa using selected.2)
    · change Chained _ (entriesOf P.collate after settlement.account.val.accountNo)
        (settlement.account.val.balanceFen - settlement.order.val.totalAmountFen)
      have grown : Chained _ (_ ++ [settlement.flow]) _ := chained.snoc (by rw [settled.flow])
        (by rw [settled.flow]; exact settled.positive) (by rw [settled.flow])
      rw [← entries, settled.flow] at grown
      exact grown
  · have otherNo : P.collate settlement.account.val.accountNo ≠ P.collate account.val.accountNo := by
      intro same
      have clash := keys.accountNo.eq_of_key settled.accountPresent old same
      exact otherId (by rw [clash])
    have entries : entriesOf P.collate after account.val.accountNo =
        entriesOf P.collate before account.val.accountNo := by
      rw [entriesOf, entriesOf, settled.flows]
      exact (filter_append_hidden (by simpa [settled.flow_accountNo] using otherNo)).symm
    rw [entries]
    exact holds account old

/-- From any accounts with balances that are not negative and no flow entries, in every
committed database of every run each account's entries, in insertion order, chain its opening
balance to its current one. No order of the commits is assumed: the account's row lock is held
from the debit to the commit, so entries are appended in the order of the balances. -/
theorem reached_ledger {P : Platform} {first : Shared Db} {system : Trade}
    (formed : WellFormed P.collate first) (flows : first.committed.flows = [])
    (solvent : ∀ account ∈ first.committed.accounts, 0 ≤ account.val.balanceFen)
    (reached : Reached P (Admits fun _ => True) first system) :
    ∀ account ∈ system.shared.committed.accounts,
      ∃ opened ∈ first.committed.accounts, opened.id = account.id ∧
        Chained opened.val.balanceFen
          (ledger P.collate system.shared.committed account.val.accountNo)
          account.val.balanceFen ∧ 0 ≤ account.val.balanceFen := by
  have balanced : Balanced P.collate first.committed system.shared.committed := by
    refine commits_invariant ?_ formed.schema ?_ (reached_commits formed reached)
    · intro call before after _ keys step holds
      cases step with
      | placed placed =>
        intro account member
        rw [entriesOf, placed.flows]
        exact holds account (placed.accounts ▸ member)
      | settled settled => exact settled.balanced keys holds
      | reconciled reconciled =>
        rw [reconciled.frame]
        exact holds
      | handled handled =>
        rw [handled.frame]
        exact holds
    · intro account member
      refine ⟨account, member, rfl, ?_⟩
      simp [entriesOf, flows, Chained, solvent account member]
  intro account member
  obtain ⟨opened, present, sameId, sorted, chained, positive⟩ := balanced account member
  refine ⟨opened, present, sameId, ?_, positive⟩
  have ordered : ledger P.collate system.shared.committed account.val.accountNo =
      entriesOf P.collate system.shared.committed account.val.accountNo := by
    refine List.mergeSort_of_pairwise (sorted.imp ?_)
    intro one two less
    simpa using Nat.le_of_lt less
  rw [ordered]
  exact chained

/-- The account of two paid orders: the second one's callback commits first, so the chain
goes from 100.00 over 80.05 down to 40.15. -/
theorem shop_ledger : ∃ system : Trade,
    Reached Shop.platform (Admits fun _ => True) Shop.store system ∧
      system.shared.committed.flows.map (fun entry =>
        (entry.val.accountNo, entry.val.beforeFen, entry.val.afterFen)) =
          [("A1", 10000, 8005), ("A1", 8005, 4015)] ∧
      ∀ account ∈ system.shared.committed.accounts,
        ∃ opened ∈ Shop.store.committed.accounts, opened.id = account.id ∧
          Chained opened.val.balanceFen
            (ledger Shop.platform.collate system.shared.committed account.val.accountNo)
            account.val.balanceFen ∧ 0 ≤ account.val.balanceFen := by
  have executed : (Shop.twoPaid.map fun system =>
      system.shared.committed.flows.map fun entry =>
        (entry.val.accountNo, entry.val.beforeFen, entry.val.afterFen)) =
      some [("A1", 10000, 8005), ("A1", 8005, 4015)] := by decide +kernel
  obtain ⟨system, ran, entries⟩ := Option.map_eq_some_iff.mp executed
  have reached : Reached Shop.platform (Admits fun _ => True) Shop.store system :=
    reached_of_run ran
  exact ⟨system, reached, entries,
    reached_ledger Shop.store_formed rfl (by simp [Shop.store]) reached⟩

end Ledger

end TradeReconcile
