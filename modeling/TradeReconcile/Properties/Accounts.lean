import TradeReconcile.Properties.Payments

/-!
# The books balance

Money leaves an account only as a payment of one of its user's orders. Whatever the calls
and their interleaving, every account has lost exactly the totals of the orders of its user
that have been paid, and the payments, the flow entries and the paid orders add up to the
same amount. The three records of a payment belong together: each order that has become
paid has gained one of each under its own number, and nothing else has gained any. Unlike
`SettledOnce` this starts from any database, with orders and payments in it.
-/

namespace TradeReconcile

open Transactions

/-- Payments received. -/
def received (db : Db) : Int := (db.payments.map fun row => row.val.amountFen).sum

/-- Amounts of the flow entries. -/
def charged (db : Db) : Int := (db.flows.map fun row => row.val.amountFen).sum

/-- The total of an order that is paid and passes a test, and nothing otherwise. -/
def paidAmount (test : Order → Bool) (order : Order) : Int :=
  if order.status = .kPaid ∧ test order = true then order.totalAmountFen else 0

/-- Totals of the paid orders that pass a test. -/
def paidTotal (test : Order → Bool) (db : Db) : Int :=
  (db.orders.map fun row => paidAmount test row.val).sum

/-- Totals of the paid orders of one user. -/
def spentBy (userId : Nat) : Db → Int := paidTotal fun order => order.userId == userId

/-- The number of paid orders. -/
def paidCount (db : Db) : Int :=
  (db.orders.map fun row => if row.val.status = .kPaid then (1 : Int) else 0).sum

/-- Against the first database, accounts have lost what their users' orders cost, and the
three records of a payment have grown by the same total and the same number. -/
structure BooksBalance (first db : Db) : Prop where
  accounts : ∀ account ∈ db.accounts, ∃ opened ∈ first.accounts, opened.id = account.id ∧
    opened.val.userId = account.val.userId ∧
    account.val.balanceFen + spentBy account.val.userId db =
      opened.val.balanceFen + spentBy account.val.userId first
  orders : paidTotal (fun _ => true) db - paidTotal (fun _ => true) first =
    received db - received first
  flows : charged db - charged first = received db - received first
  paid : paidCount db - paidCount first = (db.payments.length : Int) - first.payments.length
  entries : (db.flows.length : Int) - first.flows.length =
    (db.payments.length : Int) - first.payments.length
  messages : (db.messages.length : Int) - first.messages.length =
    (db.payments.length : Int) - first.payments.length

/-- Against the first database, the order's number has gained one payment and one flow entry
of its total, the latter on an account of its user, and one message. -/
structure PaidSince (collate : String → String) (first db : Db) (order : Order) : Prop where
  payment : ∃ row, paymentsOf collate db order.orderNo =
      paymentsOf collate first order.orderNo ++ [row] ∧
    row.val.status = .kSuccess ∧ row.val.amountFen = order.totalAmountFen
  flow : ∃ row, flowsOf collate db order.orderNo = flowsOf collate first order.orderNo ++ [row] ∧
    row.val.amountFen = order.totalAmountFen ∧
    ∃ account ∈ db.accounts, account.val.accountNo = row.val.accountNo ∧
      account.val.userId = order.userId
  message : ∃ row, messagesOf collate db order.orderNo =
    messagesOf collate first order.orderNo ++ [row]

/-- The number has gained nothing: no payment, no flow entry, no message. -/
structure SameRows (collate : String → String) (first db : Db) (orderNo : String) : Prop where
  payments : paymentsOf collate db orderNo = paymentsOf collate first orderNo
  flows : flowsOf collate db orderNo = flowsOf collate first orderNo
  messages : messagesOf collate db orderNo = messagesOf collate first orderNo

/-- Paid orders stay; an order that has become paid has gained its three records; and a
number without such an order has gained none. -/
structure PaidOneByOne (collate : String → String) (first db : Db) : Prop where
  stay : ∀ order ∈ first.orders, order.val.status = .kPaid → order ∈ db.orders
  paid : ∀ order ∈ db.orders, order.val.status = .kPaid →
    order ∈ first.orders ∨ PaidSince collate first db order.val
  others : ∀ orderNo, (∀ order ∈ db.orders, collate order.val.orderNo = collate orderNo →
    order.val.status = .kPaid → order ∈ first.orders) → SameRows collate first db orderNo

/-- Where nothing has happened no order became paid. -/
theorem PaidOneByOne.refl (collate : String → String) (db : Db) : PaidOneByOne collate db db where
  stay _ member _ := member
  paid _ member _ := .inl member
  others _ _ := ⟨rfl, rfl, rfl⟩

/-- Where nothing has happened the books balance. -/
theorem BooksBalance.refl (db : Db) : BooksBalance db db where
  accounts account member := ⟨account, member, rfl, rfl, rfl⟩
  orders := by omega
  flows := by omega
  paid := by omega
  entries := by omega
  messages := by omega

section Steps

variable {P : Platform} {first before after : Db}

/-- A new order is pending, so it adds nothing to what is paid. -/
theorem Placed.paidTotal_eq {req : CreateOrderReq} {placement : Placement}
    (placed : Placed P req placement before after) (test : Order → Bool) :
    paidTotal test after = paidTotal test before := by
  obtain ⟨orderNo, clock, made⟩ := placed.order
  rw [paidTotal, placed.orders]
  simp [paidTotal, paidAmount, made, OrderService.buildOrder]

/-- A new order is not paid. -/
theorem Placed.paidCount_eq {req : CreateOrderReq} {placement : Placement}
    (placed : Placed P req placement before after) : paidCount after = paidCount before := by
  obtain ⟨orderNo, clock, made⟩ := placed.order
  rw [paidCount, placed.orders]
  simp [paidCount, made, OrderService.buildOrder]

/-- A creation moves no money. -/
theorem Placed.booksBalance {req : CreateOrderReq} {placement : Placement}
    (placed : Placed P req placement before after) (holds : BooksBalance first before) :
    BooksBalance first after := by
  obtain ⟨accounts, orders, flows, paid, entries, messages⟩ := holds
  constructor
  · simpa only [placed.accounts, spentBy, placed.paidTotal_eq] using accounts
  · simpa only [received, placed.payments, placed.paidTotal_eq] using orders
  · simpa only [received, charged, placed.payments, placed.flows] using flows
  · simpa only [placed.payments, placed.paidCount_eq] using paid
  · simpa only [placed.payments, placed.flows] using entries
  · simpa only [placed.payments, placed.messages] using messages

variable {req : PaymentCallbackReq} {rawBody : String} {settlement : Settlement}

/-- A settled order adds its total to what is paid. -/
theorem Settled.paidTotal_eq (settled : Settled P req rawBody settlement before after)
    (test : Order → Bool) (same : test settlement.paidOrder.val = test settlement.order.val) :
    paidTotal test after = paidTotal test before +
      if test settlement.order.val = true then settlement.order.val.totalAmountFen else 0 := by
  have moved := settled.orders.sum fun row => paidAmount test row.val
  have pending : paidAmount test settlement.order.val = 0 := by
    simp [paidAmount, settled.pending]
  have paid : paidAmount test settlement.paidOrder.val =
      if test settlement.order.val = true then settlement.order.val.totalAmountFen else 0 := by
    rw [paidAmount, same]
    simp [Settlement.paidOrder]
  rw [pending, paid] at moved
  simpa [paidTotal] using moved

/-- A payment receives the order's total. -/
theorem Settled.received_eq (settled : Settled P req rawBody settlement before after) :
    received after = received before + settlement.order.val.totalAmountFen := by
  obtain ⟨paymentNo, callbackTime, -, made⟩ := settled.payment
  rw [received, settled.payments, List.map_append, List.sum_append]
  simp [received, made, PaymentService.buildPayment, Payment.stored]

/-- It enters the order's total as a charge. -/
theorem Settled.charged_eq (settled : Settled P req rawBody settlement before after) :
    charged after = charged before + settlement.order.val.totalAmountFen := by
  rw [charged, settled.flows, List.map_append, List.sum_append]
  simp [charged, settled.flow]

/-- It pays one order more. -/
theorem Settled.paidCount_eq (settled : Settled P req rawBody settlement before after) :
    paidCount after = paidCount before + 1 := by
  have moved := settled.orders.sum fun row => if row.val.status = .kPaid then (1 : Int) else 0
  simpa [paidCount, settled.pending, Settlement.paidOrder] using moved

/-- The account loses what the order, the payment and the flow entry gain. Every sum over the
orders of one owner grows by the total or stays, and the three counts of rows grow by one
each. -/
theorem Settled.booksBalance (settled : Settled P req rawBody settlement before after)
    (keys : Schema P.collate before) (holds : BooksBalance first before) :
    BooksBalance first after := by
  have spent (userId : Nat) : spentBy userId after = spentBy userId before +
      if settlement.order.val.userId = userId then settlement.order.val.totalAmountFen else 0 := by
    have moved : paidTotal _ after = _ :=
      settled.paidTotal_eq (fun order : Order => order.userId == userId) rfl
    simpa [spentBy] using moved
  obtain ⟨accounts, orders, flows, paid, entries, messages⟩ := holds
  constructor
  · intro account member
    rw [spent]
    rcases settled.accounts.mem_after_apart keys.accountIds member with rfl | ⟨old, other⟩
    · obtain ⟨opened, present, sameId, sameUser, balance⟩ :=
        accounts settlement.account settled.accountPresent
      refine ⟨opened, present, sameId, sameUser, ?_⟩
      have owned : settlement.order.val.userId = settlement.debited.val.userId := settled.owner.symm
      rw [if_pos owned]
      simp only [Settlement.debited]
      omega
    · obtain ⟨opened, present, sameId, sameUser, balance⟩ := accounts account old
      refine ⟨opened, present, sameId, sameUser, ?_⟩
      have stranger : settlement.order.val.userId ≠ account.val.userId := fun same =>
        other (congrArg Row.id (keys.accountUser.eq_of_key old settled.accountPresent
          (same.symm.trans settled.owner.symm)))
      rw [if_neg stranger]
      omega
  · have moved := settled.paidTotal_eq (fun _ => true) rfl
    rw [if_pos rfl] at moved
    rw [moved, settled.received_eq]
    omega
  · rw [settled.charged_eq, settled.received_eq]
    omega
  · rw [settled.paidCount_eq, settled.payments, List.length_append, List.length_singleton]
    omega
  · rw [settled.flows, settled.payments]
    simp only [List.length_append, List.length_singleton]
    omega
  · rw [settled.messages, settled.payments]
    simp only [List.length_append, List.length_singleton]
    omega

/-- Every commit keeps the books in balance; only payments are written into them. -/
theorem Commit.booksBalance {call : Call} (commit : Commit P call before after)
    (keys : Schema P.collate before) (holds : BooksBalance first before) :
    BooksBalance first after := by
  cases commit with
  | placed placed => exact placed.booksBalance holds
  | settled settled => exact settled.booksBalance keys holds
  | reconciled reconciled =>
    rw [reconciled.frame]
    exact { holds with }
  | handled handled =>
    rw [handled.frame]
    exact { holds with }

/-! One payment after the other. -/

/-- What an order has gained is kept where its number gains nothing and no account changes
hands. -/
theorem PaidSince.kept {order : Order} (since : PaidSince P.collate first before order)
    (same : SameRows P.collate before after order.orderNo)
    (owners : ∀ {accountNo : String} {userId : Nat}, (∃ account ∈ before.accounts,
      account.val.accountNo = accountNo ∧ account.val.userId = userId) →
      ∃ account ∈ after.accounts, account.val.accountNo = accountNo ∧
        account.val.userId = userId) : PaidSince P.collate first after order := by
  obtain ⟨⟨payment, payments, facts⟩, ⟨flow, flows, amount, owned⟩, message, messages⟩ := since
  exact ⟨⟨payment, same.payments.trans payments, facts⟩,
    ⟨flow, same.flows.trans flows, amount, owners owned⟩, message, same.messages.trans messages⟩

/-- Rows that two steps leave alone are left alone. -/
theorem SameRows.trans {one two three : Db} {orderNo : String}
    (later : SameRows P.collate two three orderNo) (sooner : SameRows P.collate one two orderNo) :
    SameRows P.collate one three orderNo where
  payments := later.payments.trans sooner.payments
  flows := later.flows.trans sooner.flows
  messages := later.messages.trans sooner.messages

/-- A creation adds no payment, flow entry or message. -/
theorem Placed.sameRows {req : CreateOrderReq} {placement : Placement}
    (placed : Placed P req placement before after) (orderNo : String) :
    SameRows P.collate before after orderNo := by
  constructor
  · rw [paymentsOf, paymentsOf, placed.payments]
  · rw [flowsOf, flowsOf, placed.flows]
  · rw [messagesOf, messagesOf, placed.messages]

/-- A new order is not paid, and it brings no rows. -/
theorem Placed.paidOneByOne {req : CreateOrderReq} {placement : Placement}
    (placed : Placed P req placement before after) (holds : PaidOneByOne P.collate first before) :
    PaidOneByOne P.collate first after := by
  have stays : ∀ order ∈ before.orders, order ∈ after.orders := fun order member => by
    rw [placed.orders]
    exact List.mem_append_left _ member
  constructor
  case stay => exact fun order member paid => stays order (holds.stay order member paid)
  case paid =>
    intro order member paid
    rw [placed.orders, List.mem_append, List.mem_singleton] at member
    rcases member with old | rfl
    · exact (holds.paid order old paid).imp_right fun since =>
        since.kept (placed.sameRows _) fun owned => placed.accounts ▸ owned
    · obtain ⟨orderNo, clock, made⟩ := placed.order
      rw [made] at paid
      cases paid
  case others =>
    intro orderNo absent
    exact (placed.sameRows orderNo).trans
      (holds.others orderNo fun order member => absent order (stays order member))

/-- A payment adds its rows under the number of its own order. -/
theorem Settled.sameRows (settled : Settled P req rawBody settlement before after)
    {orderNo : String} (other : P.collate orderNo ≠ P.collate req.orderNo) :
    SameRows P.collate before after orderNo := by
  obtain ⟨payments, flows, messages⟩ := (settled.rows_of orderNo).1 other
  exact ⟨payments, flows, messages⟩

/-- The settled order was pending, so its number had gained nothing; now it gains the three
records of its payment. -/
theorem Settled.paidSince (settled : Settled P req rawBody settlement before after)
    (keys : Schema P.collate before) (holds : PaidOneByOne P.collate first before) :
    PaidSince P.collate first after settlement.paidOrder.val := by
  have untouched : SameRows P.collate first before settlement.order.val.orderNo := by
    refine holds.others _ fun order member same paid => ?_
    obtain rfl := keys.orderNo.eq_of_key member settled.orderPresent same
    rw [settled.pending] at paid
    cases paid
  obtain ⟨payments, flows, messages⟩ :=
    (settled.rows_of settlement.order.val.orderNo).2 settled.named
  rw [untouched.payments] at payments
  rw [untouched.flows] at flows
  rw [untouched.messages] at messages
  obtain ⟨paymentNo, callbackTime, -, payment⟩ := settled.payment
  refine ⟨⟨_, payments, ?_⟩, ⟨_, flows, ?_⟩, _, messages⟩
  · rw [payment]
    exact ⟨rfl, rfl⟩
  · rw [settled.flow]
    exact ⟨rfl, settled.account_kept ⟨settlement.account, settled.accountPresent, rfl, settled.owner⟩⟩

/-- The order that is paid had no rows before and has one of each kind now; the others keep
what they had. -/
theorem Settled.paidOneByOne (settled : Settled P req rawBody settlement before after)
    (keys : Schema P.collate before) (holds : PaidOneByOne P.collate first before) :
    PaidOneByOne P.collate first after := by
  have stays : ∀ order ∈ before.orders, order.val.status = .kPaid → order ∈ after.orders := by
    intro order member paid
    rcases settled.orders.mem_before member with rfl | kept
    · rw [settled.pending] at paid
      cases paid
    · exact kept
  constructor
  case stay => exact fun order member paid => stays order (holds.stay order member paid) paid
  case paid =>
    intro order member paid
    rcases settled.orders.mem_after_apart keys.orderIds member with rfl | ⟨old, otherId⟩
    · exact .inr (settled.paidSince keys holds)
    · have other : P.collate order.val.orderNo ≠ P.collate req.orderNo := fun same =>
        otherId (congrArg Row.id (keys.orderNo.eq_of_key old settled.orderPresent
          (same.trans settled.named.symm)))
      exact (holds.paid order old paid).imp_right fun since =>
        since.kept (settled.sameRows other) settled.account_kept
  case others =>
    intro orderNo absent
    have other : P.collate orderNo ≠ P.collate req.orderNo := by
      -- A paid row of the first database would still stand where the order was pending.
      intro same
      have early := absent settlement.paidOrder settled.orders.new_mem
        (settled.named.trans same.symm) rfl
      have clash := keys.orderIds.eq_of_id (holds.stay _ early rfl) settled.orderPresent rfl
      have pending := settled.pending
      rw [← clash] at pending
      cases pending
    refine (settled.sameRows other).trans (holds.others orderNo fun order member same paid => ?_)
    exact absent order (stays order member paid) same paid

/-- Every commit pays its orders one by one. -/
theorem Commit.paidOneByOne {call : Call} (commit : Commit P call before after)
    (keys : Schema P.collate before) (holds : PaidOneByOne P.collate first before) :
    PaidOneByOne P.collate first after := by
  have framed (batches : List (Row ReconcileBatch)) (diffs : List (Row ReconcileDiff)) :
      PaidOneByOne P.collate first { before with batches := batches, diffs := diffs } := by
    refine ⟨holds.stay, fun order member paid => ?_, fun orderNo absent => ?_⟩
    · exact (holds.paid order member paid).imp_right fun since =>
        since.kept ⟨rfl, rfl, rfl⟩ fun owned => owned
    · obtain ⟨payments, flows, messages⟩ := holds.others orderNo absent
      exact ⟨payments, flows, messages⟩
  cases commit with
  | placed placed => exact placed.paidOneByOne holds
  | settled settled => exact settled.paidOneByOne keys holds
  | reconciled reconciled =>
    rw [reconciled.frame]
    exact framed _ _
  | handled handled =>
    rw [handled.frame]
    exact framed _ _

end Steps

/-- The books balance at every moment of every run, from any database, and each order that
became paid has the three records of its payment to itself. -/
theorem reached_booksBalance {P : Platform} {serves : Call → Prop} {first : Shared Db}
    {system : Trade} (formed : WellFormed P.collate first)
    (reached : Reached P (Admits serves) first system) :
    BooksBalance first.committed system.shared.committed ∧
      PaidOneByOne P.collate first.committed system.shared.committed := by
  have commits := reached_commits formed reached
  constructor
  · exact commits_invariant (fun _ keys commit holds => commit.booksBalance keys holds)
      formed.schema (.refl _) commits
  · exact commits_invariant (fun _ keys commit holds => commit.paidOneByOne keys holds)
      formed.schema (.refl _ _) commits

/-- Two orders of one user are placed, at 39.90 and 19.95; the callbacks arrive in the other
order and overlap. -/
theorem mugs_booksBalance : ∃ system, Reached Shop.platform (Admits fun _ => True) Shop.store system ∧
    system.shared.committed.accounts.map (·.val.balanceFen) = [4015] ∧
    received system.shared.committed = 5985 ∧
    BooksBalance Shop.store.committed system.shared.committed ∧
    PaidOneByOne Shop.platform.collate Shop.store.committed system.shared.committed := by
  have executed : (Shop.twoPaid.map fun system =>
      (system.shared.committed.accounts.map (·.val.balanceFen), received system.shared.committed)) =
      some ([4015], 5985) := by decide +kernel
  obtain ⟨system, ran, facts⟩ := Option.map_eq_some_iff.mp executed
  obtain ⟨balances, payments⟩ := Prod.mk.inj facts
  have reached : Reached Shop.platform (Admits fun _ => True) Shop.store system :=
    reached_of_run ran
  exact ⟨system, reached, balances, payments, reached_booksBalance Shop.store_formed reached⟩

end TradeReconcile
