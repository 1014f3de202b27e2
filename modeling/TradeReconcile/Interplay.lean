import TradeReconcile.Services.Calls
import TradeReconcile.Transactions.Interference

/-!
# What concurrent calls may assume of each other

The schema's unique keys and the numbering of rows hold in every committed
database. While a call holds a lock, the rows behind it stay as they are: `Agree`
says for each kind of lock which rows those are. An account's lock also covers
the account's flow entries, because a flow entry is only ever written together
with a deduction. Independently of locks, tables only grow, and a row changes at
most its stock, its balance, its status from pending to paid, or the fields of its
handling once.
-/

namespace TradeReconcile

open Transactions

/-- The unique keys of `schema.sql`, under the collation of their columns, with the ids. The
tables of a run start with these, and every commit keeps them. -/
structure Schema (collate : String → String) (db : Db) : Prop where
  productIds : UniqueIds db.products
  accountIds : UniqueIds db.accounts
  accountNo : UniqueKey (fun account => collate account.accountNo) db.accounts
  accountUser : UniqueKey Account.userId db.accounts
  flowIds : UniqueIds db.flows
  flowRequest : UniqueKey (fun flow => (collate flow.requestId, flow.bizType)) db.flows
  orderIds : UniqueIds db.orders
  orderNo : UniqueKey (fun order => collate order.orderNo) db.orders
  orderRequest : UniqueKey (fun order => collate order.requestId) db.orders
  paymentIds : UniqueIds db.payments
  paymentNo : UniqueKey (fun payment => collate payment.paymentNo) db.payments
  channelTrade : UniqueKey
    (fun payment => (collate payment.channel, collate payment.channelTradeNo)) db.payments
  idempotentIds : UniqueIds db.idempotents
  idempotentRequest : UniqueKey (fun record => collate record.requestId) db.idempotents
  messageIds : UniqueIds db.messages
  messageId : UniqueKey (fun message => collate message.messageId) db.messages
  batchIds : UniqueIds db.batches
  batchNo : UniqueKey (fun batch => collate batch.batchNo) db.batches
  batchDate : UniqueKey (fun batch => (batch.billDate, collate batch.channel)) db.batches
  diffIds : UniqueIds db.diffs

/-- Some property of the numbers of all rows that were inserted by statements. Used for being
below the counter, and for being unused. -/
structure RowNumbers (holds : Nat → Prop) (db : Db) : Prop where
  flows : ∀ row ∈ db.flows, holds row.id
  orders : ∀ row ∈ db.orders, holds row.id
  payments : ∀ row ∈ db.payments, holds row.id
  idempotents : ∀ row ∈ db.idempotents, holds row.id
  messages : ∀ row ∈ db.messages, holds row.id
  batches : ∀ row ∈ db.batches, holds row.id
  diffs : ∀ row ∈ db.diffs, holds row.id

/-- What holds of the row numbers may be weakened. -/
theorem RowNumbers.imp {holds weaker : Nat → Prop} {db : Db} (numbers : RowNumbers holds db)
    (implies : ∀ number, holds number → weaker number) : RowNumbers weaker db where
  flows row member := implies _ (numbers.flows row member)
  orders row member := implies _ (numbers.orders row member)
  payments row member := implies _ (numbers.payments row member)
  idempotents row member := implies _ (numbers.idempotents row member)
  messages row member := implies _ (numbers.messages row member)
  batches row member := implies _ (numbers.batches row member)
  diffs row member := implies _ (numbers.diffs row member)

/-- Unique keys hold and the next row number is above every number in use. This is the
invariant that every step of every call keeps. -/
structure WellFormed (collate : String → String) (shared : Shared Db) : Prop where
  schema : Schema collate shared.committed
  numbered : RowNumbers (· < shared.counter) shared.committed

/-- A new number is unused. -/
theorem WellFormed.unused {collate : String → String} {shared : Shared Db}
    (formed : WellFormed collate shared) : RowNumbers (· ≠ shared.counter) shared.committed :=
  formed.numbered.imp fun _ below => Nat.ne_of_lt below

/-- Drawing a row number leaves the database well formed: the numbers in use stay below the
counter. -/
theorem WellFormed.tick {collate : String → String} {shared : Shared Db}
    (formed : WellFormed collate shared) : WellFormed collate shared.tick :=
  ⟨formed.schema, formed.numbered.imp fun _ below => Nat.lt_succ_of_lt below⟩

section Agreement

variable (collate : String → String)

/-- The rows behind a lock are the same in both databases. A lock on a row
number that is unused keeps it unused. -/
def Agree : Lock → Db → Db → Prop
  | .rowNumber number, before, after =>
    RowNumbers (· ≠ number) before → RowNumbers (· ≠ number) after
  | .product id, before, after =>
    before.products.filter (fun row => row.id == id) =
      after.products.filter (fun row => row.id == id)
  | .accountNo key, before, after =>
    before.accounts.filter (fun row => collate row.val.accountNo == key) =
        after.accounts.filter (fun row => collate row.val.accountNo == key) ∧
      before.flows.filter (fun row => collate row.val.accountNo == key) =
        after.flows.filter (fun row => collate row.val.accountNo == key)
  | .flowRequest key bizType, before, after =>
    before.flows.filter (fun row => collate row.val.requestId == key &&
        row.val.bizType == bizType) =
      after.flows.filter (fun row => collate row.val.requestId == key &&
        row.val.bizType == bizType)
  | .orderNo key, before, after =>
    before.orders.filter (fun row => collate row.val.orderNo == key) =
      after.orders.filter (fun row => collate row.val.orderNo == key)
  | .orderRequest key, before, after =>
    (∀ row ∈ before.orders, collate row.val.requestId ≠ key) →
      ∀ row ∈ after.orders, collate row.val.requestId ≠ key
  | .paymentNo key, before, after =>
    before.payments.filter (fun row => collate row.val.paymentNo == key) =
      after.payments.filter (fun row => collate row.val.paymentNo == key)
  | .channelTrade channel tradeNo, before, after =>
    before.payments.filter (fun row => collate row.val.channel == channel &&
        collate row.val.channelTradeNo == tradeNo) =
      after.payments.filter (fun row => collate row.val.channel == channel &&
        collate row.val.channelTradeNo == tradeNo)
  | .idempotentRequest key, before, after =>
    before.idempotents.filter (fun row => collate row.val.requestId == key) =
      after.idempotents.filter (fun row => collate row.val.requestId == key)
  | .messageId key, before, after =>
    before.messages.filter (fun row => collate row.val.messageId == key) =
      after.messages.filter (fun row => collate row.val.messageId == key)
  | .batchNo key, before, after =>
    before.batches.filter (fun row => collate row.val.batchNo == key) =
      after.batches.filter (fun row => collate row.val.batchNo == key)
  | .batchDate date channel, before, after =>
    before.batches.filter (fun row => row.val.billDate == date &&
        collate row.val.channel == channel) =
      after.batches.filter (fun row => row.val.billDate == date &&
        collate row.val.channel == channel)
  | .diff diffId, before, after =>
    ∀ row ∈ before.diffs, (row.id : Int) = diffId → row ∈ after.diffs

/-- A database agrees with itself on whatever a lock protects. -/
theorem Agree.refl (lock : Lock) (db : Db) : Agree collate lock db db := by
  cases lock <;> simp +contextual [Agree]

variable {collate}

/-- Agreement is carried from commit to commit. -/
theorem Agree.trans {lock : Lock} {first second third : Db} (one : Agree collate lock first second)
    (two : Agree collate lock second third) : Agree collate lock first third := by
  cases lock with
  | rowNumber number => exact fun unused => two (one unused)
  | orderRequest key => exact fun absent => two (one absent)
  | accountNo key => exact ⟨one.1.trans two.1, one.2.trans two.2⟩
  | diff diffId => exact fun row member named => two row (one row member named) named
  | product | flowRequest | orderNo | paymentNo | channelTrade | idempotentRequest | messageId
  | batchNo | batchDate => exact Eq.trans one two

end Agreement

/-- How one committed database grows into another. Inserted rows stay, and of a
row that is updated in place only the updated columns differ. -/
structure Evolves (before after : Db) : Prop where
  products : ∀ row ∈ before.products, ∃ later ∈ after.products, later.id = row.id ∧
    later.val = { row.val with stock := later.val.stock }
  accounts : ∀ row ∈ before.accounts, ∃ later ∈ after.accounts, later.id = row.id ∧
    later.val = { row.val with balanceFen := later.val.balanceFen }
  orders : ∀ row ∈ before.orders, ∃ later ∈ after.orders, later.id = row.id ∧
    later.val = { row.val with status := later.val.status, paidAt := later.val.paidAt } ∧
    (row.val.status ≠ .kPendingPayment → later = row)
  payments : before.payments ⊆ after.payments
  flows : before.flows ⊆ after.flows
  messages : before.messages ⊆ after.messages
  idempotents : before.idempotents ⊆ after.idempotents
  batches : before.batches ⊆ after.batches
  diffs : ∀ row ∈ before.diffs, ∃ later ∈ after.diffs, later.id = row.id ∧
    later.val = { row.val with
      handleStatus := later.val.handleStatus
      handleRemark := later.val.handleRemark
      handledAt := later.val.handledAt } ∧
    (row.val.handleStatus ≠ .kPending → later = row)

/-- A database has evolved from itself. -/
theorem Evolves.refl (db : Db) : Evolves db db where
  products row member := ⟨row, member, rfl, rfl⟩
  accounts row member := ⟨row, member, rfl, rfl⟩
  orders row member := ⟨row, member, rfl, rfl, fun _ => rfl⟩
  payments _ member := member
  flows _ member := member
  messages _ member := member
  idempotents _ member := member
  batches _ member := member
  diffs row member := ⟨row, member, rfl, rfl, fun _ => rfl⟩

/-- Rows keep their identity from commit to commit, and what was decided stays decided: a paid
order, a finished record, a handled difference. -/
theorem Evolves.trans {first second third : Db} (one : Evolves first second)
    (two : Evolves second third) : Evolves first third where
  products row member := by
    obtain ⟨middle, inside, sameId, same⟩ := one.products row member
    obtain ⟨last, present, lastId, lastSame⟩ := two.products middle inside
    refine ⟨last, present, lastId.trans sameId, ?_⟩
    rw [lastSame, same]
  accounts row member := by
    obtain ⟨middle, inside, sameId, same⟩ := one.accounts row member
    obtain ⟨last, present, lastId, lastSame⟩ := two.accounts middle inside
    refine ⟨last, present, lastId.trans sameId, ?_⟩
    rw [lastSame, same]
  orders row member := by
    obtain ⟨middle, inside, sameId, same, fixed⟩ := one.orders row member
    obtain ⟨last, present, lastId, lastSame, lastFixed⟩ := two.orders middle inside
    refine ⟨last, present, lastId.trans sameId, ?_, ?_⟩
    · rw [lastSame, same]
    · intro settled
      obtain rfl := fixed settled
      exact lastFixed settled
  payments := List.Subset.trans one.payments two.payments
  flows := List.Subset.trans one.flows two.flows
  messages := List.Subset.trans one.messages two.messages
  idempotents := List.Subset.trans one.idempotents two.idempotents
  batches := List.Subset.trans one.batches two.batches
  diffs row member := by
    obtain ⟨middle, inside, sameId, same, fixed⟩ := one.diffs row member
    obtain ⟨last, present, lastId, lastSame, lastFixed⟩ := two.diffs middle inside
    refine ⟨last, present, lastId.trans sameId, ?_, ?_⟩
    · rw [lastSame, same]
    · intro handled
      obtain rfl := fixed handled
      exact lastFixed handled

/-- What a running call may assume of the others between two of its requests: the counter only
grows, what its locks protect is untouched, and the database evolves. -/
structure Relies (collate : String → String) (session : Connection) (before after : Shared Db) :
    Prop where
  counter : before.counter ≤ after.counter
  agree : ∀ lock ∈ session.locks, Agree collate lock before.committed after.committed
  evolves : Evolves before.committed after.committed

namespace Relies

variable {collate : String → String} {session : Connection}

/-- A session relies on a store that nobody has changed. -/
theorem refl (shared : Shared Db) : Relies collate session shared shared :=
  ⟨Nat.le_refl _, fun lock _ => Agree.refl collate lock _, Evolves.refl _⟩

/-- What others do in several turns is what they do in one, as far as the session relies on
it. -/
theorem trans {first second third : Shared Db} (one : Relies collate session first second)
    (two : Relies collate session second third) : Relies collate session first third :=
  ⟨Nat.le_trans one.counter two.counter,
    fun lock held => (one.agree lock held).trans (two.agree lock held),
    one.evolves.trans two.evolves⟩

/-- Another call's row number changes nothing that the session relies on. -/
theorem tick (shared : Shared Db) : Relies collate session shared shared.tick :=
  ⟨Nat.le_succ _, fun lock _ => Agree.refl collate lock _, Evolves.refl _⟩

/-- A row number drawn after the others' turns makes no difference either. -/
theorem ticked {before now : Shared Db} (moved : Relies collate session before now) :
    Relies collate session before now.tick :=
  moved.trans (.tick now)

/-- Fewer locks promise less. -/
theorem weaken {more : Connection} {before after : Shared Db}
    (moved : Relies collate more before after) (fewer : session.locks ⊆ more.locks) :
    Relies collate session before after :=
  ⟨moved.counter, fun lock held => moved.agree lock (fewer held), moved.evolves⟩

end Relies

/-! What holding a lock keeps true, by the kind of fact it protects. -/

section Kept

variable {collate : String → String} {session : Connection} {before after : Shared Db}

/-- A number taken from the counter stays below it and out of the tables. -/
structure Reserved (id : Nat) (shared : Shared Db) : Prop where
  issued : id < shared.counter
  unused : RowNumbers (· ≠ id) shared.committed

/-- A reserved row number stays reserved: nobody else publishes a row under a number that is
locked. -/
theorem Reserved.kept {id : Nat} (reserved : Reserved id before)
    (moved : Relies collate session before after) (held : .rowNumber id ∈ session.locks) :
    Reserved id after :=
  ⟨Nat.lt_of_lt_of_le reserved.issued moved.counter, moved.agree _ held reserved.unused⟩

/-- The counter's value is reserved by the statement that takes it. -/
theorem WellFormed.reserved (formed : WellFormed collate before) :
    Reserved before.counter before.tick :=
  ⟨Nat.lt_succ_self _, formed.unused⟩

/-- Equal selections hold the same selected rows. -/
theorem mem_of_filter_eq {α : Type} {one two : List α} {p : α → Bool} {x : α}
    (same : one.filter p = two.filter p) (selected : p x = true) (member : x ∈ one) : x ∈ two := by
  have inside : x ∈ two.filter p := same ▸ List.mem_filter.mpr ⟨member, selected⟩
  exact (List.mem_filter.mp inside).1

/-- Equal selections are empty together. -/
theorem any_of_filter_eq {α : Type} {one two : List α} {p : α → Bool}
    (same : one.filter p = two.filter p) (absent : one.any p = false) : two.any p = false := by
  rw [List.any_eq_false] at absent ⊢
  intro x member selected
  exact absent x (mem_of_filter_eq same.symm selected member) selected

/-- A product that is locked stays as it was read, with its stock. -/
theorem product_kept {row : Row Product} (moved : Relies collate session before after)
    (held : .product row.id ∈ session.locks) (member : row ∈ before.committed.products) :
    row ∈ after.committed.products :=
  mem_of_filter_eq (moved.agree _ held) (by simp) member

/-- An account that is locked stays as it was read, with its balance. -/
theorem account_kept {row : Row Account} (moved : Relies collate session before after)
    (held : .accountNo (collate row.val.accountNo) ∈ session.locks)
    (member : row ∈ before.committed.accounts) : row ∈ after.committed.accounts :=
  mem_of_filter_eq (moved.agree _ held).1 (by simp) member

/-- An order that is locked stays as it was read, with its status. -/
theorem order_kept {row : Row Order} (moved : Relies collate session before after)
    (held : .orderNo (collate row.val.orderNo) ∈ session.locks)
    (member : row ∈ before.committed.orders) : row ∈ after.committed.orders :=
  mem_of_filter_eq (moved.agree _ held) (by simp) member

/-- An account's lock keeps the account's flow entries. -/
theorem accountFlows_kept {key : String} {bound : Nat}
    (moved : Relies collate session before after) (held : .accountNo key ∈ session.locks)
    (below : ∀ row ∈ before.committed.flows, collate row.val.accountNo = key → row.id < bound) :
    ∀ row ∈ after.committed.flows, collate row.val.accountNo = key → row.id < bound := by
  intro row member same
  exact below row (mem_of_filter_eq (moved.agree _ held).2.symm (by simp [same]) member) same

/-- While both keys of a payment are locked, nobody else takes one of them. The same holds of
the other tables' keys below: a key that was free at the insert is free at the commit. -/
theorem paymentKey_kept {payment : Payment} (moved : Relies collate session before after)
    (number : .paymentNo (collate payment.paymentNo) ∈ session.locks)
    (trade : .channelTrade (collate payment.channel) (collate payment.channelTradeNo) ∈
      session.locks)
    (absent : before.committed.hasPaymentKey collate payment = false) :
    after.committed.hasPaymentKey collate payment = false := by
  simp only [Db.hasPaymentKey, List.any_eq_false, Bool.or_eq_true, not_or] at absent ⊢
  intro row member
  refine ⟨fun same => ?_, fun same => ?_⟩
  · exact (absent row (mem_of_filter_eq (moved.agree _ number).symm same member)).1 same
  · exact (absent row (mem_of_filter_eq (moved.agree _ trade).symm same member)).2 same

/-- A free key of a flow entry stays free while it is locked. -/
theorem flowKey_kept {flow : AccountFlow} (moved : Relies collate session before after)
    (held : .flowRequest (collate flow.requestId) flow.bizType ∈ session.locks)
    (absent : before.committed.hasFlowKey collate flow = false) :
    after.committed.hasFlowKey collate flow = false :=
  any_of_filter_eq (moved.agree _ held) absent

/-- A free message id stays free while it is locked. -/
theorem messageKey_kept {message : LocalMessage} (moved : Relies collate session before after)
    (held : .messageId (collate message.messageId) ∈ session.locks)
    (absent : before.committed.hasMessageKey collate message = false) :
    after.committed.hasMessageKey collate message = false :=
  any_of_filter_eq (moved.agree _ held) absent

/-- A free request id stays free while it is locked. -/
theorem idempotentKey_kept {requestId : String} (moved : Relies collate session before after)
    (held : .idempotentRequest (collate requestId) ∈ session.locks)
    (absent : before.committed.hasIdempotent collate requestId = false) :
    after.committed.hasIdempotent collate requestId = false :=
  any_of_filter_eq (moved.agree _ held) absent

/-- An order's free keys, its number and its request id, stay free while both are locked. -/
theorem orderKey_kept {order : Order} (moved : Relies collate session before after)
    (number : .orderNo (collate order.orderNo) ∈ session.locks)
    (request : .orderRequest (collate order.requestId) ∈ session.locks)
    (absent : before.committed.hasOrderKey collate order = false) :
    after.committed.hasOrderKey collate order = false := by
  simp only [Db.hasOrderKey, List.any_eq_false, Bool.or_eq_true, not_or, beq_iff_eq] at absent ⊢
  intro row member
  refine ⟨fun same => ?_, moved.agree _ request (fun row member => (absent row member).2) row member⟩
  exact (absent row (mem_of_filter_eq (moved.agree _ number).symm (by simp [same]) member)).1 same

/-- A batch's free keys, its number and its date, stay free while both are locked. -/
theorem batchKey_kept {batch : ReconcileBatch} (moved : Relies collate session before after)
    (number : .batchNo (collate batch.batchNo) ∈ session.locks)
    (date : .batchDate batch.billDate (collate batch.channel) ∈ session.locks)
    (absent : before.committed.hasBatchKey collate batch = false) :
    after.committed.hasBatchKey collate batch = false := by
  simp only [Db.hasBatchKey, List.any_eq_false, Bool.or_eq_true, not_or] at absent ⊢
  intro row member
  refine ⟨fun same => ?_, fun same => ?_⟩
  · exact (absent row (mem_of_filter_eq (moved.agree _ number).symm same member)).1 same
  · exact (absent row (mem_of_filter_eq (moved.agree _ date).symm same member)).2 same

end Kept

end TradeReconcile
