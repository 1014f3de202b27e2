import TradeReconcile.Conduct.Calls
import TradeReconcile.Conduct.Refusals
import TradeReconcile.Properties.Orders

/-!
# Refusals are true and remain so

A creation that was refused for lack of stock was refused rightly, and trying again would not
help: stock is never put back, so the product still has less than was asked for. In the same
way a run that was refused because its date had been reconciled leaves no doubt that the batch
is stored.
-/

namespace TradeReconcile

open Transactions

/-- What a refusal says: no product on sale has the stock, or the day has a batch. -/
def Call.Reason (collate : String → String) : Call → Db → Prop
  | .createOrder req, db => ∀ product ∈ db.products, product.id = req.productId →
      product.val.onSale = true → product.val.stock < req.quantity
  | .reconcile billDate _, db => ∃ batch ∈ db.batches, batch.val.billDate = billDate ∧
      collate batch.val.channel = collate ReconcileService.kChannel
  | _, _ => True

section Reasons

variable {P : Platform} {call : Call} {before after : Db}

/-- A telling reply is about the committed database: nothing the call has written before the
read or the guarded update that tells concerns products or batches. -/
theorem told_reason {db : Db} (told : Told (engine P.collate) Change.Plain call.Tells db) :
    call.Reason P.collate db := by
  obtain ⟨own, s, number, env, reply, changes, plain, ran, telling⟩ := told
  obtain ⟨products, batches⟩ := overlay_plain P.collate plain db
  cases call with
  | createOrder req =>
    cases s with
    | productDeductStock productId quantity =>
      obtain ⟨rfl, rfl, rfl⟩ := telling
      intro product member named sale
      rw [← products] at member
      have deducted : updateRows _ _ _ _ = ((0 : Nat), changes) := Except.ok.inj ran
      simp only [updateRows, Prod.mk.injEq, List.length_eq_zero_iff, List.filter_eq_nil_iff] at deducted
      have missed := deducted.1 product member
      simp only [Product.onSale, beq_iff_eq] at sale
      simp [named, sale] at missed
      exact missed
    | _ => exact telling.elim
  | reconcile billDate bill =>
    cases s with
    | hasBatchForDate date channel =>
      obtain ⟨rfl, rfl, rfl⟩ := telling
      have asked : execute P.collate (.hasBatchForDate date ReconcileService.kChannel) number env
        ((engine P.collate).overlay db own) = .ok (true, changes) := ran
      simp only [execute] at asked
      split at asked
      · cases asked
      · have found := (Prod.mk.inj (Except.ok.inj asked)).1
        rw [batches] at found
        obtain ⟨batch, member, fits⟩ := List.any_eq_true.mp found
        simp only [Bool.and_eq_true, beq_iff_eq] at fits
        exact ⟨batch, member, fits⟩
    | _ => exact telling.elim
  | handleCallback | listDiffs | handleDiff => trivial

/-- Where a product of a committed database comes from: an earlier product with the same
number, less what was sold since. -/
structure Drawn (before after : Db) (earlier later : Row Product) : Prop where
  sameId : earlier.id = later.id
  status : earlier.val.status = later.val.status
  moved : later.val.stock + soldQuantity after later.id =
    earlier.val.stock + soldQuantity before later.id
  lower : later.val.stock ≤ earlier.val.stock
  unsigned : 0 ≤ earlier.val.stock → 0 ≤ later.val.stock

/-- A product that nothing was sold of. -/
theorem Drawn.kept {row : Row Product} (same : soldQuantity after row.id = soldQuantity before row.id) :
    Drawn before after row row :=
  ⟨rfl, rfl, by rw [same], Int.le_refl _, id⟩

/-- A step takes from the stock of one product what it sells, and adds to no stock. Three of
the four commits do not touch products at all. -/
theorem Commit.drawn (commit : Commit P call before after) (keys : Schema P.collate before)
    {later : Row Product} (member : later ∈ after.products) :
    ∃ earlier ∈ before.products, Drawn before after earlier later := by
  cases commit with
  | @placed req placement _ _ placed =>
    rcases placed.products.mem_after_apart keys.productIds member with rfl | ⟨old, other⟩
    · refine ⟨placement.product, placed.present, rfl, rfl, ?_, ?_, fun _ => ?_⟩
      · have sold := placed.soldQuantity_eq placement.product.id
        rw [if_pos placed.chosen.symm] at sold
        simp only [Placement.sold]
        omega
      · have positive := placed.quantity.1
        simp only [Placement.sold]
        omega
      · exact Int.sub_nonneg.mpr placed.stocked
    · refine ⟨later, old, .kept ?_⟩
      rw [placed.soldQuantity_eq, if_neg fun clash => other (by rw [placed.chosen, clash]), Int.add_zero]
  | settled settled =>
    exact ⟨later, settled.products ▸ member, .kept (settled.soldQuantity_eq later.id)⟩
  | reconciled reconciled =>
    exact ⟨later, reconciled.products ▸ member, .kept (by rw [soldQuantity, reconciled.orders]; rfl)⟩
  | handled handled =>
    rw [handled.frame] at member ⊢
    exact ⟨later, member, .kept rfl⟩

/-- A reason stays. -/
theorem Commit.reason {other : Call} (commit : Commit P other before after)
    (keys : Schema P.collate before) (holds : call.Reason P.collate before) :
    call.Reason P.collate after := by
  cases call with
  | createOrder req =>
    intro product member named sale
    obtain ⟨earlier, old, drawn⟩ := commit.drawn keys member
    have short := holds earlier old (drawn.sameId.trans named) (by
      simpa [Product.onSale, drawn.status] using sale)
    exact Int.lt_of_le_of_lt drawn.lower short
  | reconcile billDate bill =>
    obtain ⟨batch, member, facts⟩ := holds
    exact ⟨batch, commit.evolves.batches member, facts⟩
  | handleCallback | listDiffs | handleDiff => trivial

end Reasons

/-- What a step does to the committed database: nothing, or one step of a call. The refusals
are then looked at commit by commit. -/
theorem reached_commit {P : Platform} {serves : Call → Prop} {first : Shared Db}
    {system next : Trade} {action : Action Call Env Fault} (formed : WellFormed P.collate first)
    (reached : Reached P (Admits serves) first system)
    (taken : system.step (engine P.collate) (program P) action = some next) :
    next.shared.committed = system.shared.committed ∨
      ∃ call, Commit P call system.shared.committed next.shared.committed := by
  rcases System.step_effect taken with ⟨request, -, rfl⟩ |
    ⟨caller, active, rest, present, publishing, -, rfl⟩ |
    ⟨caller, active, moved, -, -, -, -, store, -⟩
  · exact .inl rfl
  · exact .inr ⟨active.call, (reached_publication formed reached present publishing).1⟩
  · exact .inl store

/-- A finished call was not refused, or there is a reason to refuse it now. -/
theorem accepts_or_reason {P : Platform} {serves : Call → Prop} {first : Shared Db} {system : Trade}
    (formed : WellFormed P.collate first) (reached : Reached P (Admits serves) first system)
    {caller : Nat} {call : Call} {answer : Answer} {session : Connection}
    (present : system.calls[caller]? = some ⟨call, .done answer, session⟩) :
    Accepts call answer ∨ call.Reason P.collate system.shared.committed := by
  have lasting : ∀ (state : Trade) action next, Reached P (Admits serves) first state →
      state.step (engine P.collate) (program P) action = some next →
      ∀ call : Call, call.Reason P.collate state.shared.committed →
        call.Reason P.collate next.shared.committed := by
    intro state action next earlier taken call holds
    rcases reached_commit formed earlier taken with same | ⟨other, commit⟩
    · rwa [same]
    · exact commit.reason (reached_locking formed earlier).inv.1.schema holds
  have told : ∀ (call : Call) (db : Db),
      Told (engine P.collate) Change.Plain call.Tells db → call.Reason P.collate db :=
    fun _ _ => told_reason
  rcases reached_decided program_decides told lasting reached caller _ present with
    (⟨accepts, -⟩ | accepts) | holds
  · exact .inl accepts
  · exact .inl accepts
  · exact .inr holds

/-- A call that was refused was refused for a reason, which holds at every later moment: stock
only goes down and batches are never deleted. Every interleaving is meant, so the reason is
one of the committed database and not only of the snapshot that the call has read. -/
theorem reached_refused {P : Platform} {serves : Call → Prop} {first : Shared Db} {system : Trade}
    (formed : WellFormed P.collate first) (reached : Reached P (Admits serves) first system)
    {caller : Nat} {call : Call} {answer : Answer} {session : Connection} {code : ErrCode}
    (present : system.calls[caller]? = some ⟨call, .done answer, session⟩)
    (named : call.refusal = some code) (refused : answer.code = some code.toInt) :
    call.Reason P.collate system.shared.committed := by
  rcases accepts_or_reason formed reached present with accepts | holds
  · exact absurd refused (accepts code named)
  · exact holds

/-- Six mugs of ten. -/
def Shop.six (requestId : String) : Call := .createOrder ⟨requestId, "hash", 8, 1, 6⟩

/-- The day's reconciliation with a bill that names no payment. -/
def Shop.emptyBill : Call := .reconcile "2026-09-13" (some "#none\n")

/-- The second six mugs are refused, and so is the second run of the day. Both reasons still
hold when two more mugs are sold. -/
theorem mugs_refused : ∃ (system : Trade) (sale run : _),
    Reached Shop.platform (Admits fun _ => True) Shop.store system ∧
      system.calls[1]? = some sale ∧ sale.call = Shop.six "req-0002" ∧
      system.calls[3]? = some run ∧ run.call = Shop.emptyBill ∧
      system.shared.committed.products.map (·.val.stock) = [2] ∧
      sale.call.Reason Shop.platform.collate system.shared.committed ∧
      run.call.Reason Shop.platform.collate system.shared.committed := by
  have executed : ((Shop.run (fun _ _ => true)
      (.call (Shop.six "req-0001") :: Shop.advances 0 "7001" 11 ++
        .call (Shop.six "req-0002") :: Shop.advances 1 "7002" 7 ++
        .call Shop.emptyBill :: Shop.advances 2 "7003" 7 ++
        .call Shop.emptyBill :: Shop.advances 3 "7004" 4 ++
        .call (Shop.order "req-0003") :: Shop.advances 4 "7005" 11)).map fun system =>
      (system.shared.committed.products.map (·.val.stock),
        system.calls[1]?.map fun sale => (sale.call, sale.program.ended.bind Answer.code),
        system.calls[3]?.map fun run => (run.call, run.program.ended.bind Answer.code))) =
      some ([2], some (Shop.six "req-0002", some 30002), some (Shop.emptyBill, some 70002)) := by
    decide +kernel
  obtain ⟨system, ran, facts⟩ := Option.map_eq_some_iff.mp executed
  simp only [Prod.mk.injEq] at facts
  obtain ⟨stock, sold, reconciled⟩ := facts
  obtain ⟨sale, onSale, refused⟩ := Option.map_eq_some_iff.mp sold
  obtain ⟨run, running, repeated⟩ := Option.map_eq_some_iff.mp reconciled
  obtain ⟨its, saleCode⟩ := Prod.mk.inj refused
  obtain ⟨again, runCode⟩ := Prod.mk.inj repeated
  obtain ⟨answer, ended, told⟩ := Option.bind_eq_some_iff.mp saleCode
  obtain ⟨verdict, finished, said⟩ := Option.bind_eq_some_iff.mp runCode
  obtain ⟨call, program, session⟩ := sale
  obtain ⟨call', program', session'⟩ := run
  obtain rfl := Program.ended_eq.mp ended
  obtain rfl := Program.ended_eq.mp finished
  obtain rfl : call = Shop.six "req-0002" := its
  obtain rfl : call' = Shop.emptyBill := again
  have reached : Reached Shop.platform (Admits fun _ => True) Shop.store system :=
    reached_of_run ran
  exact ⟨system, _, _, reached, onSale, rfl, running, rfl, stock,
    reached_refused Shop.store_formed reached onSale rfl told,
    reached_refused Shop.store_formed reached running rfl said⟩

end TradeReconcile
