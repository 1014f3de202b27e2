import TradeReconcile.Properties.Refusals
import TradeReconcile.Properties.Serialization

/-!
# A rush on one product

Any number of concurrent creations ask for the same quantity of one product, while the shop's
other calls go on. When all of them have been answered, as many were sold as stock and demand
allow, what was sold is missing from the stock and stands in the orders, and none of it was
sold twice.
-/

namespace TradeReconcile

open Transactions

/-- A creation of one product. -/
def Call.buys (productId : Nat) (call : Call) : Bool :=
  call.creation.any fun req => req.productId == productId

/-- A call on its way. -/
abbrev Running := Active Call Stmt Resp Env Fault Answer Db Change Lock

/-- A creation that was answered with a fresh success. -/
def bought (productId : Nat) (active : Running) : Bool :=
  active.call.buys productId && active.program.ended.any (fresh active.call)

/-- A creation that was answered that the stock is too small. -/
def soldOut (productId : Nat) (active : Running) : Bool :=
  active.call.buys productId &&
    active.program.ended.any fun answer => answer.code == some ErrCode.kStockNotEnough.toInt

/-- Orders of a product. -/
def orderCount (productId : Nat) (db : Db) : Nat :=
  db.orders.countP fun row => row.val.productId == productId

/-- All creations of the product ask for one quantity and have been answered. -/
def Rush (productId : Nat) (quantity : Int) (system : Trade) : Prop :=
  ∀ active ∈ system.calls, ∀ req, active.call.creation = some req → req.productId = productId →
    req.quantity = quantity ∧ active.program.ended.isSome = true

section Orders

variable {P : Platform} {call : Call} {before after : Db}

/-- Buyers of a product create orders for it. -/
theorem Call.buys_iff {productId : Nat} :
    call.buys productId = true ↔ ∃ req, call = .createOrder req ∧ req.productId = productId := by
  cases call <;> simp [buys, creation]

/-- Only a creation adds an order, and it adds one of its own product and quantity. -/
theorem Commit.orderCount_eq (commit : Commit P call before after) (productId : Nat) :
    orderCount productId after = orderCount productId before +
      if call.buys productId = true then 1 else 0 := by
  cases commit with
  | @placed req placement _ _ placed =>
    obtain ⟨orderNo, clock, made⟩ := placed.order
    rw [orderCount, placed.orders, List.countP_append]
    simp [orderCount, made, OrderService.buildOrder, Call.buys, Call.creation]
  | settled settled =>
    obtain ⟨left, right, old, new⟩ := settled.orders
    simp [orderCount, old, new, List.countP_cons, Settlement.paidOrder, Call.buys, Call.creation]
  | reconciled reconciled =>
    simp [orderCount, reconciled.orders, Call.buys, Call.creation]
  | handled handled =>
    rw [handled.frame]
    simp [orderCount, Call.buys, Call.creation]

/-- Every commit of a buyer sells the one quantity, and others sell nothing. -/
theorem Commit.soldQuantity_eq (commit : Commit P call before after) (productId : Nat)
    {quantity : Int} (same : ∀ req, call.creation = some req → req.productId = productId →
      req.quantity = quantity) :
    soldQuantity after productId = soldQuantity before productId +
      if call.buys productId = true then quantity else 0 := by
  cases commit with
  | @placed req placement _ _ placed =>
    rw [placed.soldQuantity_eq]
    by_cases asked : req.productId = productId
    · simp [Call.buys, Call.creation, asked, same req rfl asked]
    · simp [Call.buys, Call.creation, asked]
  | settled settled => simp [settled.soldQuantity_eq, Call.buys, Call.creation]
  | reconciled reconciled => simp [soldQuantity, reconciled.orders, Call.buys, Call.creation]
  | handled handled =>
    rw [handled.frame]
    simp [soldQuantity, Call.buys, Call.creation]

end Orders

section Rushes

variable {P : Platform} {serves : Call → Prop} {first : Shared Db} {system : Trade}
  {productId : Nat} {quantity : Int}

/-- An entry of the serial order that a creation of the product made. -/
def buysAt (productId : Nat) (system : Trade) (caller : Nat) : Bool :=
  system.calls[caller]?.any fun active => active.call.buys productId

/-- The order has one entry for each creation that bought. Each call publishes at most once,
so entries and successful calls correspond one to one. -/
theorem Rush.entries (rush : Rush productId quantity system) {order : List (Nat × (Db × Db))}
    (serialized : Serialized P first.committed system order) :
    order.countP (fun entry => buysAt productId system entry.1) =
      system.calls.countP (bought productId) := by
  have same : ((order.map Prod.fst).filter (buysAt productId system)).Perm
      ((List.range system.calls.length).filter fun caller =>
        system.calls[caller]?.any (bought productId)) := by
    refine (List.perm_ext_iff_of_nodup (serialized.once.filter _)
      (List.nodup_range.filter _)).mpr fun caller => ?_
    rw [List.mem_filter, List.mem_filter, List.mem_range]
    cases stored : system.calls[caller]? with
    | none => simp [buysAt, stored]
    | some active =>
      obtain ⟨call, program, session⟩ := active
      have inside : caller < system.calls.length := (List.getElem?_eq_some_iff.mp stored).1
      simp only [buysAt, stored, Option.any_some, inside, true_and, bought, Bool.and_eq_true]
      by_cases buys : call.buys productId = true
      · obtain ⟨req, rfl, named⟩ := Call.buys_iff.mp buys
        obtain ⟨answer, ended⟩ := Option.isSome_iff_exists.mp
          (rush _ (List.mem_of_getElem? stored) req rfl named).2
        obtain rfl := Program.ended_eq.mp ended
        simp [buys, serialized.answered caller _ _ _ stored, Program.ended]
      · simp [buys]
  rw [countP_positions system.calls, List.countP_eq_length_filter (l := List.range _), ← same.length_eq,
    ← List.countP_eq_length_filter, List.countP_map]
  rfl

/-- What has become of a product: it has lost what was sold of it, and nothing else has
changed. -/
structure Stocked (opened : Row Product) (first db : Db) (product : Row Product) : Prop where
  present : product ∈ db.products
  sameId : product.id = opened.id
  status : product.val.status = opened.val.status
  unsigned : 0 ≤ opened.val.stock → 0 ≤ product.val.stock
  stock : product.val.stock + soldQuantity db opened.id =
    opened.val.stock + soldQuantity first opened.id

/-- The product stays where it was, with the stock that the sold quantity leaves. -/
theorem reached_stocked (formed : WellFormed P.collate first)
    (reached : Reached P (Admits serves) first system) {opened : Row Product}
    (present : opened ∈ first.committed.products) :
    ∃ product, Stocked opened first.committed system.shared.committed product := by
  have kept : ∀ {call before after}, serves call → Schema P.collate before →
      Commit P call before after → (∃ product, Stocked opened first.committed before product) →
      ∃ product, Stocked opened first.committed after product := by
    rintro call before after - keys commit ⟨product, stocked⟩
    obtain ⟨later, member, sameId, -⟩ := commit.evolves.products product stocked.present
    obtain ⟨earlier, old, drawn⟩ := commit.drawn keys member
    obtain rfl : earlier = product := keys.productIds.eq_of_id old stocked.present
      (drawn.sameId.trans sameId)
    have moved := drawn.moved
    rw [sameId, stocked.sameId] at moved
    exact ⟨later, member, sameId.trans stocked.sameId, drawn.status.symm.trans stocked.status,
      fun positive => drawn.unsigned (stocked.unsigned positive), moved.trans stocked.stock⟩
  exact commits_invariant kept formed.schema ⟨opened, present, rfl, rfl, id, rfl⟩
    (reached_commits formed reached)

/-- What a rush leaves behind: the sales, and what is missing from the stock for them. The
last two fields are about calls that have been refused for lack of stock. -/
structure SoldExactly (productId : Nat) (quantity : Int) (opened : Row Product) (first : Db)
    (system : Trade) : Prop where
  stock : ∃ product ∈ system.shared.committed.products, product.id = productId ∧
    product.val.stock = opened.val.stock - quantity * system.calls.countP (bought productId)
  orders : orderCount productId system.shared.committed =
    orderCount productId first + system.calls.countP (bought productId)
  atMost : (system.calls.countP (bought productId) : Int) ≤ opened.val.stock / quantity
  exhausted : 0 < system.calls.countP (soldOut productId) →
    (system.calls.countP (bought productId) : Int) = opened.val.stock / quantity
  exactly : system.calls.countP (bought productId) + system.calls.countP (soldOut productId) =
      system.calls.countP (fun active => active.call.buys productId) →
    (system.calls.countP (bought productId) : Int) =
      min ↑(system.calls.countP fun active => active.call.buys productId)
        (opened.val.stock / quantity)

/-- Where a creation was refused for lack of stock, less is left than one quantity. -/
theorem soldOut_short (formed : WellFormed P.collate first)
    (reached : Reached P (Admits serves) first system) (rush : Rush productId quantity system)
    {caller : Nat} {active : Running} (stored : system.calls[caller]? = some active)
    (out : soldOut productId active = true) {product : Row Product}
    (present : product ∈ system.shared.committed.products) (named : product.id = productId)
    (onSale : product.val.onSale = true) : product.val.stock < quantity := by
  obtain ⟨call, program, session⟩ := active
  simp only [soldOut, Bool.and_eq_true, Option.any_eq_true, beq_iff_eq] at out
  obtain ⟨buys, answer, ended, refused⟩ := out
  obtain ⟨req, rfl, asked⟩ := Call.buys_iff.mp buys
  obtain rfl := Program.ended_eq.mp ended
  have same := (rush _ (List.mem_of_getElem? stored) req rfl asked).1
  rcases accepts_or_reason formed reached stored with accepts | reason
  · exact absurd refused (accepts .kStockNotEnough rfl)
  · exact same ▸ reason product present (named.trans asked.symm) onSale

/-- However the calls of a rush interleave, it ends with exactly these sales: as many
successes as the stock admits, and a refusal for each of the rest. No order of arrival is
assumed; the product's row lock lines the calls up. -/
theorem reached_soldExactly (formed : WellFormed P.collate first)
    (reached : Reached P (Admits serves) first system) {opened : Row Product}
    (present : opened ∈ first.committed.products) (onSale : opened.val.onSale = true)
    (unsigned : 0 ≤ opened.val.stock) (positive : 0 < quantity)
    (rush : Rush opened.id quantity system) :
    SoldExactly opened.id quantity opened first.committed system := by
  obtain ⟨order, ordered⟩ := reached_inOrder reached
  have serialized := inOrder_serialized formed reached ordered
  -- The entries that creations of the product made, and what each of them did.
  have entries := rush.entries serialized
  have effect : ∀ entry ∈ order, ∃ active, system.calls[entry.1]? = some active ∧
      Commit P active.call entry.2.1 entry.2.2 ∧
      buysAt opened.id system entry.1 = active.call.buys opened.id := by
    intro entry member
    obtain ⟨active, stored, commit⟩ := serialized.effect entry member
    exact ⟨active, stored, commit, by simp [buysAt, stored]⟩
  have counted : (orderCount opened.id system.shared.committed : Int) =
      orderCount opened.id first.committed + 1 * system.calls.countP (bought opened.id) := by
    rw [← entries]
    refine linked_count (fun db => (orderCount opened.id db : Int)) 1 serialized.linked ?_
    intro entry member
    obtain ⟨active, stored, commit, same⟩ := effect entry member
    rw [same, commit.orderCount_eq]
    push_cast
    rfl
  have sold : soldQuantity system.shared.committed opened.id =
      soldQuantity first.committed opened.id + quantity * system.calls.countP (bought opened.id) := by
    rw [← entries]
    refine linked_count (fun db => soldQuantity db opened.id) quantity serialized.linked ?_
    intro entry member
    obtain ⟨active, stored, commit, same⟩ := effect entry member
    rw [same]
    exact commit.soldQuantity_eq opened.id fun req made named =>
      (rush active (List.mem_of_getElem? stored) req made named).1
  obtain ⟨product, stocked⟩ := reached_stocked formed reached present
  have left : product.val.stock =
      opened.val.stock - quantity * system.calls.countP (bought opened.id) := by
    have total := stocked.stock
    omega
  have atMost : (system.calls.countP (bought opened.id) : Int) ≤ opened.val.stock / quantity := by
    have remaining := stocked.unsigned unsigned
    rw [Int.le_ediv_iff_mul_le positive, Int.mul_comm]
    omega
  have exhausted : 0 < system.calls.countP (soldOut opened.id) →
      (system.calls.countP (bought opened.id) : Int) = opened.val.stock / quantity := by
    intro some
    obtain ⟨active, member, out⟩ := List.countP_pos_iff.mp some
    obtain ⟨caller, stored⟩ := List.mem_iff_getElem?.mp member
    have short := soldOut_short formed reached rush stored out stocked.present stocked.sameId
      (by simpa [Product.onSale, stocked.status] using onSale)
    have remaining := stocked.unsigned unsigned
    refine ((Int.ediv_emod_unique positive).mpr ⟨?_, remaining, short⟩).1.symm
    omega
  constructor
  · exact ⟨product, stocked.present, stocked.sameId, left⟩
  · omega
  · exact atMost
  · exact exhausted
  · intro all
    rcases Nat.eq_zero_or_pos (system.calls.countP (soldOut opened.id)) with none | some
    · omega
    · have sales := exhausted some
      omega

end Rushes

/-- The shop's mugs. -/
def Shop.mugRow : Row Product := ⟨1, ⟨"P1", "mug", 1995, 10, 1⟩⟩

/-- Two creations of six mugs each, one after the other at the product's lock: ten mugs allow
for one of them. -/
theorem mugs_soldExactly : ∃ system,
    Reached Shop.platform (Admits fun _ => True) Shop.store system ∧
      system.calls.countP (fun active => active.call.buys 1) = 2 ∧
      system.calls.countP (bought 1) = 1 ∧
      SoldExactly 1 6 Shop.mugRow Shop.store.committed system := by
  have executed : ((Shop.run (fun _ _ => true)
      (.call (Shop.six "req-0001") :: Shop.advances 0 "7001" 4 ++
        .call (Shop.six "req-0002") :: Shop.advances 1 "7002" 4 ++
        Shop.advances 0 "7001" 7 ++ Shop.advances 1 "7002" 3)).map fun system =>
      (system.calls.countP (fun active => active.call.buys 1), system.calls.countP (bought 1),
        system.calls.all fun active => (active.call.creation.all fun req => req.quantity == 6) &&
          active.program.ended.isSome)) = some (2, 1, true) := by decide +kernel
  obtain ⟨system, ran, facts⟩ := Option.map_eq_some_iff.mp executed
  obtain ⟨buyers, rest⟩ := Prod.mk.inj facts
  obtain ⟨sales, all⟩ := Prod.mk.inj rest
  have rush : Rush Shop.mugRow.id 6 system := by
    intro active member req made named
    have each := List.all_eq_true.mp all active member
    simp only [made, Option.all_some, Bool.and_eq_true, beq_iff_eq] at each
    exact each
  have reached : Reached Shop.platform (Admits fun _ => True) Shop.store system :=
    reached_of_run ran
  exact ⟨system, reached, buyers, sales, reached_soldExactly Shop.store_formed reached
    (by simp [Shop.mugRow, Shop.store]) (by decide) (by decide) (by decide) rush⟩

end TradeReconcile
