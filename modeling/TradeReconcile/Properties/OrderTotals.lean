import TradeReconcile.Properties.Replays

/-!
# Whether an order's total is its price times its quantity

The multiplication is done in 64 bits and only its result meets the column and
its CHECK. A price of DECIMAL(18,2) and a quantity of up to 999 reach far beyond
2^63, and a product that wraps around may land on an amount that the column
accepts. The total is exact for the orders whose product stays below 2^63, and
for no others.
-/

namespace TradeReconcile

open Transactions

/-- An order as the products explain it: its price is its product's, its quantity
was admitted, and its total is the product of both exactly below 2^63. -/
structure Totalled (products : List (Row Product)) (order : Order) : Prop where
  priced : ∃ product ∈ products, product.id = order.productId ∧
    product.val.priceFen = order.unitPriceFen
  quantity : 1 ≤ order.quantity ∧ order.quantity ≤ 999
  total : order.totalAmountFen = order.unitPriceFen * order.quantity ↔
    order.unitPriceFen * order.quantity < 2 ^ 63

/-- No price is negative and every order is explained. -/
structure Totals (db : Db) : Prop where
  prices : ∀ row ∈ db.products, 0 ≤ row.val.priceFen
  orders : ∀ row ∈ db.orders, Totalled db.products row.val

/-- A value that is not negative survives the wrap exactly if it is a signed word. -/
theorem wrap64_eq_iff {value : Int} (nonneg : 0 ≤ value) : wrap64 value = value ↔ value < 2 ^ 63 := by
  constructor
  · intro same
    have upper : value.bmod (2 ^ 64) < ((2 ^ 64 : Nat) + 1) / 2 := Int.bmod_lt (by decide)
    rw [wrap64] at same
    omega
  · intro below
    exact wrap64_of_fits value (by omega) below

section Totals

variable {P : Platform} {before after : Db}

/-- Order creation leaves every price alone. -/
theorem Placed.prices {req : CreateOrderReq} {placement : Placement}
    (placed : Placed P req placement before after) :
    before.products.map (fun row => (row.id, row.val.priceFen)) =
      after.products.map fun row => (row.id, row.val.priceFen) :=
  placed.products.map_eq (fun row => (row.id, row.val.priceFen)) rfl

/-- With the same prices an order stays explained. -/
theorem Totalled.of_prices {products later : List (Row Product)} {order : Order}
    (totalled : Totalled products order)
    (prices : products.map (fun row => (row.id, row.val.priceFen)) =
      later.map fun row => (row.id, row.val.priceFen)) : Totalled later order where
  priced := by
    obtain ⟨product, member, id, price⟩ := totalled.priced
    have listed : (order.productId, order.unitPriceFen) ∈
        products.map fun row => (row.id, row.val.priceFen) :=
      List.mem_map.mpr ⟨product, member, by rw [id, price]⟩
    rw [prices] at listed
    obtain ⟨same, present, pair⟩ := List.mem_map.mp listed
    exact ⟨same, present, congrArg Prod.fst pair, congrArg Prod.snd pair⟩
  quantity := totalled.quantity
  total := totalled.total

/-- A placed order is explained by the product it was placed on. -/
theorem Placed.totalled {req : CreateOrderReq} {placement : Placement}
    (placed : Placed P req placement before after)
    (prices : ∀ row ∈ before.products, 0 ≤ row.val.priceFen) :
    Totalled before.products placement.order.val := by
  obtain ⟨orderNo, clock, made⟩ := placed.order
  have price := prices placement.product placed.present
  obtain ⟨positive, atMost⟩ := placed.quantity
  have nonneg : 0 ≤ placement.product.val.priceFen * req.quantity :=
    Int.mul_nonneg price (Int.le_of_lt positive)
  rw [made]
  exact ⟨⟨placement.product, placed.present, placed.chosen, rfl⟩, ⟨positive, atMost⟩,
    wrap64_eq_iff nonneg⟩

/-- The order of a creation has the total that was computed for it. -/
theorem Placed.totals {req : CreateOrderReq} {placement : Placement}
    (placed : Placed P req placement before after) (totals : Totals before) : Totals after where
  prices row member := by
    obtain rfl | old := placed.products.mem_after member
    · exact totals.prices placement.product placed.present
    · exact totals.prices row old
  orders row member := by
    rw [placed.orders, List.mem_append, List.mem_singleton] at member
    obtain old | rfl := member
    · exact (totals.orders row old).of_prices placed.prices
    · exact (placed.totalled totals.prices).of_prices placed.prices

/-- A payment changes no quantity and no total. -/
theorem Settled.totals {req : PaymentCallbackReq} {rawBody : String} {settlement : Settlement}
    (settled : Settled P req rawBody settlement before after) (totals : Totals before) :
    Totals after where
  prices row member := totals.prices row (settled.products ▸ member)
  orders row member := by
    rw [settled.products]
    obtain rfl | old := settled.orders.mem_after member
    · obtain ⟨priced, quantity, total⟩ := totals.orders settlement.order settled.orderPresent
      exact ⟨priced, quantity, total⟩
    · exact totals.orders row old

/-- Every commit keeps the totals what they were computed as. -/
theorem Commit.totals {call : Call} (commit : Commit P call before after) (totals : Totals before) :
    Totals after := by
  cases commit with
  | placed placed => exact placed.totals totals
  | settled settled => exact settled.totals totals
  | reconciled reconciled =>
    rw [reconciled.frame]
    exact ⟨totals.prices, totals.orders⟩
  | handled handled =>
    rw [handled.frame]
    exact ⟨totals.prices, totals.orders⟩

end Totals

/-- In every store that concurrent calls reach, every created order has an admitted quantity,
and its total is exact if and only if its product's price times its quantity is below 2^63.
Both directions hold of every committed order; prices are as the products table has them. -/
theorem reached_totals {P : Platform} {serves : Call → Prop} {first : Shared Db} {system : Trade}
    (formed : WellFormed P.collate first)
    (prices : ∀ row ∈ first.committed.products, 0 ≤ row.val.priceFen)
    (orders : first.committed.orders = []) (reached : Reached P (Admits serves) first system) :
    ∀ row ∈ system.shared.committed.orders, Totalled system.shared.committed.products row.val := by
  have started : Totals first.committed := ⟨prices, by simp [orders]⟩
  exact (commits_invariant (fun _ _ commit totals => commit.totals totals) formed.schema started
    (reached_commits formed reached)).orders

namespace Shop

/-- A vault of 9708812670373448.22 yuan. -/
def vaults : Shared Db where
  committed :=
    { products := [⟨1, ⟨"P1", "vault", 970881267037344822, 100, 1⟩⟩]
      accounts := [⟨1, ⟨"A1", 8, 10000, 0, 0⟩⟩] }
  counter := 100

/-- The store of the vaults is well formed. -/
theorem vaults_formed : WellFormed platform.collate vaults := by
  constructor <;> constructor <;> simp [vaults, UniqueIds, UniqueKey]

/-- An order for some vaults, carried to its end. -/
def vaultsOrdered (quantity : Int) : Option Trade :=
  runFrom vaults (fun _ _ => true)
    (.call (.createOrder ⟨"req-0001", "hash", 8, 1, quantity⟩) :: advances 0 "7001" 11)

/-- The order that is stored. -/
def vaultOrder (quantity total : Int) : Row Order :=
  ⟨102, ⟨"7001", "req-0001", 8, 1, quantity, 970881267037344822, total, .kPendingPayment,
    "2026-09-13 13:28:16", ""⟩⟩

end Shop

/-- One vault costs its price: the product is below 2^63. -/
theorem vault_exact : ∃ system : Trade,
    Reached Shop.platform (Admits fun _ => True) Shop.vaults system ∧
    system.shared.committed.orders = [Shop.vaultOrder 1 970881267037344822] ∧
    Totalled system.shared.committed.products (Shop.vaultOrder 1 970881267037344822).val := by
  have executed : ((Shop.vaultsOrdered 1).map fun system => system.shared.committed.orders) =
      some [Shop.vaultOrder 1 970881267037344822] := by decide +kernel
  obtain ⟨system, ran, orders⟩ := Option.map_eq_some_iff.mp executed
  have reached : Reached Shop.platform (Admits fun _ => True) Shop.vaults system :=
    reached_of_run ran
  refine ⟨system, reached, orders, ?_⟩
  exact reached_totals Shop.vaults_formed (by decide) rfl reached _ (by simp [orders])

/-- Nineteen vaults cost two fen, since the multiplication of `createOrder` wraps around. -/
theorem vaults_wrapped : ∃ system : Trade,
    Reached Shop.platform (Admits fun _ => True) Shop.vaults system ∧
    (∀ row ∈ Shop.vaults.committed.products, 0 ≤ row.val.priceFen ∧ row.val.priceFen < 10 ^ 18) ∧
    ∃ row ∈ system.shared.committed.orders, row.val.quantity = 19 ∧ row.val.totalAmountFen = 2 ∧
      row.val.totalAmountFen ≠ row.val.unitPriceFen * row.val.quantity := by
  have executed : ((Shop.vaultsOrdered 19).map fun system => system.shared.committed.orders) =
      some [Shop.vaultOrder 19 2] := by decide +kernel
  obtain ⟨system, ran, orders⟩ := Option.map_eq_some_iff.mp executed
  exact ⟨system, reached_of_run ran, by decide, Shop.vaultOrder 19 2, by simp [orders], rfl, rfl,
    by decide⟩

end TradeReconcile
