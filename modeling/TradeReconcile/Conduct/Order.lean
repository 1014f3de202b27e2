import TradeReconcile.Conduct.Guard

/-!
# Creating an order under interference

The claim on the request id is the first statement and takes no snapshot, so a
request that finds the id taken reads the winner's committed row. After the claim
the locks on the request id, the product and the order's keys keep true what the
final step needs.
-/

namespace TradeReconcile

open Transactions

namespace OrderService

/-- How a creation ends: with a fault, a refusal, a stored row of the same request
id, or a placed order. -/
inductive OrderEnd (P : Platform) (req : CreateOrderReq) :
    Except Exn CreateOrderOutcome → List (Db × Db) → Shared Db → Prop where
  | faulted (fault : Fault) (shared : Shared Db) : OrderEnd P req (.error (.fault fault)) [] shared
  | refused {code : ErrCode} {message : String} {shared : Shared Db} :
      code ∈ [ErrCode.kProductNotFound, .kStockNotEnough] →
      OrderEnd P req (.error (.biz code message)) [] shared
  | duplicate {row : Row Idempotent} {shared : Shared Db} :
      row ∈ shared.committed.idempotents →
      P.collate row.val.requestId = P.collate req.requestId → row.val.status ≠ .kSuccess →
      OrderEnd P req (.ok (.kExecuted (Result.fail .kDuplicateRequest
        ErrCode.kDuplicateRequest.toMessage req.requestId))) [] shared
  | cached {row : Row Idempotent} {shared : Shared Db} :
      row ∈ shared.committed.idempotents →
      P.collate row.val.requestId = P.collate req.requestId → row.val.status = .kSuccess →
      OrderEnd P req (.ok (.kCached row.val.responseBody)) [] shared
  | executed {placement : Placement} {before after : Db} {shared : Shared Db} :
      Placed P req placement before after → Evolves after shared.committed →
      OrderEnd P req (.ok (.kExecuted (Result.ok placement.order.val req.requestId)))
        [(before, after)] shared

section Walk

variable {P : Platform} {D : Discipline Call Db Change Lock Env} {req : CreateOrderReq}

/-- How a creation may end goes on holding while others take turns. -/
theorem order_ending (trading : Trading P D (.createOrder req)) : Ending D (.createOrder req) (OrderEnd P req) where
  faulted := .faulted
  lasting := by
    intro outcome history session before after moved _ ended
    have evolved := (trading.relies moved).evolves
    cases ended with
    | faulted fault => exact .faulted fault after
    | refused code => exact .refused code
    | duplicate member same status => exact .duplicate (evolved.idempotents member) same status
    | cached member same status => exact .cached (evolved.idempotents member) same status
    | executed placed evolves => exact .executed placed (evolves.trans evolved)

/-- The rest of a creation is safe from this connection and store. -/
abbrev Judged (P : Platform) (D : Discipline Call Db Change Lock Env) (req : CreateOrderReq)
    (code : Guarded CreateOrderOutcome) (session : Connection) (shared : Shared Db) : Prop :=
  Guarded.Safe P D (.createOrder req) (OrderEnd P req) code false session shared

/-- The request id is claimed: its record is written, and its key was free. The lock that the
insert has taken keeps it so until the call commits or gives up. -/
structure Claimed (P : Platform) (req : CreateOrderReq) (record : Row Idempotent)
    (shared : Shared Db) : Prop where
  made : ∃ clock, record.val = buildIdempotentRecord req clock
  reserved : Reserved record.id shared
  free : shared.committed.hasIdempotent P.collate req.requestId = false

/-- The row and the key of the record that claims a request. -/
def claimLocks (collate : String → String) (req : CreateOrderReq) (record : Row Idempotent) :
    List Lock :=
  [.rowNumber record.id, .idempotentRequest (collate req.requestId)]

/-- The claim stays the only one of its request. -/
theorem Claimed.kept {record : Row Idempotent} {session : Connection} {before after : Shared Db}
    (claimed : Claimed P req record before) (moved : Relies P.collate session before after)
    (held : claimLocks P.collate req record ⊆ session.locks) : Claimed P req record after where
  made := claimed.made
  reserved := claimed.reserved.kept moved (held (by simp [claimLocks]))
  free := idempotentKey_kept moved (held (by simp [claimLocks])) claimed.free

/-- Claiming the request id, or answering from the row that has it. The read after
a lost claim is the first one of its transaction and sees the winner. -/
theorem tryAcquire_safe (trading : Trading P D (.createOrder req))
    {next : IdempotentOutcome → Guarded CreateOrderOutcome} {clock : Int} {shared : Shared Db}
    (cached : ∀ body, next (.kCachedSuccess body) = pure (.kCached body))
    (processing : next .kProcessing = pure (.kExecuted (Result.fail .kDuplicateRequest
      ErrCode.kDuplicateRequest.toMessage req.requestId)))
    (rest : ∀ (now : Shared Db) (record : Row Idempotent), D.Inv now →
      Claimed P req record now →
      Judged P D req (next .kAcquired)
        ⟨none, [.idempotent record], claimLocks P.collate req record, []⟩ now) :
    Judged P D req (IdempotentDao.tryAcquire (buildIdempotentRecord req clock) >>= next) .idle
      shared := by
  have ending : Ending D (.createOrder req) _ := order_ending trading
  simp only [IdempotentDao.tryAcquire, bind_assoc]
  apply Guarded.write_safe ending rfl rfl
  intro now env affected changes moved holds ran
  obtain ⟨-, ⟨clash, rfl, rfl⟩ | ⟨free, rfl, rfl⟩⟩ := insertOrKeep_ok ran
  · simp only [Nat.zero_ne_one, if_false, bind_assoc]
    apply Guarded.select_safe ending rfl rfl
    intro later env reply changes further steady ran
    obtain rfl : (later.committed.findIdempotent P.collate req.requestId).map
        (fun row => (row.val.status, row.val.responseBody)) = reply :=
      congrArg Prod.fst (Except.ok.inj ran)
    obtain ⟨winner, member, same⟩ := List.any_eq_true.mp clash
    have stays := (trading.relies further).evolves.idempotents member
    cases found : later.committed.findIdempotent P.collate req.requestId with
    | none => exact absurd same (List.find?_eq_none.mp found winner stays)
    | some row =>
      have present : row ∈ later.committed.idempotents := List.mem_of_find?_eq_some found
      have same : P.collate row.val.requestId = P.collate req.requestId := by
        simpa using List.find?_some found
      simp only [Option.map_some]
      cases status : row.val.status with
      | kSuccess =>
        simp only [pure_bind, cached]
        exact Guarded.return_safe ending (.cached present same status)
      | kProcessing | kFailed =>
        simp only [pure_bind, processing]
        exact Guarded.return_safe ending (.duplicate present same (by simp [status]))
  · simp only [if_true, pure_bind]
    exact rest now.tick ⟨now.counter, _⟩ (D.tick (.createOrder req) .idle now holds).1
      ⟨⟨clock, rfl⟩, (trading.formed holds).reserved, free⟩

/-- The product row is locked and has the stock, whatever the snapshot says. -/
structure Stocked (req : CreateOrderReq) (product : Row Product) (shared : Shared Db) : Prop where
  present : product ∈ shared.committed.products
  chosen : product.id = req.productId
  onSale : product.val.onSale = true
  stocked : req.quantity ≤ product.val.stock

/-- The product stays as it was found while it is locked. -/
theorem Stocked.kept {collate : String → String} {product : Row Product} {session : Connection}
    {before after : Shared Db} (stocked : Stocked req product before)
    (moved : Relies collate session before after) (held : .product product.id ∈ session.locks) :
    Stocked req product after where
  present := product_kept moved held stocked.present
  chosen := stocked.chosen
  onSale := stocked.onSale
  stocked := stocked.stocked

/-- The order row is claimed: it is the one that the request and the product as it was read
make, it fits its columns, and its two keys were free. -/
structure Drafted (P : Platform) (req : CreateOrderReq) (product : Row Product) (order : Row Order)
    (shared : Shared Db) : Prop where
  made : ∃ orderNo clock, order.val = buildOrder req product.val orderNo clock
  fits : order.val.fits = true
  reserved : Reserved order.id shared
  free : shared.committed.hasOrderKey P.collate order.val = false

/-- The row and the keys of an inserted order. -/
def orderLocks (collate : String → String) (order : Row Order) : List Lock :=
  [.rowNumber order.id, .orderNo (collate order.val.orderNo),
    .orderRequest (collate order.val.requestId)]

/-- The drafted order keeps its number and its request to itself. -/
theorem Drafted.kept {product : Row Product} {order : Row Order} {session : Connection}
    {before after : Shared Db} (drafted : Drafted P req product order before)
    (moved : Relies P.collate session before after)
    (held : orderLocks P.collate order ⊆ session.locks) : Drafted P req product order after where
  made := drafted.made
  fits := drafted.fits
  reserved := drafted.reserved.kept moved (held (by simp [orderLocks]))
  free := orderKey_kept moved (held (by simp [orderLocks])) (held (by simp [orderLocks]))
    drafted.free

/-- The image that the deduction writes. -/
def soldImage (product : Row Product) (quantity : Int) : Row Product :=
  ⟨product.id, { product.val with stock := product.val.stock - quantity }⟩

/-- The image that `markSuccess` writes. -/
def answeredImage (record : Row Idempotent) (body : String) : Row Idempotent :=
  ⟨record.id, { record.val with status := .kSuccess, responseBody := body }⟩

/-- The placement that the pending rows amount to. -/
def placementOf (P : Platform) (req : CreateOrderReq) (product : Row Product) (order : Row Order)
    (record : Row Idempotent) : Placement :=
  ⟨product, order, answeredImage record (replyBody P order.val req.requestId)⟩

/-- The pending images of a complete creation; the request id's row has two. -/
def images (P : Platform) (req : CreateOrderReq) (product : Row Product) (order : Row Order)
    (record : Row Idempotent) : List Change :=
  [.idempotent record, .product (soldImage product req.quantity), .order order,
    .idempotent (placementOf P req product order record).record]

/-- What the statements have established places the order. The stock was taken from the latest
committed row under its lock, which is why it cannot have gone below zero meanwhile. -/
theorem placed_images {product : Row Product} {order : Row Order} {record : Row Idempotent}
    {shared : Shared Db} (formed : WellFormed P.collate shared)
    (quantity : 0 < req.quantity ∧ req.quantity ≤ kMaxQuantity)
    (claimed : Claimed P req record shared) (stocked : Stocked req product shared)
    (drafted : Drafted P req product order shared) :
    Placed P req (placementOf P req product order record) shared.committed
      ((engine P.collate).overlay shared.committed (images P req product order record)) where
  quantity := quantity
  present := stocked.present
  chosen := stocked.chosen
  onSale := stocked.onSale
  stocked := stocked.stocked
  order := drafted.made
  fits := drafted.fits
  record := by
    obtain ⟨clock, made⟩ := claimed.made
    exact ⟨clock, by simp [placementOf, answeredImage, made]⟩
  recordUnused := claimed.reserved.unused
  orderUnused := drafted.reserved.unused
  requestFree := claimed.free
  orderFree := drafted.free
  products := putRow_replaced formed.schema.productIds stocked.present rfl
  orders := putRow_new drafted.reserved.unused.orders
  idempotents := putRow_twice claimed.reserved.unused.idempotents rfl
  accounts := rfl
  flows := rfl
  payments := rfl
  messages := rfl
  batches := rfl
  diffs := rfl

/-- Storing the reply and committing, when everything else is in place. The commit publishes
the whole placement, so what was gathered on the way is now used. -/
theorem finish_safe (trading : Trading P D (.createOrder req)) {seen : Db} {product : Row Product} {order : Row Order}
    {record : Row Idempotent} {shared : Shared Db}
    (quantity : 0 < req.quantity ∧ req.quantity ≤ kMaxQuantity)
    (claimed : Claimed P req record shared) (stocked : Stocked req product shared)
    (drafted : Drafted P req product order shared) :
    Judged P D req
      (do
        let _ ← Guarded.execSqlSync
          (.idempotentMarkSuccess req.requestId (replyBody P order.val req.requestId))
        Guarded.commit
        return .kExecuted (Result.ok order.val req.requestId))
      ⟨some seen, [.idempotent record, .product (soldImage product req.quantity), .order order],
        claimLocks P.collate req record ++ [.product product.id] ++ orderLocks P.collate order, []⟩
      shared := by
  have ending : Ending D (.createOrder req) _ := order_ending trading
  apply Guarded.write_safe ending rfl rfl
  intro now env affected changes moved holds ran
  have entry := trading.relies moved
  have claimedNow := claimed.kept entry (by simp)
  simp only [execute] at ran
  split at ran
  case isTrue => simp at ran
  -- The claimed row is the only one with the request id.
  have selected : (putRow now.committed.idempotents record).filter (fun row =>
      P.collate row.val.requestId == P.collate req.requestId && row.val.status == .kProcessing) =
      [record] := by
    obtain ⟨clock, made⟩ := claimedNow.made
    have free := claimedNow.free
    rw [Db.hasIdempotent, List.any_eq_false] at free
    rw [putRow_new claimedNow.reserved.unused.idempotents, List.filter_append,
      List.filter_eq_nil_iff.mpr (fun row member chosen => free row member (by simp_all))]
    simp [made, buildIdempotentRecord]
  have wrote : [Change.idempotent (placementOf P req product order record).record] = changes := by
    have images := congrArg Prod.snd (Except.ok.inj ran)
    change List.map _ (List.filter _ (putRow now.committed.idempotents record)) = changes at images
    rw [selected] at images
    exact images
  subst wrote
  apply Guarded.commit_safe trading ending rfl (by simp)
  intro last further steady
  have all := entry.ticked.trans ((trading.relies further).weaken (List.subset_append_left _ _))
  have claimedLast := claimed.kept all (by simp [claimLocks])
  have draftedLast := drafted.kept all (by simp)
  have placed : Placed P req (placementOf P req product order record) last.committed _ :=
    placed_images (trading.formed steady) quantity claimedLast (stocked.kept all (by simp))
      draftedLast
  have covers : (placementOf P req product order record).locks P.collate ⊆
      claimLocks P.collate req record ++ [.product product.id] ++ orderLocks P.collate order := by
    rw [Placement.locks, placed.record_requestId]
    exact List.Subset.refl _
  refine ⟨.placed placed, .of_other (by simp), ⟨placed.schema (trading.formed steady).schema,
    placed.rowNumbers (trading.formed steady).numbered draftedLast.reserved.issued
      claimedLast.reserved.issued⟩,
    placed.evolves, fun lock free => placed.agree fun held => free ?_,
    .executed placed (Evolves.refl _)⟩
  exact List.mem_append_left _ (covers held)

/-- The product of the snapshot and the locked row are versions of one row, so the
order is built from the current price. -/
theorem product_version {collate : String → String} {seen : Db} {shared : Shared Db}
    (formed : WellFormed collate shared) (evolved : Evolves seen shared.committed)
    {found product : Row Product} (first : found ∈ seen.products)
    (present : product ∈ shared.committed.products) (same : product.id = found.id) :
    product.val.priceFen = found.val.priceFen := by
  obtain ⟨later, member, sameId, version⟩ := evolved.products found first
  obtain rfl : later = product :=
    formed.schema.productIds.eq_of_id member present (sameId.trans same.symm)
  rw [version]

/-- Steps 2 to 6, after the claim. Each step adds what it has found to what the later ones may
rely on. -/
theorem place_safe (trading : Trading P D (.createOrder req)) {record : Row Idempotent} {shared : Shared Db}
    (quantity : 0 < req.quantity ∧ req.quantity ≤ kMaxQuantity)
    (claimed : Claimed P req record shared) :
    Judged P D req (place P req)
      ⟨none, [.idempotent record], claimLocks P.collate req record, []⟩ shared := by
  have ending : Ending D (.createOrder req) _ := order_ending trading
  apply Guarded.select_safe ending rfl rfl
  intro first env reply changes moved holds ran
  have entry := trading.relies moved
  obtain rfl : (first.committed.findProduct req.productId).map (·.val) = reply :=
    congrArg Prod.fst (Except.ok.inj ran)
  cases found : first.committed.findProduct req.productId with
  | none => exact Guarded.raise_safe ending (.refused (by simp))
  | some old =>
    have oldPresent : old ∈ first.committed.products := List.mem_of_find?_eq_some found
    have oldId : old.id = req.productId := by simpa using List.find?_some found
    simp only [Option.map_some]
    split
    · exact Guarded.raise_safe ending (.refused (by simp))
    apply Guarded.write_safe ending rfl rfl
    intro now env affected changes moved holds ran
    have formed := trading.formed holds
    have evolved := (trading.relies moved).evolves
    replace entry := entry.trans ((trading.relies moved).ticked.weaken (List.Subset.refl _))
    rcases updateRows_unique (Except.ok.inj ran) formed.schema.productIds
      (by
        intro row _ selected
        simp only [Bool.and_eq_true, beq_iff_eq] at selected
        exact selected.1.1) with ⟨rfl, rfl, absent⟩ | ⟨product, present, selected, rfl, rfl⟩
    · exact Guarded.raise_safe ending (.refused (by simp))
    simp only [Bool.and_eq_true, beq_iff_eq, decide_eq_true_eq] at selected
    obtain ⟨⟨chosen, enough⟩, selling⟩ := selected
    have price := product_version formed evolved oldPresent present (chosen.trans oldId.symm)
    have stocked : Stocked req product now.tick :=
      ⟨present, chosen, by simpa [Product.onSale] using selling, enough⟩
    have locked : statementLocks P.collate (.productDeductStock req.productId req.quantity)
        now.counter ((engine P.collate).overlay now.committed [.idempotent record]) =
        [.product product.id] := by rw [chosen]; rfl
    rw [if_neg (by simp), locked]
    refine Guarded.nextId_safe ending rfl fun later orderNo moved _ _ => ?_
    replace stocked := stocked.kept (trading.relies moved) (by simp)
    replace entry := entry.trans ((trading.relies moved).weaken (List.subset_append_left _ _))
    refine Guarded.clock_safe fun later clock moved _ => ?_
    replace stocked := stocked.kept (trading.relies moved) (by simp)
    replace entry := entry.trans ((trading.relies moved).weaken (List.subset_append_left _ _))
    apply Guarded.write_safe ending rfl rfl
    intro last env affected changes moved steady ran
    replace stocked := stocked.kept (trading.relies moved).ticked (by simp)
    replace entry := entry.trans
      ((trading.relies moved).ticked.weaken (List.subset_append_left _ _))
    obtain ⟨fits, free, rfl, rfl⟩ := insertRow_ok ran
    have drafted : Drafted P req product ⟨last.counter, buildOrder req old.val orderNo clock⟩
        last.tick :=
      ⟨⟨orderNo, clock, by simp [buildOrder, price]⟩, fits, (trading.formed steady).reserved, free⟩
    exact finish_safe trading quantity (claimed.kept entry (List.Subset.refl _)) stocked drafted

/-- The whole body of a creation. -/
theorem createOrderBody_safe (trading : Trading P D (.createOrder req)) (shared : Shared Db)
    (quantity : 0 < req.quantity ∧ req.quantity ≤ kMaxQuantity) :
    Judged P D req (createOrderBody P req) .idle shared := by
  refine Guarded.clock_safe fun first clock _ _ => ?_
  apply tryAcquire_safe trading (fun _ => rfl) rfl
  intro now record _ claimed
  exact place_safe trading quantity claimed

/-- A creation locks no request id but its own. -/
def OwnRequest (collate : String → String) (requestId : String) : Lock → Prop
  | .idempotentRequest key => key = collate requestId
  | _ => True

/-- A creation touches the records and orders of its own request only, whichever way it
goes. -/
theorem createOrder_confined (P : Platform) (req : CreateOrderReq) :
    (createOrder P req).Confined (engine P.collate) (OwnRequest P.collate req.requestId) := by
  have placing : Guarded.Confined P (OwnRequest P.collate req.requestId) (place P req) := by
    apply Guarded.bind_everywhere (Guarded.exec_everywhere (by simp [statementLocks]))
    rintro (_ | product)
    · exact Guarded.raise_everywhere _
    simp only
    split
    · exact Guarded.raise_everywhere _
    refine Guarded.bind_everywhere (Guarded.exec_everywhere (by simp [statementLocks, OwnRequest]))
      fun deducted => ?_
    split
    · exact Guarded.raise_everywhere _
    refine Guarded.bind_everywhere Guarded.nextId_everywhere fun orderNo => ?_
    refine Guarded.bind_everywhere Guarded.clock_everywhere fun clock => ?_
    refine Guarded.bind_everywhere (Guarded.exec_everywhere (by simp [statementLocks, OwnRequest]))
      fun _ => ?_
    refine Guarded.bind_everywhere (Guarded.exec_everywhere (by simp [statementLocks, OwnRequest]))
      fun _ => ?_
    exact Guarded.bind_everywhere Guarded.commit_everywhere fun _ => Guarded.pure_everywhere _
  have body : Guarded.Confined P (OwnRequest P.collate req.requestId) (createOrderBody P req) := by
    refine Guarded.bind_everywhere Guarded.clock_everywhere fun clock => ?_
    refine Guarded.bind_everywhere ?_ ?_
    · refine Guarded.bind_everywhere
        (Guarded.exec_everywhere (by simp [statementLocks, OwnRequest, buildIdempotentRecord]))
        fun affected => ?_
      split
      · exact Guarded.pure_everywhere _
      apply Guarded.bind_everywhere (Guarded.exec_everywhere (by simp [statementLocks]))
      rintro (_ | ⟨_ | _ | _, body⟩) <;> exact Guarded.pure_everywhere _
    · rintro (_ | _ | body)
      · exact placing
      · exact Guarded.pure_everywhere _
      · exact Guarded.pure_everywhere _
  rw [createOrder]
  split
  · trivial
  · exact (Guarded.transaction_everywhere body).bind (fun _ _ => id) fun _ => trivial

end Walk

end OrderService

end TradeReconcile
