import TradeReconcile.Conduct.Calls

/-!
# Stock is conserved and a request id creates one order

Placing an order moves its quantity from the product's stock into the order row,
so stock and sold quantity always add up to the first stock. Placing also appends
the order and its idempotency record in the same step, so the two tables run in
parallel: one record, one order, one reply for every request id.
-/

namespace TradeReconcile

open Transactions

section Stock

/-- Quantity of a product over all orders. -/
def soldQuantity (db : Db) (productId : Nat) : Int :=
  ((db.orders.filter fun row => row.val.productId == productId).map fun row =>
    row.val.quantity).sum

/-- The products are the first ones, none is oversold, and stock and sold quantity
add up to the first stock. -/
structure StockConserved (first db : Db) : Prop where
  products : db.products.map Row.id = first.products.map Row.id
  stock : ∀ product ∈ db.products, 0 ≤ product.val.stock ∧
    ∀ opened ∈ first.products, opened.id = product.id →
      product.val.stock + soldQuantity db product.id = opened.val.stock

variable {P : Platform}

/-- A creation sells its quantity of its product and nothing else. -/
theorem Placed.soldQuantity_eq {req : CreateOrderReq} {placement : Placement} {before after : Db}
    (placed : Placed P req placement before after) (productId : Nat) :
    soldQuantity after productId =
      soldQuantity before productId + if req.productId = productId then req.quantity else 0 := by
  obtain ⟨orderNo, clock, made⟩ := placed.order
  have product : placement.order.val.productId = req.productId := by rw [made]; rfl
  have quantity : placement.order.val.quantity = req.quantity := by rw [made]; rfl
  rw [soldQuantity, soldQuantity, placed.orders, List.filter_append, List.map_append,
    List.sum_append]
  by_cases same : req.productId = productId
  · simp [product, quantity, same]
  · have hidden : (req.productId == productId) = false := by simpa using same
    simp [product, hidden, same]

/-- Placing an order moves its quantity out of one stock. -/
theorem Placed.stockConserved {req : CreateOrderReq} {placement : Placement} {first before after : Db}
    (placed : Placed P req placement before after) (keys : Schema P.collate before)
    (holds : StockConserved first before) : StockConserved first after := by
  refine ⟨(placed.products.map_eq Row.id rfl).symm.trans holds.products, ?_⟩
  intro product member
  rcases placed.products.mem_after_apart keys.productIds member with rfl | ⟨old, otherId⟩
  · obtain ⟨_, sum⟩ := holds.stock placement.product placed.present
    refine ⟨Int.sub_nonneg.mpr placed.stocked, fun opened present same => ?_⟩
    have moved := placed.soldQuantity_eq placement.product.id
    rw [if_pos placed.chosen.symm] at moved
    have total := sum opened present same
    simp only [Placement.sold] at moved ⊢
    omega
  · obtain ⟨positive, sum⟩ := holds.stock product old
    refine ⟨positive, fun opened present same => ?_⟩
    rw [placed.soldQuantity_eq, if_neg fun clash => otherId (by rw [placed.chosen, clash]),
      Int.add_zero]
    exact sum opened present same

/-- Settling changes no quantity and no product of an order. -/
theorem Settled.soldQuantity_eq {req : PaymentCallbackReq} {rawBody : String}
    {settlement : Settlement} {before after : Db}
    (settled : Settled P req rawBody settlement before after) (productId : Nat) :
    soldQuantity after productId = soldQuantity before productId := by
  obtain ⟨left, right, old, new⟩ := settled.orders
  rw [soldQuantity, soldQuantity, old, new]
  simp only [List.filter_append, List.filter_cons, Settlement.paidOrder]
  split <;> simp

/-- The answer of a creation that executed freshly. -/
def freshOrder : Answer → Bool
  | .order (.kExecuted result) => result.isOk
  | _ => false

/-- In every committed database of every run no stock is negative and stock and sold quantity
add up to the first stock; a creation that was not freshly executed has changed nothing. The
products before the run are arbitrary, and other calls and failures are too: stock and order
row are written by one transaction. -/
theorem reached_stockConserved {first : Shared Db} {system : Trade}
    (formed : WellFormed P.collate first) (orders : first.committed.orders = [])
    (unsigned : ∀ product ∈ first.committed.products, 0 ≤ product.val.stock)
    (reached : Reached P (Admits fun _ => True) first system) :
    StockConserved first.committed system.shared.committed ∧
      ∀ (caller : Nat) (req : CreateOrderReq) (answer : Answer) (session : Connection),
        system.calls[caller]? = some ⟨.createOrder req, .done answer, session⟩ →
        freshOrder answer = false → session.published = [] := by
  constructor
  · refine commits_invariant ?_ formed.schema ?_ (reached_commits formed reached)
    · intro call before after _ keys step holds
      cases step with
      | placed placed => exact placed.stockConserved keys holds
      | settled settled =>
        refine ⟨by rw [settled.products, holds.products], fun product member => ?_⟩
        simp only [settled.soldQuantity_eq]
        exact holds.stock product (settled.products ▸ member)
      | reconciled reconciled =>
        rw [reconciled.frame]
        exact ⟨holds.products, holds.stock⟩
      | handled handled =>
        rw [handled.frame]
        exact ⟨holds.products, holds.stock⟩
    · refine ⟨rfl, fun product member => ⟨unsigned product member, fun opened present same => ?_⟩⟩
      obtain rfl := formed.schema.productIds.eq_of_id present member same
      simp [soldQuantity, orders]
  · intro caller req answer session present stale
    obtain ⟨_, ended⟩ := reached_finished formed reached present
    generalize session.published = history at ended ⊢
    cases ended with
    | rejectedOrder => rfl
    | order ended =>
      cases ended with
      | faulted | refused | duplicate | cached => rfl
      | executed => simp [freshOrder, OrderService.catchOutcome, Result.isOk, ErrCode.toInt] at stale

/-- One order for two of ten mugs. -/
theorem shop_stockConserved : ∃ system : Trade,
    Reached Shop.platform (Admits fun _ => True) Shop.store system ∧
      system.shared.committed.products.map (·.val.stock) = [8] ∧
      soldQuantity system.shared.committed 1 = 2 ∧
      StockConserved Shop.store.committed system.shared.committed := by
  have executed : ((Shop.run (fun _ _ => true)
      (.call (Shop.order "req-0001") :: Shop.advances 0 "7001" 11)).map fun system =>
        (system.shared.committed.products.map (·.val.stock),
          soldQuantity system.shared.committed 1)) = some ([8], 2) := by decide +kernel
  obtain ⟨system, ran, counts⟩ := Option.map_eq_some_iff.mp executed
  obtain ⟨stock, sold⟩ := Prod.mk.inj counts
  have reached : Reached Shop.platform (Admits fun _ => True) Shop.store system :=
    reached_of_run ran
  exact ⟨system, reached, stock, sold,
    (reached_stockConserved Shop.store_formed rfl (by simp [Shop.store]) reached).1⟩

end Stock

section OncePerRequest

variable {P : Platform}

/-- Idempotency records and orders, request by request: one record and one order under the
same request ids, the record finished, with the order's reply in it. -/
structure OncePerRequest (P : Platform) (db : Db) : Prop where
  records : (db.idempotents.map fun row => row.val.requestId).Nodup
  orders : (db.orders.map fun row => row.val.requestId).Nodup
  same : ∀ requestId, requestId ∈ db.idempotents.map (fun row => row.val.requestId) ↔
    requestId ∈ db.orders.map fun row => row.val.requestId
  replies : ∀ record ∈ db.idempotents, record.val.status = .kSuccess ∧
    ∃ order ∈ db.orders, order.val.requestId = record.val.requestId ∧
      record.val.responseBody = OrderService.replyBody P order.val record.val.requestId

/-- The two tables run in parallel. -/
def Parallel (P : Platform) (db : Db) : Prop :=
  db.idempotents.map (fun row => (row.val.requestId, row.val.status, row.val.responseBody)) =
    db.orders.map fun row => (row.val.requestId, IdempotentStatus.kSuccess,
      OrderService.replyBody P row.val row.val.requestId)

/-- A creation adds an order and a record that belong to each other. -/
theorem Placed.parallel {req : CreateOrderReq} {placement : Placement} {before after : Db}
    (placed : Placed P req placement before after) (holds : Parallel P before) :
    Parallel P after := by
  obtain ⟨clock, made⟩ := placed.record
  rw [Parallel, placed.idempotents, placed.orders, List.map_append, List.map_append, holds]
  simp [made, placed.order_requestId, OrderService.buildIdempotentRecord]

/-- Parallel tables with unique keys hold one record and one order per request. Neither key
alone would do: the pairing says which record answers for which order. -/
theorem Parallel.oncePerRequest {db : Db} (parallel : Parallel P db)
    (keys : Schema P.collate db) : OncePerRequest P db where
  records := by
    have nodup := keys.idempotentRequest
    rw [UniqueKey] at nodup
    exact List.Nodup.of_map P.collate (by rwa [List.map_map])
  orders := by
    have nodup := keys.orderRequest
    rw [UniqueKey] at nodup
    exact List.Nodup.of_map P.collate (by rwa [List.map_map])
  same requestId := by
    have projected := congrArg (List.map Prod.fst) parallel
    simp only [List.map_map, Function.comp_def] at projected
    rw [projected]
  replies record member := by
    have inside := List.mem_map_of_mem
      (f := fun row : Row Idempotent =>
        (row.val.requestId, row.val.status, row.val.responseBody)) member
    rw [parallel] at inside
    obtain ⟨order, present, same⟩ := List.mem_map.mp inside
    simp only [Prod.mk.injEq] at same
    exact ⟨same.2.1.symm, order, present, same.1, by rw [← same.2.2, same.1]⟩

/-- An answer with code 0: a stored reply or a fresh one. -/
def CreateOrderOutcome.succeeded : CreateOrderOutcome → Bool
  | .kCached _ => true
  | .kExecuted result => result.isOk

/-- Every code-0 answer is the stored reply of the request's record, be it the answer of the
call that placed the order or a cached one. -/
theorem succeeded_stored {req : CreateOrderReq} {outcome : Except Exn CreateOrderOutcome}
    {history : List (Db × Db)} {shared : Shared Db}
    (ended : OrderService.OrderEnd P req outcome history shared)
    (success : (OrderService.catchOutcome req.requestId outcome).succeeded = true) :
    ∃ record ∈ shared.committed.idempotents,
      P.collate record.val.requestId = P.collate req.requestId ∧
      record.val.responseBody =
        (OrderService.catchOutcome req.requestId outcome).responseBody P := by
  cases ended with
  | faulted fault => cases fault <;> simp [OrderService.catchOutcome, catchAll,
      CreateOrderOutcome.succeeded, Result.isOk, ErrCode.toInt] at success
  | refused code =>
    simp only [List.mem_cons, List.not_mem_nil, or_false] at code
    rcases code with rfl | rfl <;> simp [OrderService.catchOutcome, catchAll,
      CreateOrderOutcome.succeeded, Result.isOk, ErrCode.toInt] at success
  | duplicate => simp [OrderService.catchOutcome, CreateOrderOutcome.succeeded, Result.isOk,
      ErrCode.toInt] at success
  | cached member same _ => exact ⟨_, member, same, rfl⟩
  | executed placed evolved =>
    rename_i placement _ _
    obtain ⟨clock, made⟩ := placed.record
    refine ⟨placement.record, evolved.idempotents ?_, by rw [placed.record_requestId], by rw [made]; rfl⟩
    rw [placed.idempotents]
    simp

/-- The duplicate answer is given only for a record that holds no reply. -/
theorem duplicate_recorded {req : CreateOrderReq} {outcome : Except Exn CreateOrderOutcome}
    {history : List (Db × Db)} {shared : Shared Db} {result : Result Order}
    (ended : OrderService.OrderEnd P req outcome history shared)
    (answered : OrderService.catchOutcome req.requestId outcome = .kExecuted result)
    (code : result.code = ErrCode.kDuplicateRequest.toInt) :
    ∃ record ∈ shared.committed.idempotents, record.val.status ≠ .kSuccess := by
  cases ended with
  | faulted fault =>
    cases fault <;> cases answered <;> simp [catchAll, ErrCode.toInt] at code
  | refused refusal =>
    cases answered
    simp only [List.mem_cons, List.not_mem_nil, or_false] at refusal
    rcases refusal with rfl | rfl <;> simp [catchAll, ErrCode.toInt] at code
  | duplicate member _ status => exact ⟨_, member, status⟩
  | cached => cases answered
  | executed =>
    cases answered
    simp [ErrCode.toInt] at code

/-- Every attempt made with this request id has finished without success. -/
def AllFailed (system : Trade) (requestId : String) : Prop :=
  ∀ (caller : Nat) active req, system.calls[caller]? = some active →
    active.call = .createOrder req → req.requestId = requestId →
    ∃ outcome, active.program = .done (.order outcome) ∧ outcome.succeeded = false

section Attempts

variable {first : Shared Db} {system : Trade}

/-- A finished creation that did not succeed has published nothing. -/
theorem failed_unpublished {serves : Call → Prop} (formed : WellFormed P.collate first)
    (reached : Reached P (Admits serves) first system) {caller : Nat} {req : CreateOrderReq}
    {outcome : CreateOrderOutcome} {session : Connection}
    (present : system.calls[caller]? = some ⟨.createOrder req, .done (.order outcome), session⟩)
    (failed : outcome.succeeded = false) : session.published = [] := by
  obtain ⟨_, ended⟩ := reached_finished formed reached present
  generalize session.published = history at ended ⊢
  cases ended with
  | rejectedOrder => rfl
  | order ended =>
    cases ended with
    | faulted | refused | duplicate | cached => rfl
    | executed => simp [OrderService.catchOutcome, CreateOrderOutcome.succeeded, Result.isOk,
        ErrCode.toInt] at failed

/-- A request id whose attempts all failed has no record: a record is published by
an attempt with that id, and a failed attempt publishes nothing. -/
theorem failed_unclaimed (exact : Function.Injective P.collate) (formed : WellFormed P.collate first)
    (idempotents : first.committed.idempotents = [])
    (reached : Reached P (Admits fun call => call.isOrder = true) first system)
    {requestId : String} (failed : AllFailed system requestId) :
    system.shared.committed.hasIdempotent P.collate requestId = false := by
  by_contra claimed
  rw [Bool.not_eq_false] at claimed
  obtain ⟨caller, ⟨call, program, session⟩, before, after, present, recorded, wasFree, isTaken⟩ :=
    reached_published reached (fun db => db.hasIdempotent P.collate requestId = true)
      (by simp [Db.hasIdempotent, idempotents]) claimed
  obtain ⟨_, step⟩ :=
    (reached_locking formed reached).history caller _ present (before, after) recorded
  have step : Commit P call before after := step.1
  cases step with
  | @placed req placement _ _ placed =>
    have mine : req.requestId = requestId := by
      simp only [Db.hasIdempotent, placed.idempotents, List.any_append, List.any_cons,
        List.any_nil, Bool.or_false, Bool.or_eq_true, beq_iff_eq, placed.record_requestId] at isTaken
      exact exact (isTaken.resolve_left wasFree)
    obtain ⟨outcome, rfl, failure⟩ := failed caller _ req present rfl mine
    have nothing := failed_unpublished formed reached present failure
    rw [nothing] at recorded
    cases recorded
  | settled settled =>
    simp only [Db.hasIdempotent, settled.idempotents] at isTaken
    exact wasFree isTaken
  | reconciled reconciled =>
    simp only [Db.hasIdempotent, reconciled.idempotents] at isTaken
    exact wasFree isTaken
  | handled handled =>
    rw [handled.frame] at isTaken
    exact wasFree isTaken

/-- The locks a creation may hold; no other call is admitted. -/
def orderLock (collate : String → String) : Call → Lock → Prop
  | .createOrder req => OrderService.OwnRequest collate req.requestId
  | _ => fun _ => False

/-- Nobody holds the lock of a request id whose attempts have all failed: a call that has
ended holds nothing, and only calls with the id take its lock. -/
theorem failed_unlocked (exact : Function.Injective P.collate) (formed : WellFormed P.collate first)
    (reached : Reached P (Admits fun call => call.isOrder = true) first system)
    {requestId : String} (failed : AllFailed system requestId) (caller : Nat) :
    system.heldByOther caller (.idempotentRequest (P.collate requestId)) = false := by
  have confined : ∀ (index : Nat) active, system.calls[index]? = some active →
      active.program.Confined _ (orderLock P.collate active.call) ∧
        ∀ lock ∈ active.session.locks, orderLock P.collate active.call lock :=
    reached_confined (by
      intro _ call admitted
      cases call with
      | createOrder req => exact (OrderService.createOrder_confined P req).bind (fun _ _ => id) fun _ => trivial
      | handleCallback | reconcile | listDiffs | handleDiff => cases admitted) reached
  by_contra held
  simp only [System.heldByOther, Bool.not_eq_false, List.any_eq_true, Bool.and_eq_true,
    Option.any_eq_true, decide_eq_true_eq] at held
  obtain ⟨other, _, _, ⟨call, program, session⟩, present, holding⟩ := held
  have owned := (confined other _ present).2 _ holding
  cases call with
  | createOrder req =>
    obtain ⟨outcome, rfl, _⟩ := failed other _ req present rfl (exact owned).symm
    have released := (reached_finished formed reached present).1
    rw [released] at holding
    cases holding
  | handleCallback | reconcile | listDiffs | handleDiff => exact owned

end Attempts

/-- Exactly once per request id. From empty tables and with request ids compared
exactly, in every run of creations: records and orders match one to one and the
records hold the orders' replies; no request is told that it is a duplicate; all
code-0 answers to one request id are the same text; and an id whose attempts all
failed is free to be claimed. -/
theorem reached_oncePerRequest {first : Shared Db} {system : Trade}
    (exact : Function.Injective P.collate) (formed : WellFormed P.collate first)
    (idempotents : first.committed.idempotents = []) (orders : first.committed.orders = [])
    (reached : Reached P (Admits fun call => call.isOrder = true) first system) :
    OncePerRequest P system.shared.committed ∧
    (∀ (caller : Nat) req result session, system.calls[caller]? =
        some ⟨.createOrder req, .done (.order (.kExecuted result)), session⟩ →
      result.code ≠ ErrCode.kDuplicateRequest.toInt) ∧
    (∀ (one two : Nat) left right first second mine theirs,
      system.calls[one]? = some ⟨.createOrder left, .done (.order first), mine⟩ →
      system.calls[two]? = some ⟨.createOrder right, .done (.order second), theirs⟩ →
      left.requestId = right.requestId → first.succeeded = true → second.succeeded = true →
      first.responseBody P = second.responseBody P) ∧
    (∀ requestId, AllFailed system requestId →
      (∀ caller, system.heldByOther caller (.idempotentRequest (P.collate requestId)) = false) ∧
      ∀ record : Idempotent, record.requestId = requestId → record.fits = true →
        ∀ number env, ∃ changes, execute P.collate (.idempotentInsert record) number env
          system.shared.committed = .ok (1, changes)) := by
  have keys := (reached_locking formed reached).inv.1.schema
  have parallel : Parallel P system.shared.committed := by
    refine commits_invariant ?_ formed.schema ?_ (reached_commits formed reached)
    · intro call before after served _ step holds
      cases step with
      | placed placed => exact placed.parallel holds
      | settled | reconciled | handled => cases served
    · simp [Parallel, idempotents, orders]
  have once := parallel.oncePerRequest keys
  -- A finished creation with code 0 answered with the record of its request id.
  have stored : ∀ (caller : Nat) req outcome session, system.calls[caller]? =
      some ⟨.createOrder req, .done (.order outcome), session⟩ → outcome.succeeded = true →
      ∃ record ∈ system.shared.committed.idempotents,
        P.collate record.val.requestId = P.collate req.requestId ∧
        record.val.responseBody = outcome.responseBody P := by
    intro caller req outcome session present success
    obtain ⟨_, ended⟩ := reached_finished formed reached present
    generalize session.published = history at ended
    cases ended with
    | rejectedOrder =>
      simp [CreateOrderOutcome.succeeded, Result.isOk, ErrCode.toInt] at success
    | order ended => exact succeeded_stored ended success
  refine ⟨once, ?_, ?_, ?_⟩
  · intro caller req result session present code
    obtain ⟨_, ended⟩ := reached_finished formed reached present
    generalize answered : CreateOrderOutcome.kExecuted result = outcome at ended
    generalize session.published = history at ended
    cases ended with
    | rejectedOrder =>
      cases answered
      simp [ErrCode.toInt] at code
    | order ended =>
      obtain ⟨record, member, unfinished⟩ := duplicate_recorded ended answered.symm code
      exact unfinished (once.replies record member).1
  · intro one two left right first second mine theirs presentOne presentTwo same succeededOne
      succeededTwo
    obtain ⟨recordOne, memberOne, keyOne, bodyOne⟩ :=
      stored one left first mine presentOne succeededOne
    obtain ⟨recordTwo, memberTwo, keyTwo, bodyTwo⟩ :=
      stored two right second theirs presentTwo succeededTwo
    have shared : recordOne = recordTwo := keys.idempotentRequest.eq_of_key memberOne memberTwo
      (by rw [keyOne, keyTwo, same])
    rw [← bodyOne, ← bodyTwo, shared]
  · intro requestId failed
    refine ⟨failed_unlocked exact formed reached failed, ?_⟩
    intro record same fits number env
    have free := failed_unclaimed exact formed idempotents reached failed
    rw [← same] at free
    simp only [execute, insertOrKeep, fits, free]
    exact ⟨_, rfl⟩

/-- The call was answered from a stored record. -/
def answeredFromRecord : Prog Answer → Bool
  | .done (.order (.kCached _)) => true
  | _ => false

/-- Two requests with one id, the second answered from the record of the first: one order, one
record, one reply. -/
theorem shop_oncePerRequest : ∃ system : Trade,
    Reached Shop.platform (Admits fun call => call.isOrder = true) Shop.store system ∧
      system.calls.map (fun active => answeredFromRecord active.program) = [false, true] ∧
      system.shared.committed.orders.map (·.val.requestId) = ["req-0001"] ∧
      OncePerRequest Shop.platform system.shared.committed := by
  have executed : ((Shop.run (fun _ action => action.all Call.isOrder)
      (.call (Shop.order "req-0001") :: Shop.advances 0 "7001" 11 ++
        .call (Shop.order "req-0001") :: Shop.advances 1 "7002" 6)).map fun system =>
      (system.calls.map (fun active => answeredFromRecord active.program),
        system.shared.committed.orders.map (·.val.requestId))) =
      some ([false, true], ["req-0001"]) := by decide +kernel
  obtain ⟨system, ran, facts⟩ := Option.map_eq_some_iff.mp executed
  obtain ⟨answers, requests⟩ := Prod.mk.inj facts
  have reached : Reached Shop.platform (Admits fun call => call.isOrder = true) Shop.store system :=
    Transitions.Reached.of_runWhere (fun _ action checked => by
      cases action with
      | call call => exact checked
      | advance | interrupt => trivial) .initial ran
  exact ⟨system, reached, answers, requests,
    (reached_oncePerRequest Function.injective_id Shop.store_formed rfl rfl reached).1⟩

end OncePerRequest

section SameRequest

variable {P : Platform} {first : Shared Db} {system : Trade}

/-- The record was stored for this very request. -/
def RecordOf (req : CreateOrderReq) (record : Idempotent) : Prop :=
  record.requestId = req.requestId ∧ record.userId = req.userId ∧
    record.requestHash = req.requestHash

instance (req : CreateOrderReq) (record : Idempotent) : Decidable (RecordOf req record) :=
  inferInstanceAs (Decidable (_ ∧ _ ∧ _))

/-- The call has committed the order and the reply that are stored under the id. -/
def StoredBy (P : Platform) (system : Trade) (requestId body : String) (creator : Nat)
    (made : CreateOrderReq) : Prop :=
  ∃ active before after placement, system.calls[creator]? = some active ∧
    active.call = .createOrder made ∧ (before, after) ∈ active.session.published ∧
    Placed P made placement before after ∧
    P.collate placement.record.val.requestId = P.collate requestId ∧
    placement.record.val.responseBody = body

/-- Whoever is answered from a stored reply made the same request as its creator: the same
user and the same hash of the body. -/
def CachedForSame (P : Platform) (system : Trade) : Prop :=
  ∀ (caller : Nat) req body session,
    system.calls[caller]? = some ⟨.createOrder req, .done (.order (.kCached body)), session⟩ →
    ∃ creator made, StoredBy P system req.requestId body creator made ∧
      made.requestId = req.requestId ∧ made.userId = req.userId ∧
      made.requestHash = req.requestHash

/-- Creations that take no step while the finished record that their request id meets
belongs to another request. -/
def OwnRecord (P : Platform) (system : Trade) : Action Call Env Fault → Prop
  | .call call => call.isOrder = true
  | .advance caller _ | .interrupt caller _ => ∀ active req, system.calls[caller]? = some active →
    active.call = .createOrder req → ∀ row ∈ system.shared.committed.idempotents,
      P.collate row.val.requestId = P.collate req.requestId → row.val.status = .kSuccess →
      RecordOf req row.val

/-- The condition is one on runs of creations. -/
theorem OwnRecord.admits {action : Action Call Env Fault} (own : OwnRecord P system action) :
    Admits (fun call => call.isOrder = true) system action := by
  cases action with
  | call => exact own
  | advance | interrupt => trivial

/-- A cached answer is the reply of a finished record under the call's request id. -/
theorem cached_record {serves : Call → Prop} (formed : WellFormed P.collate first)
    (reached : Reached P (Admits serves) first system) {caller : Nat} {req : CreateOrderReq}
    {body : String} {session : Connection}
    (present : system.calls[caller]? =
      some ⟨.createOrder req, .done (.order (.kCached body)), session⟩) :
    session.published = [] ∧ ∃ row ∈ system.shared.committed.idempotents,
      P.collate row.val.requestId = P.collate req.requestId ∧ row.val.status = .kSuccess ∧
      row.val.responseBody = body := by
  obtain ⟨-, ended⟩ := reached_finished formed reached present
  generalize answered : CreateOrderOutcome.kCached body = outcome at ended
  generalize session.published = history at ended ⊢
  cases ended with
  | rejectedOrder => cases answered
  | order ended =>
    cases ended with
    | faulted | refused | duplicate | executed => cases answered
    | cached member same status =>
      cases answered
      exact ⟨rfl, _, member, same, status, rfl⟩

/-- A stored record was published by the call that made it, so there is a call of this run
behind every record, with the order that it placed. -/
theorem record_stored (formed : WellFormed P.collate first)
    (idempotents : first.committed.idempotents = [])
    (reached : Reached P (Admits fun call => call.isOrder = true) first system)
    {row : Row Idempotent} (member : row ∈ system.shared.committed.idempotents) :
    ∃ creator made, StoredBy P system row.val.requestId row.val.responseBody creator made ∧
      RecordOf made row.val := by
  obtain ⟨creator, ⟨call, program, session⟩, before, after, present, recorded, absent, stored⟩ :=
    reached_published reached (fun db => row ∈ db.idempotents) (by simp [idempotents]) member
  obtain ⟨_, step⟩ :=
    (reached_locking formed reached).history creator _ present (before, after) recorded
  have step : Commit P call before after := step.1
  cases step with
  | @placed made placement _ _ placed =>
    rw [placed.idempotents] at stored
    obtain rfl : row = placement.record := by simpa [absent] using stored
    obtain ⟨clock, built⟩ := placed.record
    refine ⟨creator, made, ⟨_, before, after, placement, present, rfl, recorded, placed, rfl, rfl⟩, ?_⟩
    rw [built]
    exact ⟨rfl, rfl, rfl⟩
  | settled settled =>
    rw [settled.idempotents] at stored
    exact absurd stored absent
  | reconciled reconciled =>
    rw [reconciled.idempotents] at stored
    exact absurd stored absent
  | handled handled =>
    rw [handled.frame] at stored
    exact absurd stored absent

/-- A creation does not start with a cached answer. -/
theorem createOrder_unanswered (req : CreateOrderReq) (body : String) :
    program P (.createOrder req) ≠ .done (.order (.kCached body)) := by
  rw [program, OrderService.createOrder]
  split
  · simp [Program.bind]
  · simp [Program.bind, Guarded.transaction]

/-- In a run in which no call moves on beside a foreign record, every call answered
from a record found its own.

Proof: induction over the run. The step that ends such a call publishes nothing, so
the record was already there and the condition on the step applies to it. -/
theorem reached_ownRecord (formed : WellFormed P.collate first)
    (reached : Reached P (OwnRecord P) first system) :
    ∀ (caller : Nat) req body session,
      system.calls[caller]? = some ⟨.createOrder req, .done (.order (.kCached body)), session⟩ →
      ∃ row ∈ system.shared.committed.idempotents,
        P.collate row.val.requestId = P.collate req.requestId ∧ row.val.responseBody = body ∧
        RecordOf req row.val := by
  induction reached with
  | initial => simp [System.initial]
  | @step system next action before own taken inductionHypothesis =>
    intro caller req body session present
    have earlier := before.mono fun _ _ => OwnRecord.admits
    have evolved := reached_evolves formed earlier taken
    obtain ⟨unpublished, row, stored, same, status, reply⟩ :=
      cached_record formed (.step action earlier own.admits taken) present
    have older : system.calls[caller]? =
        some ⟨.createOrder req, .done (.order (.kCached body)), session⟩ →
        ∃ row ∈ next.shared.committed.idempotents,
          P.collate row.val.requestId = P.collate req.requestId ∧ row.val.responseBody = body ∧
          RecordOf req row.val := by
      intro answered
      obtain ⟨found, member, facts⟩ := inductionHypothesis caller req body session answered
      exact ⟨found, evolved.idempotents member, facts⟩
    rcases System.step_cases taken with ⟨request, rfl, rfl⟩ |
      ⟨moving, env, active, moved, after, shared, rfl, running, ran, rfl⟩ |
      ⟨moving, fault, active, moved, after, rfl, running, ran, rfl⟩
    · rcases getElem?_snoc_cases present with old | new
      · exact older old
      · cases congrArg Active.call new
        exact absurd (congrArg Active.program new).symm (createOrder_unanswered req body)
    · rcases getElem?_set_cases present with ⟨rfl, ended⟩ | ⟨_, old⟩
      · have called : active.call = .createOrder req := (congrArg Active.call ended).symm
        obtain rfl : session = after := congrArg Active.session ended
        rcases advance_effect ran with ⟨-, still⟩ | recorded
        · have stays : row ∈ system.shared.committed.idempotents := still ▸ stored
          exact ⟨row, stored, same, reply, own active req running called row stays same status⟩
        · simp [recorded] at unpublished
      · exact older old
    · rcases getElem?_set_cases present with ⟨rfl, ended⟩ | ⟨_, old⟩
      · have called : active.call = .createOrder req := (congrArg Active.call ended).symm
        exact ⟨row, stored, same, reply, own active req running called row stored same status⟩
      · exact older old

/-- In every run of creations in which no call moves on beside a foreign record, a cached
reply is only given to the request it was made for. The code compares neither user nor body,
so the condition on the store before the step cannot be dropped. -/
theorem reached_cachedForSame (formed : WellFormed P.collate first)
    (idempotents : first.committed.idempotents = [])
    (reached : Reached P (OwnRecord P) first system) : CachedForSame P system := by
  have admitted := reached.mono fun _ _ => OwnRecord.admits
  intro caller req body session present
  obtain ⟨row, member, same, reply, sameId, sameUser, sameHash⟩ :=
    reached_ownRecord formed reached caller req body session present
  obtain ⟨creator, made, ⟨active, before, after, placement, stored⟩, madeId, madeUser, madeHash⟩ :=
    record_stored formed idempotents admitted member
  rw [same, reply] at stored
  exact ⟨creator, made, ⟨active, before, after, placement, stored⟩, madeId.symm.trans sameId,
    madeUser.symm.trans sameUser, madeHash.symm.trans sameHash⟩

namespace Shop

/-- Another user asks for one mug under a request id. -/
def otherOrder (requestId : String) : Call := .createOrder ⟨requestId, "other", 9, 1, 1⟩

/-- The test of a step that `OwnRecord` admits. -/
def ownRecord (system : Trade) : Action Call Env Fault → Bool
  | .call call => call.isOrder
  | .advance caller _ | .interrupt caller _ => system.calls[caller]?.all fun active =>
    match active.call with
    | .createOrder req => system.shared.committed.idempotents.all fun row =>
      platform.collate row.val.requestId != platform.collate req.requestId ||
        row.val.status != .kSuccess || decide (RecordOf req row.val)
    | _ => true

/-- The decidable form of the condition. -/
theorem ownRecord_sound {system : Trade} {action : Action Call Env Fault}
    (test : ownRecord system action = true) : OwnRecord platform system action := by
  cases action with
  | call call => exact test
  | advance caller | interrupt caller =>
    intro active req present called row member same status
    simp only [ownRecord, present, Option.all_some, called, List.all_eq_true] at test
    have found := test row member
    simpa [same, status] using found

/-- The creations so far: the request, whether it was answered from a record, and how
often it published. -/
def creations (system : Trade) : List (Option CreateOrderReq × Bool × Nat) :=
  system.calls.map fun active =>
    (match active.call with
      | .createOrder req => some req
      | _ => none,
      answeredFromRecord active.program, active.session.published.length)

/-- A creation that the summary of the run lists as answered from a record. -/
theorem creations_get {system : Trade} {caller : Nat} {req : CreateOrderReq} {times : Nat}
    (found : (creations system)[caller]? = some (some req, true, times)) :
    ∃ body session, system.calls[caller]? =
      some ⟨.createOrder req, .done (.order (.kCached body)), session⟩ := by
  rw [creations, List.getElem?_map] at found
  obtain ⟨⟨call, program, session⟩, present, same⟩ := Option.map_eq_some_iff.mp found
  simp only [Prod.mk.injEq] at same
  obtain ⟨request, answered, -⟩ := same
  cases call with
  | createOrder made =>
    cases request
    unfold answeredFromRecord at answered
    split at answered
    · exact ⟨_, session, present⟩
    · cases answered
  | handleCallback | reconcile | listDiffs | handleDiff => cases request

end Shop

/-- Another user's request with another body is answered with the first user's order,
because it has the same request id. -/
theorem shop_cachedForOther : ∃ system : Trade,
    Reached Shop.platform (Admits fun call => call.isOrder = true) Shop.store system ∧
      ¬CachedForSame Shop.platform system := by
  have executed : (Shop.run (fun _ action => action.all Call.isOrder)
      (.call (Shop.order "req-0001") :: Shop.advances 0 "7001" 11 ++
        .call (Shop.otherOrder "req-0001") :: Shop.advances 1 "7002" 6)).map Shop.creations =
      some [(some ⟨"req-0001", "hash", 8, 1, 2⟩, false, 1),
        (some ⟨"req-0001", "other", 9, 1, 1⟩, true, 0)] := by decide +kernel
  obtain ⟨system, ran, shown⟩ := Option.map_eq_some_iff.mp executed
  refine ⟨system, .of_runWhere (fun _ action checked => ?_) .initial ran, fun same => ?_⟩
  · cases action with
    | call call => exact checked
    | advance | interrupt => trivial
  · have second : (Shop.creations system)[1]? =
        some (some ⟨"req-0001", "other", 9, 1, 1⟩, true, 0) := by rw [shown]; rfl
    obtain ⟨body, session, present⟩ := Shop.creations_get second
    obtain ⟨creator, made, ⟨active, before, after, placement, stored, called, recorded, -⟩, -,
      user, -⟩ := same 1 _ body session present
    have listed : (Shop.creations system)[creator]? = some (some made,
        answeredFromRecord active.program, active.session.published.length) := by
      rw [Shop.creations, List.getElem?_map, stored, Option.map_some, called]
    rw [shown] at listed
    match creator with
    | 0 =>
      simp only [List.getElem?_cons_zero, Option.some.injEq, Prod.mk.injEq] at listed
      rw [← listed.1] at user
      exact absurd user (by decide)
    | 1 =>
      simp only [List.getElem?_cons_succ, List.getElem?_cons_zero, Option.some.injEq,
        Prod.mk.injEq] at listed
      have none := List.length_eq_zero_iff.mp listed.2.2.symm
      simp [none] at recorded
    | other + 2 => simp at listed

/-- The same request again is answered with its own order. -/
theorem shop_cachedForSame : ∃ system : Trade,
    Reached Shop.platform (OwnRecord Shop.platform) Shop.store system ∧
      (∃ body session, system.calls[1]? = some ⟨.createOrder ⟨"req-0001", "hash", 8, 1, 2⟩,
        .done (.order (.kCached body)), session⟩) ∧ CachedForSame Shop.platform system := by
  have executed : (Shop.run Shop.ownRecord
      (.call (Shop.order "req-0001") :: Shop.advances 0 "7001" 11 ++
        .call (Shop.order "req-0001") :: Shop.advances 1 "7002" 6)).map Shop.creations =
      some [(some ⟨"req-0001", "hash", 8, 1, 2⟩, false, 1),
        (some ⟨"req-0001", "hash", 8, 1, 2⟩, true, 0)] := by decide +kernel
  obtain ⟨system, ran, shown⟩ := Option.map_eq_some_iff.mp executed
  have reached : Reached Shop.platform (OwnRecord Shop.platform) Shop.store system :=
    .of_runWhere (fun _ _ => Shop.ownRecord_sound) .initial ran
  exact ⟨system, reached, Shop.creations_get (by rw [shown]; rfl),
    reached_cachedForSame Shop.store_formed rfl reached⟩

end SameRequest

end TradeReconcile
