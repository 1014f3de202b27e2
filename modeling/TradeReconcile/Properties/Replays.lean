import TradeReconcile.Conduct.Rereads

/-!
# Answers to concurrent callbacks of one order

A callback that finds its trade number or its order taken decides its answer on a
re-read, and the re-read sees the snapshot that the order lookup fixed. If another
callback of the order commits after that lookup, the insert and the update meet the
committed rows while the re-read does not, and the replay is answered as a
conflict. Serialised callbacks are the ones for which this cannot happen: no
callback commits while another has its snapshot open.

The re-read can also miss a payment that the insert has met for another reason: the
payment table drops spaces past the end of its column and the lookup asks for the number
as it was sent. A number without such spaces is called unpadded.
-/

namespace TradeReconcile

open Transactions

section Serial

/-- Callbacks that pass the checks and name one order with its amount. -/
def CallbackOf (P : Platform) (order : Order) : Call → Prop
  | .handleCallback req _ => PaymentService.Accepted P req ∧ req.orderNo = order.orderNo ∧
      MoneyUtil.yuanStringToFen req.amount = some order.totalAmountFen
  | _ => False

instance (P : Platform) (order : Order) (call : Call) : Decidable (CallbackOf P order call) :=
  match call with
  | .handleCallback req _ =>
    decidable_of_iff
      ((req.channel = PaymentService.kSupportedChannel ∧ P.secret.isEmpty = false ∧
        SignUtil.verifyMockSign P req.orderNo req.channelTradeNo req.amount req.timestamp
          req.sign = true) ∧ req.orderNo = order.orderNo ∧
        MoneyUtil.yuanStringToFen req.amount = some order.totalAmountFen)
      ⟨fun facts => ⟨⟨facts.1.1, facts.1.2.1, facts.1.2.2⟩, facts.2⟩,
        fun facts => ⟨⟨facts.1.channel, facts.1.secret, facts.1.signed⟩, facts.2⟩⟩
  | .createOrder _ => isFalse id
  | .reconcile _ _ | .listDiffs _ _ | .handleDiff _ _ _ => isFalse id

/-- The answer of the id generator is not the number of a committed payment. -/
def Unissued (collate : String → String) (db : Db) (env : Env) : Prop :=
  ∀ id ∈ env.nextId, ∀ row ∈ db.payments, collate row.val.paymentNo ≠ collate id

/-- No call publishes while another one has its snapshot open, and the id generator
does not hand out the number of a committed payment. -/
def Serial (P : Platform) (serves : Call → Prop) (system : Trade) : Action Call Env Fault → Prop
  | .call call => serves call
  | .advance caller env => ∀ active, system.calls[caller]? = some active →
    (publishes active.program active.session = true →
      ∀ (other : Nat) running, other ≠ caller → system.calls[other]? = some running →
        running.session.snapshot = none) ∧
    (asks active.program = true → Unissued P.collate system.shared.committed env)
  | .interrupt _ _ => True

/-- Serialised calls are calls. -/
theorem serial_admits {P : Platform} {serves : Call → Prop} (system : Trade)
    (action : Action Call Env Fault) (admitted : Serial P serves system action) :
    Admits serves system action := by
  cases action with
  | call call => exact admitted
  | advance | interrupt => trivial

/-- The discipline of serialised calls: an open snapshot is up to date, because no other
callback of the order commits while one has it open. -/
def serial (P : Platform) (serves : Call → Prop) (first : Db) :
    Discipline Call Db Change Lock Env where
  Inv shared := WellFormed P.collate shared ∧ Commits P serves first shared.committed
  Guar call _ := Commit P call
  Rely _ session before after := Relies P.collate session before after ∧
    (session.snapshot ≠ none → after.committed = before.committed)
  Answers _ _ shared env := Unissued P.collate shared.committed env
  Apart _ session _ held := session.locks.Disjoint held.locks ∧ held.snapshot = none
  refl _ _ _ := ⟨.refl _, fun _ => rfl⟩
  trans _ _ _ _ _ one two := ⟨one.1.trans two.1, fun opened => (two.2 opened).trans (one.2 opened)⟩
  tick _ _ shared holds := ⟨⟨holds.1.tick, holds.2⟩, .tick shared, fun _ => rfl⟩

variable {P : Platform} {serves : Call → Prop} {first : Db}

/-- The invariant of serialised calls serves every call. -/
theorem serial_trading {call : Call} (served : serves call) :
    Trading P (serial P serves first) call where
  formed holds := holds.1
  relies moved := moved.1
  commits := by
    intro session shared after holds step _ formed evolved kept
    refine ⟨step, ⟨formed, holds.2.tail ⟨call, served, step⟩⟩, ?_⟩
    rintro other held ⟨apart, closed⟩
    exact ⟨⟨Nat.le_refl _, fun lock taken => kept lock fun mine => apart mine taken, evolved⟩,
      fun opened => absurd closed opened⟩

/-- An open snapshot is the committed database. -/
theorem serial_watched {call : Call} {seen : Db} {shared : Shared Db}
    (watched : Watched (serial P serves first) call seen shared) : shared.committed = seen := by
  induction watched with
  | fixed same => exact same
  | moved _ opened moved inductionHypothesis =>
    exact (moved.2 (by simp [opened])).trans inductionHypothesis

/-- Every reachable system of serialised calls is sound, and all its calls are
served. -/
theorem reached_serial {first : Shared Db} {system : Trade} (formed : WellFormed P.collate first)
    (reached : Reached P (Serial P serves) first system) :
    Sound (serial P serves first.committed) (engine P.collate)
      (fun call answer session shared => serves call ∧
        Finished P (serial P serves first.committed) call answer session shared) system := by
  refine reached_sound ?_ ?_ ?_ ?_ reached
  · exact ⟨formed, .refl⟩
  · intro _ call shared served holds
    exact safe_mono (program_safe (serial_trading served) holds)
      fun _ _ _ finished => ⟨served, finished⟩
  · exact fun _ _ _ active admitted present asking => (admitted active present).2 asking
  · intro system caller env active admitted present publishing other running distinct stored separate
    exact ⟨separate, (admitted active present).1 publishing other running distinct stored⟩

end Serial

section OneOrder

variable {P : Platform}

/-- A settled callback leaves its order no longer pending. -/
theorem Settled.marks {req : PaymentCallbackReq} {rawBody : String} {settlement : Settlement}
    {before after : Db} (settled : Settled P req rawBody settlement before after)
    (keys : Schema P.collate before) :
    ∀ row ∈ after.orders, P.collate row.val.orderNo = P.collate req.orderNo →
      row.val.status ≠ .kPendingPayment := by
  intro row member named
  have same : row = settlement.paidOrder :=
    (settled.schema keys).orderNo.eq_of_key member settled.orders.new_mem
      (named.trans settled.named.symm)
  rw [same]
  simp [Settlement.paidOrder]

/-- The database is still the first one, or the order is no longer pending. -/
def MovedOnce (collate : String → String) (order : Order) (first db : Db) : Prop :=
  db = first ∨ ∀ row ∈ db.orders, collate row.val.orderNo = collate order.orderNo →
    row.val.status ≠ .kPendingPayment

/-- Callbacks of one order move the database at most once: the first commit pays the order,
and a paid order is not paid again. -/
theorem commits_movedOnce {order : Order} {first db : Db} (keys : Schema P.collate first)
    (commits : Commits P (CallbackOf P order) first db) :
    MovedOnce P.collate order first db := by
  refine commits_invariant ?_ keys ?_ commits
  · intro call before after served keys step _
    cases step with
    | placed | reconciled | handled => exact served.elim
    | settled settled => exact .inr (served.2.1 ▸ settled.marks keys)
  · exact .inl rfl

/-- The order can be paid: it exists, and its user's account is normal and covers
it. -/
structure Payable (db : Db) (order : Row Order) (account : Row Account) : Prop where
  ordered : order ∈ db.orders
  opened : account ∈ db.accounts
  owner : account.val.userId = order.val.userId
  normal : account.val.status = 0
  covered : order.val.totalAmountFen ≤ account.val.balanceFen

/-- A callback of a payable order is not refused. Each of its refusals is for a reason that
holds of some committed state, and none of these reasons can hold while the order is
payable. -/
theorem refusal_absurd {order : Row Order} {account : Row Account} {first db : Db}
    {req : PaymentCallbackReq} {code : ErrCode} (keys : Schema P.collate first)
    (payable : Payable first order account) (formed : Schema P.collate db)
    (commits : Commits P (CallbackOf P order.val) first db) (named : req.orderNo = order.val.orderNo)
    (amount : MoneyUtil.yuanStringToFen req.amount = some order.val.totalAmountFen)
    (refusal : PaymentService.Refusal P req db db code) : False := by
  obtain ⟨later, present, _, version, _⟩ := (commits_evolve commits).orders order payable.ordered
  have laterNo : later.val.orderNo = req.orderNo := by rw [version, named]
  have found : db.findOrder P.collate req.orderNo = some later := by
    rw [Db.findOrder, ← laterNo]
    exact formed.orderNo.find_eq present
  have user : later.val.userId = account.val.userId := by rw [version, payable.owner]
  have owned : first.findAccount account.val.userId = some account :=
    keys.accountUser.find_eq payable.opened
  -- a pending order means that nothing has been committed yet
  have untouched : ∀ row : Row Order, PaymentService.Marked P req row db → db = first := by
    intro row marked
    rcases commits_movedOnce keys commits with same | settled
    · exact same
    · exact absurd marked.pending (settled row marked.present (named ▸ marked.named))
  cases refusal with
  | unknown missing => simp [found] at missing
  | mismatch other different =>
    obtain rfl := Option.some.inj (found.symm.trans other)
    exact different (by rw [version, amount])
  | noAccount other marked missing =>
    obtain rfl := Option.some.inj (found.symm.trans other)
    obtain rfl := untouched _ marked
    rw [user, owned] at missing
    cases missing
  | uncovered other marked chosen absent =>
    obtain rfl := Option.some.inj (found.symm.trans other)
    obtain rfl := untouched _ marked
    rw [user, owned] at chosen
    obtain rfl := Option.some.inj chosen
    have deductible := absent account payable.opened
    have covered : later.val.totalAmountFen ≤ account.val.balanceFen := by
      rw [version]
      exact payable.covered
    simp [TradeReconcile.deductible, payable.normal, covered] at deductible

/-- The request's trade number, as the payment table stores it, is bound to the request's
order. -/
def BoundHere (collate : String → String) (db : Db) (req : PaymentCallbackReq) : Prop :=
  ∃ row ∈ db.payments, collate row.val.channel = collate req.channel ∧
    collate row.val.channelTradeNo = collate (PaymentService.storedTradeNo req) ∧
    row.val.orderNo = req.orderNo

/-- The request's order is paid. -/
def PaidHere (collate : String → String) (db : Db) (req : PaymentCallbackReq) : Prop :=
  ∃ row ∈ db.orders, collate row.val.orderNo = collate req.orderNo ∧ row.val.status = .kPaid

instance (collate : String → String) (db : Db) (req : PaymentCallbackReq) :
    Decidable (BoundHere collate db req) :=
  inferInstanceAs (Decidable (∃ row ∈ db.payments, _))

instance (collate : String → String) (db : Db) (req : PaymentCallbackReq) :
    Decidable (PaidHere collate db req) :=
  inferInstanceAs (Decidable (∃ row ∈ db.orders, _))

/-- A callback whose trade number is bound to its order is not answered as a
conflict; once the order is paid, it is answered with success unless its trade
number belongs elsewhere or a technical error occurred. -/
structure AsReplay (collate : String → String) (db : Db) (req : PaymentCallbackReq)
    (result : Result Json) : Prop where
  bound : PaymentService.Unpadded req → BoundHere collate db req →
    result.code ≠ ErrCode.kChannelTradeConflict.toInt
  paid : PaidHere collate db req → result.code ∈
    [ErrCode.kSuccess, .kDbError, .kInternalError, .kChannelTradeConflict].map ErrCode.toInt

/-- Success and technical errors are never answers that treat a replay wrongly. -/
theorem AsReplay.of_code {collate : String → String} {db : Db} {req : PaymentCallbackReq}
    {result : Result Json} (code : ErrCode) (answered : result.code = code.toInt)
    (harmless : code ∈ [ErrCode.kSuccess, .kDbError, .kInternalError]) :
    AsReplay collate db req result where
  bound _ _ conflict := by
    rw [answered] at conflict
    obtain rfl := ErrCode.toInt_injective conflict
    simp at harmless
  paid _ := by
    rw [answered]
    exact List.mem_map_of_mem (List.subset_append_left _ [ErrCode.kChannelTradeConflict] harmless)

/-- A clash of keys that is not one of payment numbers is one of trade numbers, and the
lookup finds it. -/
theorem tradeNo_found {collate : String → String} {db : Db} {payment : Payment}
    (fresh : ∀ row ∈ db.payments, collate row.val.paymentNo ≠ collate payment.paymentNo)
    (clash : db.hasPaymentKey collate payment = true) :
    ∃ row ∈ db.payments, db.findPayment collate payment.channel payment.channelTradeNo = some row ∧
      collate row.val.channel = collate payment.channel ∧
      collate row.val.channelTradeNo = collate payment.channelTradeNo := by
  obtain ⟨old, member, taken⟩ := List.any_eq_true.mp clash
  simp only [Bool.or_eq_true, Bool.and_eq_true, beq_iff_eq] at taken
  have trade := taken.resolve_left (fresh old member)
  have found : (db.findPayment collate payment.channel payment.channelTradeNo).isSome := by
    rw [Db.findPayment, List.find?_isSome]
    exact ⟨old, member, by simp [trade.1, trade.2]⟩
  obtain ⟨row, matched⟩ := Option.isSome_iff_exists.mp found
  have selected := List.find?_some matched
  simp only [Bool.and_eq_true, beq_iff_eq] at selected
  exact ⟨row, List.mem_of_find?_eq_some matched, matched, selected⟩

/-- An unpadded trade number found taken in an up to date snapshot, by a payment of
another order, is not bound to this one. -/
theorem conflict_unbound {seen now : Db} {req : PaymentCallbackReq} {payment : Payment}
    (keys : Schema P.collate now) (kept : seen.payments ⊆ now.payments)
    (unpadded : PaymentService.Unpadded req)
    (named : payment.channel = req.channel ∧
      payment.channelTradeNo = PaymentService.storedTradeNo req)
    (fresh : ∀ row ∈ seen.payments, P.collate row.val.paymentNo ≠ P.collate payment.paymentNo)
    (clash : seen.hasPaymentKey P.collate payment = true)
    (other : ∀ row, seen.findPayment P.collate req.channel req.channelTradeNo = some row →
      row.val.orderNo ≠ req.orderNo) : ¬BoundHere P.collate now req := by
  rintro ⟨bound, present, channel, tradeNo, here⟩
  obtain ⟨row, member, matched, selected⟩ := tradeNo_found fresh clash
  rw [unpadded] at named tradeNo
  rw [named.1, named.2] at matched selected
  have same : row = bound := keys.channelTrade.eq_of_key (kept member) present
    (by rw [selected.1, selected.2, channel, tradeNo])
  exact other row matched (same ▸ here)

/-- An order found neither pending nor paid is never paid later. -/
theorem unpayable_unpaid {seen now : Db} {req : PaymentCallbackReq} {row : Row Order}
    (keys : Schema P.collate now) (evolved : Evolves seen now)
    (found : seen.findOrder P.collate req.orderNo = some row)
    (settled : row.val.status ≠ .kPendingPayment) (unpaid : row.val.status ≠ .kPaid) :
    ¬PaidHere P.collate now req := by
  rintro ⟨paid, present, named, status⟩
  have member : row ∈ seen.orders := List.mem_of_find?_eq_some found
  have key : P.collate row.val.orderNo = P.collate req.orderNo := by
    simpa using List.find?_some found
  obtain ⟨later, kept, _, _, fixed⟩ := evolved.orders row member
  obtain rfl := fixed settled
  have same : later = paid := keys.orderNo.eq_of_key kept present (key.trans named.symm)
  exact unpaid (same ▸ status)

/-- An order stays paid. -/
theorem PaidHere.lasting {collate : String → String} {before after : Db} {req : PaymentCallbackReq}
    (paid : PaidHere collate before req) (evolved : Evolves before after) :
    PaidHere collate after req := by
  obtain ⟨row, member, named, status⟩ := paid
  obtain ⟨later, present, _, _, fixed⟩ := evolved.orders row member
  obtain rfl := fixed (by simp [status])
  exact ⟨later, present, named, status⟩

section Answered

variable {first : Shared Db} {system : Trade} {order : Row Order} {account : Row Account}
  {caller : Nat} {req : PaymentCallbackReq} {rawBody : String} {result : Result Json}
  {session : Connection}

/-- In every reached state every callback that has been answered was answered as a
replay if it is one. -/
theorem answered_asReplay (formed : WellFormed P.collate first)
    (payable : Payable first.committed order account)
    (reached : Reached P (Serial P (CallbackOf P order.val)) first system)
    (present : system.calls[caller]? =
      some ⟨.handleCallback req rawBody, .done (.reply result), session⟩) :
    AsReplay P.collate system.shared.committed req result := by
  have sound := reached_serial formed reached
  obtain ⟨⟨accepted, named, amount⟩, -, ended⟩ :=
    sound.safe caller _ present system.shared ⟨.refl _, fun _ => rfl⟩ sound.inv
  have keys := sound.inv.1.schema
  generalize session.published = history at ended
  cases ended with
  | rejectedCallback _ rejected => exact absurd accepted rejected
  | callback ended =>
    cases ended with
    | faulted fault =>
      cases fault with
      | db => exact .of_code .kDbError rfl (by simp)
      | std => exact .of_code .kInternalError rfl (by simp)
    | refused watched holds refusal =>
      have current := serial_watched watched
      rw [← current] at refusal
      exact (refusal_absurd formed.schema payable holds.1.schema holds.2 named amount refusal).elim
    | conflicting asked number watched same clash other evolves =>
      rw [serial_watched watched] at clash evolves
      have fresh := number _ rfl
      rw [serial_watched asked] at fresh
      have unbound := fun unpadded =>
        conflict_unbound keys evolves.payments unpadded same fresh clash other
      exact ⟨fun unpadded bound => absurd bound (unbound unpadded),
        fun _ => List.mem_map.mpr ⟨.kChannelTradeConflict, by simp, rfl⟩⟩
    | unpayable watched settled found unpaid evolves =>
      rw [serial_watched watched] at settled evolves
      have closed := settled _ (List.mem_of_find?_eq_some found) (by simpa using List.find?_some found)
      have never := unpayable_unpaid keys evolves found closed unpaid
      have other : ErrCode.kOrderStatusInvalid.toInt ≠ ErrCode.kChannelTradeConflict.toInt := by decide
      exact ⟨fun _ _ => other, fun paid => absurd paid never⟩
    | replayed | processed => exact .of_code .kSuccess rfl (by simp)

/-- A callback that answers with one of the two codes of a decided order, while its order
is paid, answers with success. -/
theorem decided_success (formed : WellFormed P.collate first)
    (reached : Reached P (Serial P (CallbackOf P order.val)) first system)
    (present : system.calls[caller]? =
      some ⟨.handleCallback req rawBody, .done (.reply result), session⟩)
    (paid : PaidHere P.collate system.shared.committed req)
    (decided : PaymentService.Decided result) : result.code = ErrCode.kSuccess.toInt := by
  refine decided.resolve_right fun refused => ?_
  have sound := reached_serial formed reached
  obtain ⟨⟨accepted, -, -⟩, -, ended⟩ :=
    sound.safe caller _ present system.shared ⟨.refl _, fun _ => rfl⟩ sound.inv
  generalize session.published = history at ended
  cases ended with
  | rejectedCallback _ rejected => exact absurd accepted rejected
  | callback ended =>
    cases ended with
    | faulted fault => cases fault <;> cases refused
    | refused _ _ refusal => cases refusal <;> cases refused
    | conflicting | replayed | processed => cases refused
    | unpayable watched settled found unpaid evolves =>
      rw [serial_watched watched] at settled evolves
      have closed := settled _ (List.mem_of_find?_eq_some found) (by simpa using List.find?_some found)
      exact unpayable_unpaid sound.inv.1.schema evolves found closed unpaid paid

/-- The order that a call is about to mark as paid. -/
def marking : Prog Answer → Option String
  | .statement (.orderMarkPaid orderNo) _ => some orderNo
  | _ => none

/-- The program is at the update of the order. -/
theorem marking_some {program : Prog Answer} {orderNo : String}
    (asked : marking program = some orderNo) : ∃ k, program = .statement (.orderMarkPaid orderNo) k := by
  unfold marking at asked
  split at asked
  · cases asked
    exact ⟨_, rfl⟩
  · cases asked

/-- The next request of the callback is the update of its order. It changes no row,
as another callback has paid the order: the callback has committed nothing itself. -/
structure Overtaken (P : Platform) (system : Trade) (caller : Nat) (req : PaymentCallbackReq)
    (env : Env) : Prop where
  paid : PaidHere P.collate system.shared.committed req
  unchanged : ∃ rawBody program session changes, system.calls[caller]? =
    some ⟨.handleCallback req rawBody, program, session⟩ ∧ marking program = some req.orderNo ∧
    execute P.collate (.orderMarkPaid req.orderNo) system.shared.counter env
      ((engine P.collate).overlay system.shared.committed session.own) = .ok (0, changes)

/-- Once the update has been answered, the callback is calm: it is left with a re-read, which
sees the order paid, and with the answer as a replay. -/
theorem overtaken_calm {admits : Trade → Action Call Env Fault → Prop} {env : Env}
    {marked : Trade} (reached : Reached P admits first system)
    (overtaken : Overtaken P system caller req env)
    (taken : system.step (engine P.collate) (program P) (.advance caller env) = some marked) :
    marked.CalmAt (engine P.collate) PaymentService.DecidedAnswer caller := by
  obtain ⟨rawBody, _, session, changes, present, asked, ran⟩ := overtaken.unchanged
  obtain ⟨k, rfl⟩ := marking_some asked
  have walk := reached_programs
    (fun (call : Call) (here : Prog Answer) =>
      ∀ (req : PaymentCallbackReq) (rawBody : String), call = .handleCallback req rawBody →
        here.Everywhere (PaymentService.Rereads P PaymentService.DecidedAnswer))
    (by rintro _ req rawBody rfl; exact PaymentService.handleCallback_rereads P req rawBody)
    (fun _ _ _ holds continues req rawBody called => (holds req rawBody called).continues continues)
    reached
  have calm := (walk caller _ present req rawBody rfl).1
  rcases System.step_cases taken with ⟨request, same, -⟩ |
    ⟨mover, reading, active, moved, after, shared, same, stored, moves, rfl⟩ |
    ⟨mover, fault, active, moved, after, same, -⟩
  · cases same
  · cases same
    obtain rfl := Option.some.inj (present.symm.trans stored)
    have update : (engine P.collate).source (.orderMarkPaid req.orderNo) = .current := rfl
    have answered : (engine P.collate).run (.orderMarkPaid req.orderNo) system.shared.counter env
        ((engine P.collate).overlay system.shared.committed session.own) = .ok (0, changes) := ran
    simp only [advance, update, answered] at moves
    split at moves
    · cases moves
    · obtain ⟨rfl, -⟩ := Prod.mk.inj (Option.some.inj moves)
      exact ⟨_, List.getElem?_set_self (List.getElem?_eq_some_iff.mp present).1, calm⟩
  · cases same

/-- A callback whose update of the order changed no row, as the order was paid by another
one, is answered with success unless one of its later requests fails.

Proof: after the update it only re-reads its order, and it answers with one of two codes.
The order stays paid, and the snapshot of the re-read is up to date. -/
theorem overtaken_success {env : Env} {marked last : Trade} (formed : WellFormed P.collate first)
    (reached : Reached P (Serial P (CallbackOf P order.val)) first system)
    (overtaken : Overtaken P system caller req env)
    (taken : system.step (engine P.collate) (program P) (.advance caller env) = some marked)
    (rest : Transitions.Reached (System.step (engine P.collate) (program P))
      (Uninterrupted (Serial P (CallbackOf P order.val)) caller) marked last)
    (ended : last.calls[caller]? =
      some ⟨.handleCallback req rawBody, .done (.reply result), session⟩) :
    result.code = ErrCode.kSuccess.toInt := by
  obtain ⟨rawBody, _, mine, changes, present, asked, -⟩ := overtaken.unchanged
  obtain ⟨k, rfl⟩ := marking_some asked
  have admitted : Serial P (CallbackOf P order.val) system (.advance caller env) := by
    intro active stored
    obtain rfl := Option.some.inj (present.symm.trans stored)
    exact ⟨fun publishing => absurd publishing (by simp [publishes]),
      fun asking => absurd asking (by simp [asks])⟩
  have through : Reached P (Serial P (CallbackOf P order.val)) first marked :=
    reached.step _ admitted taken
  -- Both the way here and the payment of the order carry over to the last state.
  have kept : Reached P (Serial P (CallbackOf P order.val)) first last ∧
      PaidHere P.collate last.shared.committed req := by
    clear ended
    induction rest with
    | initial =>
      exact ⟨through,
        overtaken.paid.lasting (reached_evolves formed (reached.mono serial_admits) taken)⟩
    | step action _ allowed moved inductionHypothesis =>
      obtain ⟨before, paid⟩ := inductionHypothesis
      exact ⟨before.step action allowed.1 moved,
        paid.lasting (reached_evolves formed (before.mono serial_admits) moved)⟩
  obtain ⟨value, same, decided⟩ := reached_good (overtaken_calm reached overtaken taken) rest ended
  obtain rfl := Answer.reply.inj same
  exact decided_success formed kept.1 ended kept.2 decided

end Answered

/-- Callbacks are answered as replays: those that have been answered, and those whose
update of the order is about to change no row. -/
structure Replaying (P : Platform) (admits : Trade → Action Call Env Fault → Prop) (system : Trade) :
    Prop where
  answered : ∀ (caller : Nat) req rawBody result session, system.calls[caller]? =
    some ⟨.handleCallback req rawBody, .done (.reply result), session⟩ →
    AsReplay P.collate system.shared.committed req result
  overtaken : ∀ (caller : Nat) req env marked, Overtaken P system caller req env →
    system.step (engine P.collate) (program P) (.advance caller env) = some marked →
    ∀ last, Transitions.Reached (System.step (engine P.collate) (program P))
      (Uninterrupted admits caller) marked last →
    ∀ rawBody result session, last.calls[caller]? =
      some ⟨.handleCallback req rawBody, .done (.reply result), session⟩ →
    result.code = ErrCode.kSuccess.toInt

/-- Serialised callbacks of one payable order, whatever the interleaving otherwise and
whatever fails: in every reached state they are answered as replays, and one whose update of
the order changes no row will be answered with success unless it fails itself. No open
snapshot is out of date, so a re-read sees whatever the insert or the update has met. -/
theorem reached_asReplay {first : Shared Db} {system : Trade} {order : Row Order}
    {account : Row Account} (formed : WellFormed P.collate first)
    (payable : Payable first.committed order account)
    (reached : Reached P (Serial P (CallbackOf P order.val)) first system) :
    Replaying P (Serial P (CallbackOf P order.val)) system where
  answered _ _ _ _ _ present := answered_asReplay formed payable reached present
  overtaken _ _ _ _ overtaken taken _ rest _ _ _ ended :=
    overtaken_success formed reached overtaken taken rest ended

end OneOrder

namespace Shop

/-- Order 7001, waiting for its payment of 39.90. -/
def pendingOrder : Row Order :=
  ⟨50, ⟨"7001", "req-0001", 8, 1, 2, 1995, 3990, .kPendingPayment, "2026-09-13 13:28:16", ""⟩⟩

/-- The shop's store with that order. -/
def ordered : Shared Db :=
  { store with committed := { store.committed with orders := [pendingOrder] } }

/-- The store with the pending order is well formed. -/
theorem ordered_formed : WellFormed platform.collate ordered := by
  constructor <;> constructor <;>
    simp [ordered, pendingOrder, store, UniqueIds, UniqueKey]

/-- Its user's account covers the order. -/
theorem ordered_payable : Payable ordered.committed pendingOrder ⟨1, ⟨"A1", 8, 10000, 0, 0⟩⟩ := by
  constructor <;> simp [ordered, pendingOrder, store]

/-- Two callbacks of the order. -/
def callbacks (tradeNo : String) : Schedule :=
  [.call (callback "cb-00001" "T1"), .call (callback "cb-00002" tradeNo)]

/-- The second callback looks its order up, the first one runs to its end, the
second one continues. -/
def overtaken (tradeNo : String) (rest : Nat) : Schedule :=
  callbacks tradeNo ++ advances 1 "8002" 2 ++ advances 0 "8001" 13 ++ advances 1 "8002" rest

/-- The request of a callback. -/
def request : Call → Option PaymentCallbackReq
  | .handleCallback req _ => some req
  | _ => none

/-- A callback is what has the request of one. -/
theorem request_some {call : Call} {req : PaymentCallbackReq} (named : request call = some req) :
    ∃ rawBody, call = .handleCallback req rawBody := by
  cases call with
  | handleCallback asked rawBody =>
    cases named
    exact ⟨rawBody, rfl⟩
  | createOrder | reconcile | listDiffs | handleDiff => cases named

/-- The callbacks answered so far, with their codes. -/
def answers (system : Trade) : List (Option (PaymentCallbackReq × Int)) :=
  system.calls.map fun active => match active.call, active.program with
    | .handleCallback req _, .done (.reply result) => some (req, result.code)
    | _, _ => none

/-- An answer that the summary of the run lists. -/
theorem answers_get {system : Trade} {caller : Nat} {req : PaymentCallbackReq} {code : Int}
    (given : (answers system)[caller]? = some (some (req, code))) :
    ∃ rawBody result session, system.calls[caller]? =
      some ⟨.handleCallback req rawBody, .done (.reply result), session⟩ ∧ result.code = code := by
  rw [answers, List.getElem?_map] at given
  obtain ⟨⟨call, program, session⟩, present, same⟩ := Option.map_eq_some_iff.mp given
  simp only at same
  split at same
  · rename_i request rawBody result
    obtain ⟨rfl, rfl⟩ := Prod.mk.inj (Option.some.inj same)
    exact ⟨rawBody, result, session, present, rfl⟩
  · cases same

/-- The request of the second callback. -/
def second (tradeNo : String) : PaymentCallbackReq :=
  { requestId := "cb-00002"
    orderNo := "7001"
    channel := "MOCK"
    channelTradeNo := tradeNo
    amount := "39.90"
    timestamp := "1789275496"
    sign := platform.hmacSha256Hex platform.secret ("7001|" ++ tradeNo ++ "|39.90|1789275496") }

/-- The calls of a schedule are callbacks of the order. -/
def admitted (_ : Trade) (action : Action Call Env Fault) : Bool :=
  action.all fun call => decide (CallbackOf platform pendingOrder.val call)

/-- The test of a serial step, besides the calls. -/
def serialised (system : Trade) (action : Action Call Env Fault) : Bool :=
  admitted system action && match action with
    | .advance caller env => system.calls[caller]?.all fun active =>
      (!publishes active.program active.session || (List.range system.calls.length).all fun other =>
        other == caller || system.calls[other]?.all fun running => running.session.snapshot.isNone) &&
      (!asks active.program || env.nextId.all fun id => system.shared.committed.payments.all fun row =>
        platform.collate row.val.paymentNo != platform.collate id)
    | _ => true

/-- The decidable form of what is admitted. -/
theorem admitted_sound {system : Trade} {action : Action Call Env Fault}
    (test : admitted system action = true) :
    Admits (CallbackOf platform pendingOrder.val) system action := by
  cases action with
  | call call =>
    have served : CallbackOf platform pendingOrder.val call := of_decide_eq_true test
    exact served
  | advance | interrupt => trivial

/-- The decidable form of serialised calls. -/
theorem serialised_sound {system : Trade} {action : Action Call Env Fault}
    (test : serialised system action = true) :
    Serial platform (CallbackOf platform pendingOrder.val) system action := by
  obtain ⟨served, apart⟩ := Bool.and_eq_true_iff.mp test
  cases action with
  | call call => exact admitted_sound served
  | interrupt => trivial
  | advance caller env =>
    intro active present
    simp only [present, Option.all_some, Bool.and_eq_true, Bool.or_eq_true, Bool.not_eq_true',
      List.all_eq_true, List.mem_range, beq_iff_eq] at apart
    refine ⟨fun publishing other running distinct stored => ?_, fun asking => ?_⟩
    · have inside := (List.getElem?_eq_some_iff.mp stored).1
      have closed := (apart.1.resolve_left (by simp [publishing]) other inside).resolve_left distinct
      simpa [stored] using closed
    · have fresh := apart.2.resolve_left (by simp [asking])
      intro id issued row member
      rw [Option.mem_def] at issued
      simp only [issued, Option.all_some, List.all_eq_true, bne_iff_ne] at fresh
      exact fresh row member

/-- The second callback's answer in the final system of a schedule, and whether its
trade number is bound and its order paid there. -/
def outcome (check : Trade → Action Call Env Fault → Bool) (tradeNo : String) (schedule : Schedule) :
    Option (Option (Option (PaymentCallbackReq × Int)) × Bool × Bool) :=
  (runFrom ordered check schedule).map fun system =>
    ((answers system)[1]?,
      decide (BoundHere platform.collate system.shared.committed (second tradeNo)),
      decide (PaidHere platform.collate system.shared.committed (second tradeNo)))

/-- What an executed schedule shows. -/
theorem outcome_reached {check : Trade → Action Call Env Fault → Bool}
    {admits : Trade → Action Call Env Fault → Prop}
    (sound : ∀ system action, check system action = true → admits system action)
    {tradeNo : String} {schedule : Schedule} {code : Int} {bound paid : Bool}
    (ran : outcome check tradeNo schedule = some (some (some (second tradeNo, code)), bound, paid)) :
    ∃ (system : Trade) (rawBody : String) (result : Result Json) (session : Connection),
      Reached platform admits ordered system ∧
      system.calls[1]? =
        some ⟨.handleCallback (second tradeNo) rawBody, .done (.reply result), session⟩ ∧
      result.code = code ∧
      (bound = true → BoundHere platform.collate system.shared.committed (second tradeNo)) ∧
      (paid = true → PaidHere platform.collate system.shared.committed (second tradeNo)) := by
  obtain ⟨system, ran, same⟩ := Option.map_eq_some_iff.mp ran
  obtain ⟨given, isBound, isPaid⟩ : _ ∧ _ ∧ _ := by simpa only [Prod.mk.injEq] using same
  obtain ⟨rawBody, result, session, present, answered⟩ := answers_get given
  exact ⟨system, rawBody, result, session, .of_runWhere sound .initial ran, present, answered,
    fun yes => of_decide_eq_true (isBound.trans yes), fun yes => of_decide_eq_true (isPaid.trans yes)⟩

/-- Both callbacks carry a number with a space past its column, and the second one starts
after the first one has ended. -/
def padded : Schedule :=
  .call (callback "cb-00001" paddedTradeNo) :: advances 0 "8001" 13 ++
    .call (callback "cb-00002" paddedTradeNo) :: advances 1 "8002" 7

/-- The second callback, with another number than the first one, comes to its update
after the first one has ended. -/
def paidBefore : Schedule := callbacks "T2" ++ advances 0 "8001" 13 ++ advances 1 "8002" 4

/-- The clock and the ids that the second callback gets. -/
def secondEnv : Env := ⟨some "8002", 1789275496⟩

/-- The second callback is about to update its order, and no row will change. -/
def updatesNothing (system : Trade) : Bool :=
  system.calls[1]?.any fun active => request active.call = some (second "T2") &&
    marking active.program = some "7001" &&
    ((execute platform.collate (.orderMarkPaid "7001") system.shared.counter secondEnv
      ((engine platform.collate).overlay system.shared.committed active.session.own)).toOption.map
        Prod.fst) = some 0

/-- The decidable form of a callback whose update is about to change no row. -/
theorem updatesNothing_overtaken {system : Trade} (test : updatesNothing system = true)
    (paid : PaidHere platform.collate system.shared.committed (second "T2")) :
    Overtaken platform system 1 (second "T2") secondEnv := by
  obtain ⟨⟨call, program, session⟩, present, test⟩ := Option.any_eq_true _ _ |>.mp test
  simp only [Bool.and_eq_true, decide_eq_true_eq] at test
  obtain ⟨⟨named, asked⟩, none⟩ := test
  obtain ⟨rawBody, rfl⟩ := request_some named
  obtain ⟨⟨affected, changes⟩, ran, rfl⟩ := Option.map_eq_some_iff.mp none
  refine ⟨paid, rawBody, program, session, changes, present, asked, ?_⟩
  cases executed : execute platform.collate (.orderMarkPaid "7001") system.shared.counter secondEnv
    ((engine platform.collate).overlay system.shared.committed session.own) with
  | error fault =>
    rw [executed] at ran
    cases ran
  | ok reply =>
    rw [executed] at ran
    cases ran
    exact executed

/-- The test of a serial step that does not interrupt the second callback. -/
def uninterrupted (system : Trade) (action : Action Call Env Fault) : Bool :=
  serialised system action && match action with
    | .interrupt caller _ => caller != 1
    | _ => true

/-- The decidable form of a run without a failure of the second callback. -/
theorem uninterrupted_sound {system : Trade} {action : Action Call Env Fault}
    (test : uninterrupted system action = true) :
    Uninterrupted (Serial platform (CallbackOf platform pendingOrder.val)) 1 system action := by
  obtain ⟨serial, others⟩ := Bool.and_eq_true_iff.mp test
  refine ⟨serialised_sound serial, ?_⟩
  rintro fault rfl
  simp at others

/-- Run to the update, let it happen, and run to the answer: whether the update was to
change no row of a paid order, and the answer. -/
def late : Option (Bool × Bool × Option (Option (PaymentCallbackReq × Int))) :=
  (runFrom ordered serialised paidBefore).bind fun middle =>
    (middle.step (engine platform.collate) (program platform) (.advance 1 secondEnv)).bind
      fun marked =>
        (marked.runWhere (engine platform.collate) (program platform) uninterrupted
          (advances 1 "8002" 3)).map fun last =>
            (updatesNothing middle,
              decide (PaidHere platform.collate middle.shared.committed (second "T2")),
              (answers last)[1]?)

end Shop

/-- The second callback is overtaken between its order lookup and its insert. With
the same trade number it is answered as a conflict, with another one as an order
that cannot be paid, though both are replays. Without any overlap, the replay of a number
with a space past its column is answered as a conflict too. -/
theorem shop_overtaken :
    (∃ (system : Trade) (rawBody : String) (result : Result Json) (session : Connection),
      Reached Shop.platform (Admits (CallbackOf Shop.platform Shop.pendingOrder.val)) Shop.ordered
        system ∧
      system.calls[1]? =
        some ⟨.handleCallback (Shop.second "T1") rawBody, .done (.reply result), session⟩ ∧
      BoundHere Shop.platform.collate system.shared.committed (Shop.second "T1") ∧
      result.code = ErrCode.kChannelTradeConflict.toInt) ∧
    (∃ (system : Trade) (rawBody : String) (result : Result Json) (session : Connection),
      Reached Shop.platform (Admits (CallbackOf Shop.platform Shop.pendingOrder.val)) Shop.ordered
        system ∧
      system.calls[1]? =
        some ⟨.handleCallback (Shop.second "T2") rawBody, .done (.reply result), session⟩ ∧
      PaidHere Shop.platform.collate system.shared.committed (Shop.second "T2") ∧
      result.code = ErrCode.kOrderStatusInvalid.toInt) ∧
    ∃ (system : Trade) (rawBody : String) (result : Result Json) (session : Connection),
      Reached Shop.platform (Serial Shop.platform (CallbackOf Shop.platform Shop.pendingOrder.val))
        Shop.ordered system ∧
      system.calls[1]? = some ⟨.handleCallback (Shop.second Shop.paddedTradeNo) rawBody,
        .done (.reply result), session⟩ ∧
      BoundHere Shop.platform.collate system.shared.committed (Shop.second Shop.paddedTradeNo) ∧
      result.code = ErrCode.kChannelTradeConflict.toInt := by
  obtain ⟨one, firstBody, conflict, firstSession, firstReached, firstPresent, firstCode, bound, -⟩ :=
    Shop.outcome_reached (fun _ _ => Shop.admitted_sound)
      (show Shop.outcome Shop.admitted "T1" (Shop.overtaken "T1" 5) =
        some (some (some (Shop.second "T1", 50003)), true, true) by decide +kernel)
  obtain ⟨two, secondBody, invalid, secondSession, secondReached, secondPresent, secondCode, -, paid⟩ :=
    Shop.outcome_reached (fun _ _ => Shop.admitted_sound)
      (show Shop.outcome Shop.admitted "T2" (Shop.overtaken "T2" 6) =
        some (some (some (Shop.second "T2", 40002)), false, true) by decide +kernel)
  obtain ⟨three, thirdBody, missed, thirdSession, thirdReached, thirdPresent, thirdCode, stored, -⟩ :=
    Shop.outcome_reached (fun _ _ => Shop.serialised_sound)
      (show Shop.outcome Shop.serialised Shop.paddedTradeNo Shop.padded =
        some (some (some (Shop.second Shop.paddedTradeNo, 50003)), true, true) by decide +kernel)
  exact ⟨⟨one, firstBody, conflict, firstSession, firstReached, firstPresent, bound rfl, firstCode⟩,
    ⟨two, secondBody, invalid, secondSession, secondReached, secondPresent, paid rfl, secondCode⟩,
    three, thirdBody, missed, thirdSession, thirdReached, thirdPresent, stored rfl, thirdCode⟩

/-- The second callback looks its order up after the first one has committed, and is
answered as a replay: with the same trade number, and with another one, for which its
update changes no row. -/
theorem shop_asReplay :
    (∃ (system : Trade) (rawBody : String) (result : Result Json) (session : Connection),
      Reached Shop.platform (Serial Shop.platform (CallbackOf Shop.platform Shop.pendingOrder.val))
        Shop.ordered system ∧
      system.calls[1]? =
        some ⟨.handleCallback (Shop.second "T1") rawBody, .done (.reply result), session⟩ ∧
      PaymentService.Unpadded (Shop.second "T1") ∧
      BoundHere Shop.platform.collate system.shared.committed (Shop.second "T1") ∧
      result.code ≠ ErrCode.kChannelTradeConflict.toInt) ∧
    ∃ (middle marked last : Trade) (rawBody : String) (result : Result Json) (session : Connection),
      Reached Shop.platform (Serial Shop.platform (CallbackOf Shop.platform Shop.pendingOrder.val))
        Shop.ordered middle ∧
      Overtaken Shop.platform middle 1 (Shop.second "T2") Shop.secondEnv ∧
      middle.step (engine Shop.platform.collate) (program Shop.platform)
        (.advance 1 Shop.secondEnv) = some marked ∧
      Transitions.Reached (System.step (engine Shop.platform.collate) (program Shop.platform))
        (Uninterrupted (Serial Shop.platform (CallbackOf Shop.platform Shop.pendingOrder.val)) 1)
        marked last ∧
      last.calls[1]? =
        some ⟨.handleCallback (Shop.second "T2") rawBody, .done (.reply result), session⟩ ∧
      result.code = ErrCode.kSuccess.toInt := by
  constructor
  · obtain ⟨system, rawBody, result, session, reached, present, -, bound, -⟩ :=
      Shop.outcome_reached (fun _ _ => Shop.serialised_sound)
        (show Shop.outcome Shop.serialised "T1"
            (Shop.callbacks "T1" ++ Shop.advances 0 "8001" 13 ++ Shop.advances 1 "8002" 7) =
          some (some (some (Shop.second "T1", 0)), true, true) by decide +kernel)
    have replaying := reached_asReplay Shop.ordered_formed Shop.ordered_payable reached
    have unpadded : PaymentService.Unpadded (Shop.second "T1") := by decide
    exact ⟨system, rawBody, result, session, reached, present, unpadded, bound rfl,
      (replaying.answered _ _ _ _ _ present).bound unpadded (bound rfl)⟩
  · have ran : Shop.late = some (true, true, some (some (Shop.second "T2", 0))) := by decide +kernel
    obtain ⟨middle, before, ran⟩ := Option.bind_eq_some_iff.mp ran
    obtain ⟨marked, taken, ran⟩ := Option.bind_eq_some_iff.mp ran
    obtain ⟨last, after, same⟩ := Option.map_eq_some_iff.mp ran
    simp only [Prod.mk.injEq, decide_eq_true_eq] at same
    obtain ⟨nothing, paid, given⟩ := same
    obtain ⟨rawBody, result, session, ended, -⟩ := Shop.answers_get given
    have overtaken := Shop.updatesNothing_overtaken nothing paid
    have rest := Transitions.Reached.of_runWhere (fun _ _ => Shop.uninterrupted_sound) .initial after
    have reached : Reached Shop.platform
        (Serial Shop.platform (CallbackOf Shop.platform Shop.pendingOrder.val)) Shop.ordered middle :=
      Transitions.Reached.of_runWhere (fun _ _ => Shop.serialised_sound) .initial before
    have replaying := reached_asReplay Shop.ordered_formed Shop.ordered_payable reached
    exact ⟨middle, marked, last, rawBody, result, session, reached, overtaken, taken, rest, ended,
      replaying.overtaken _ _ _ _ overtaken taken _ rest _ _ _ ended⟩

end TradeReconcile
