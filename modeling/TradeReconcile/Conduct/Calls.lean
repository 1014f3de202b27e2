import TradeReconcile.Transactions.History
import TradeReconcile.Conduct.Order
import TradeReconcile.Conduct.Payment
import TradeReconcile.Conduct.Reconcile

/-!
# Concurrent service calls refine single steps

Every service call keeps every suitable discipline from its first request to its
answer. The discipline of row locks is the one all schedules satisfy: under it the
committed database is, at every moment of every run, the result of a sequence of
single steps, and a finished call has taken one of these steps or none, as its
answer says.
-/

namespace TradeReconcile

open Transactions

/-- How a call of each service may have ended, with what it has published by then. Its answer
is tied to the history of its own commits and to the store it ended in. -/
inductive Ended (P : Platform) (D : Discipline Call Db Change Lock Env) :
    Call → Answer → List (Db × Db) → Shared Db → Prop where
  | rejectedOrder {req : CreateOrderReq} {message : String} {shared : Shared Db} :
      Ended P D (.createOrder req)
        (.order (.kExecuted (Result.fail .kParamInvalid message req.requestId))) [] shared
  | order {req : CreateOrderReq} {outcome : Except Exn CreateOrderOutcome}
      {history : List (Db × Db)} {shared : Shared Db} :
      OrderService.OrderEnd P req outcome history shared →
      Ended P D (.createOrder req) (.order (OrderService.catchOutcome req.requestId outcome))
        history shared
  | rejectedCallback {req : PaymentCallbackReq} {rawBody message : String} {code : ErrCode}
      {shared : Shared Db} :
      code ∈ [ErrCode.kUnsupportedChannel, .kSignVerifyFailed] →
      ¬PaymentService.Accepted P req →
      Ended P D (.handleCallback req rawBody)
        (.reply (Result.fail code message req.requestId)) [] shared
  | callback {req : PaymentCallbackReq} {rawBody : String} {outcome : Except Exn (Result Json)}
      {history : List (Db × Db)} {shared : Shared Db} :
      PaymentService.CallbackEnd P D req rawBody outcome history shared →
      Ended P D (.handleCallback req rawBody) (.reply (catchAll req.requestId outcome))
        history shared
  | rejectedRun {billDate : String} {bill : Option String} {message : String}
      {shared : Shared Db} :
      Ended P D (.reconcile billDate bill)
        (.reply (Result.fail .kReconcileBillParseFailed message billDate)) [] shared
  | run {billDate bill : String} {outcome : Except Exn (Result Json)}
      {history : List (Db × Db)} {shared : Shared Db} :
      ReconcileService.RunEnd P D billDate bill outcome history shared →
      Ended P D (.reconcile billDate (some bill)) (.reply (catchAll billDate outcome))
        history shared
  | listed {batchNo : String} {limit : Nat} {answer : Answer} {shared : Shared Db} :
      Ended P D (.listDiffs batchNo limit) answer [] shared
  | handle {diffId : Int} {action remark : String} {outcome : Except Fault (Result Json)}
      {history : List (Db × Db)} {shared : Shared Db} :
      ReconcileService.HandleEnd diffId action remark outcome history shared →
      Ended P D (.handleDiff diffId action remark) (.ofExcept outcome) history shared

section Services

variable {P : Platform} {D : Discipline Call Db Change Lock Env}

/-- What a finished call leaves: no lock, and an ending of its service. -/
def Finished (P : Platform) (D : Discipline Call Db Change Lock Env) (call : Call) (answer : Answer)
    (session : Connection) (shared : Shared Db) : Prop :=
  session.locks = [] ∧ Ended P D call answer session.published shared

/-- A transaction whose outcome is translated into an answer. Nothing of the body's own is
left at the end, so the translation cannot do any harm. -/
theorem answered_safe {α : Type} {call : Call}
    {post : Except Exn α → List (Db × Db) → Shared Db → Prop} (ending : Ending D call post)
    {body : Guarded α} {answer : Except Exn α → Answer} {shared : Shared Db} (holds : D.Inv shared)
    (run : ∀ now, D.Inv now → Guarded.Safe P D call post body false .idle now)
    (translated : ∀ {outcome history now}, post outcome history now →
      Ended P D call (answer outcome) history now) :
    Safe D (engine P.collate) call (Finished P D call)
      ((Guarded.transaction body).bind fun outcome => .done (answer outcome)) .idle shared := by
  refine Safe.bind (safe_mono (Guarded.transaction_safe ending run) ?_) holds
  intro outcome session now ended later moved steady
  exact ⟨ended.1, translated (ending.lasting moved steady ended.2)⟩

/-- Every service keeps every suitable discipline. The proof goes through the five services,
each with the lemma of its own module. -/
theorem program_safe {call : Call} (trading : Trading P D call) {shared : Shared Db}
    (holds : D.Inv shared) :
    Safe D (engine P.collate) call (Finished P D call) (program P call) .idle shared := by
  cases call with
  | createOrder req =>
    rw [program, OrderService.createOrder]
    split
    · exact fun now _ _ => ⟨rfl, .rejectedOrder⟩
    · rename_i accepted
      rw [Program.bind_bind]
      exact answered_safe (OrderService.order_ending trading) holds
        (fun now _ => OrderService.createOrderBody_safe trading now (by omega)) .order
  | handleCallback req rawBody =>
    rw [program, PaymentService.handleCallback]
    split
    · rename_i unsupported
      exact fun now _ _ =>
        ⟨rfl, .rejectedCallback (by simp) fun accepted => unsupported accepted.channel⟩
    split
    · rename_i unsigned
      refine fun now _ _ => ⟨rfl, .rejectedCallback (by simp) fun accepted => ?_⟩
      simp [accepted.secret, accepted.signed] at unsigned
    · rw [Program.bind_bind]
      exact answered_safe (PaymentService.callback_ending trading) holds
        (fun now _ => PaymentService.handleCallbackBody_safe trading now) .callback
  | reconcile billDate bill =>
    cases bill with
    | none => exact fun now _ _ => ⟨rfl, .rejectedRun⟩
    | some text =>
      rw [program, ReconcileService.run]
      cases parsed : ReconcileService.parseBill text with
      | none => exact fun now _ _ => ⟨rfl, .rejectedRun⟩
      | some channels =>
        simp only [Program.bind_bind]
        exact answered_safe (ReconcileService.run_ending trading) holds
          (fun now _ => ReconcileService.runBody_safe trading parsed now) .run
  | listDiffs batchNo limit =>
    rintro now _ _
    refine ⟨?_, fun env reply changes _ last _ _ => ⟨rfl, .listed⟩⟩
    rintro (_ | _) last _ _ <;> exact ⟨rfl, .listed⟩
  | handleDiff diffId action remark =>
    refine Safe.bind (safe_mono (ReconcileService.handleDiff_safe trading shared) ?_) holds
    intro outcome session now ended later moved steady
    exact ⟨ended.1, .handle (ended.2.lasting (trading.relies moved).evolves)⟩

end Services

/-! The discipline of row locks. -/

section Locking

/-- Single steps of admitted requests, any number of them. -/
def Commits (P : Platform) (serves : Call → Prop) : Db → Db → Prop :=
  Relation.ReflTransGen fun before after => ∃ call, serves call ∧ Commit P call before after

/-- The committed database is well formed and comes from the first one by single
steps; a call relies on its locks; two calls are apart when their locks are. -/
def locking (P : Platform) (serves : Call → Prop) (first : Db) :
    Discipline Call Db Change Lock Env where
  Inv shared := WellFormed P.collate shared ∧ Commits P serves first shared.committed
  Guar call session before after :=
    Commit P call before after ∧ FromSnapshot P call session before after
  Rely _ session := Relies P.collate session
  Answers _ _ _ _ := True
  Apart _ session _ held := session.locks.Disjoint held.locks
  refl _ _ := .refl
  trans _ _ _ _ _ := .trans
  tick _ _ shared holds := ⟨⟨holds.1.tick, holds.2⟩, .tick shared⟩

/-- The invariant of the locks serves every call. -/
theorem locking_trading {P : Platform} {serves : Call → Prop} {first : Db} {call : Call}
    (served : serves call) : Trading P (locking P serves first) call where
  formed holds := holds.1
  relies moved := moved
  commits := by
    intro session shared after holds step drawn formed evolved kept
    refine ⟨⟨step, drawn⟩, ⟨formed, holds.2.tail ⟨call, served, step⟩⟩, ?_⟩
    intro other held apart
    exact ⟨Nat.le_refl _, fun lock taken => kept lock fun mine => apart mine taken, evolved⟩

/-- Schedules whose calls all come from a family of requests. -/
def Admits (serves : Call → Prop) (_ : Trade) : Action Call Env Fault → Prop
  | .call call => serves call
  | _ => True

/-- An executed schedule, with any requests and any tests on the way. -/
theorem reached_of_run {P : Platform} {first : Shared Db}
    {check : Trade → Action Call Env Fault → Bool} {schedule : Schedule} {system : Trade}
    (ran : (System.initial first).runWhere (engine P.collate) (program P) check schedule =
      some system) : Reached P (Admits fun _ => True) first system :=
  Transitions.Reached.of_runWhere (fun _ action _ => by cases action <;> trivial) .initial ran

/-- Every reachable system is sound under the discipline of row locks: a call that runs has
its locks to itself, and what it has written goes with what is committed. -/
theorem reached_locking {P : Platform} {serves : Call → Prop} {first : Shared Db} {system : Trade}
    (formed : WellFormed P.collate first) (reached : Reached P (Admits serves) first system) :
    Sound (locking P serves first.committed) (engine P.collate)
      (Finished P (locking P serves first.committed)) system := by
  refine reached_sound ?_ ?_ ?_ ?_ reached
  · exact ⟨formed, .refl⟩
  · exact fun _ _ _ served holds => program_safe (locking_trading served) holds
  · exact fun _ _ _ _ _ _ _ => trivial
  · exact fun _ _ _ _ _ _ _ _ _ _ _ separate => separate

/-- Refinement: at every moment of every run the committed database is the result
of single steps of admitted requests, in the order of their commits. -/
theorem reached_commits {P : Platform} {serves : Call → Prop} {first : Shared Db} {system : Trade}
    (formed : WellFormed P.collate first) (reached : Reached P (Admits serves) first system) :
    Commits P serves first.committed system.shared.committed :=
  (reached_locking formed reached).inv.2

/-- A publication is one step of its request, and a run publishes what it computed
from the snapshot of its connection. -/
theorem reached_publication {P : Platform} {serves : Call → Prop} {first : Shared Db}
    {system : Trade} (formed : WellFormed P.collate first)
    (reached : Reached P (Admits serves) first system) {caller : Nat}
    {active : Active Call Stmt Resp Env Fault Answer Db Change Lock}
    (present : system.calls[caller]? = some active)
    (publishing : publishes active.program active.session = true) :
    let after := ((engine P.collate).publish active.session system.shared).2.committed
    Commit P active.call system.shared.committed after ∧
      FromSnapshot P active.call active.session system.shared.committed after := by
  have sound := reached_locking formed reached
  exact ((sound.safe caller active present).published sound.inv publishing).guar
    (publishes_own publishing)

/-- A step only lets the committed database evolve. -/
theorem reached_evolves {P : Platform} {serves : Call → Prop} {first : Shared Db}
    {system next : Trade} {action : Action Call Env Fault} (formed : WellFormed P.collate first)
    (reached : Reached P (Admits serves) first system)
    (taken : system.step (engine P.collate) (program P) action = some next) :
    Evolves system.shared.committed next.shared.committed := by
  rcases System.step_effect taken with ⟨request, -, rfl⟩ |
    ⟨caller, active, rest, present, publishing, -, rfl⟩ |
    ⟨caller, active, moved, -, -, -, -, store, -⟩
  · exact .refl _
  · exact (reached_publication formed reached present publishing).1.evolves
  · rw [store]
    exact .refl _

/-- Answers: a call that has finished ended as its service can end. Nothing is said of calls
that are still on their way. -/
theorem reached_finished {P : Platform} {serves : Call → Prop} {first : Shared Db} {system : Trade}
    (formed : WellFormed P.collate first) (reached : Reached P (Admits serves) first system)
    {caller : Nat} {call : Call} {answer : Answer} {session : Connection}
    (present : system.calls[caller]? = some ⟨call, .done answer, session⟩) :
    Finished P (locking P serves first.committed) call answer session system.shared := by
  have sound := reached_locking formed reached
  exact sound.safe caller _ present system.shared (.refl _) sound.inv

end Locking

/-- A property of databases that every single step keeps holds throughout. The schema comes
with it, so a step may be looked at on well-formed databases only. -/
theorem commits_invariant {P : Platform} {serves : Call → Prop} {holds : Db → Prop}
    (step : ∀ {call before after}, serves call → Schema P.collate before →
      Commit P call before after → holds before → holds after)
    {first last : Db} (keys : Schema P.collate first) (started : holds first)
    (commits : Commits P serves first last) : holds last := by
  suffices both : Schema P.collate last ∧ holds last from both.2
  induction commits with
  | refl => exact ⟨keys, started⟩
  | tail _ taken inductionHypothesis =>
    obtain ⟨call, served, commit⟩ := taken
    exact ⟨commit.schema inductionHypothesis.1,
      step served inductionHypothesis.1 commit inductionHypothesis.2⟩

/-- Single steps only let the database evolve. -/
theorem commits_evolve {P : Platform} {serves : Call → Prop} {first last : Db}
    (commits : Commits P serves first last) : Evolves first last := by
  induction commits with
  | refl => exact .refl first
  | tail _ taken inductionHypothesis =>
    obtain ⟨call, -, commit⟩ := taken
    exact inductionHypothesis.trans commit.evolves

/-- The shop's store satisfies the schema. -/
theorem Shop.store_formed : WellFormed Shop.platform.collate Shop.store := by
  constructor <;> constructor <;>
    simp [Shop.store, UniqueIds, UniqueKey]

end TradeReconcile
