import TradeReconcile.Conduct.Calls
import TradeReconcile.Transactions.Alone

/-!
# A service call alone is all or nothing

One call has the store to itself, but any of its requests may fail and the id
generator may throw at any time. The discipline is the strictest one: nothing
moves between two requests. Whatever happens, the call ends with the whole effect
of its service or with none of it, and a fresh success is the sign of the former.
-/

namespace TradeReconcile

open Transactions

/-- The committed database stands still, and nobody is apart because nobody else
is there. -/
def solitary (P : Platform) : Discipline Call Db Change Lock Env where
  Inv := WellFormed P.collate
  Guar call _ := Commit P call
  Rely _ _ before after := before.counter ≤ after.counter ∧ after.committed = before.committed
  Answers _ _ _ _ := True
  Apart _ _ _ _ := False
  refl _ _ _ := ⟨Nat.le_refl _, rfl⟩
  trans _ _ _ _ _ one two := ⟨Nat.le_trans one.1 two.1, two.2.trans one.2⟩
  tick _ _ _ holds := ⟨holds.tick, Nat.le_succ _, rfl⟩

/-- The invariant of a call alone serves every call. -/
theorem solitary_trading (P : Platform) (call : Call) : Trading P (solitary P) call where
  formed holds := holds
  relies moved := by
    refine ⟨moved.1, fun lock _ => ?_, ?_⟩
    · rw [moved.2]
      exact Agree.refl P.collate lock _
    · rw [moved.2]
      exact Evolves.refl _
  commits _ step _ formed _ _ := ⟨step, formed, fun _ _ apart => apart.elim⟩

/-- A snapshot that nobody disturbs is the committed database. -/
theorem solitary_watched {P : Platform} {call : Call} {seen : Db} {shared : Shared Db}
    (watched : Watched (solitary P) call seen shared) : shared.committed = seen := by
  induction watched with
  | fixed same => exact same
  | moved _ _ moved inductionHypothesis => exact moved.2.trans inductionHypothesis

/-- The whole effect of a request on the database it found. Listing has none; the effects of
the others are those of the commits. -/
inductive Effect (P : Platform) : Call → Db → Db → Prop where
  | order {req : CreateOrderReq} {placement : Placement} {before after : Db} :
      Placed P req placement before after → Effect P (.createOrder req) before after
  | callback {req : PaymentCallbackReq} {rawBody : String} {settlement : Settlement}
      {before after : Db} :
      Settled P req rawBody settlement before after →
      Effect P (.handleCallback req rawBody) before after
  | run {billDate bill : String} {reconciliation : Reconciliation} {before after : Db} :
      Reconciled P.collate billDate bill before reconciliation before after →
      Effect P (.reconcile billDate (some bill)) before after
  | handle {diffId : Int} {action remark : String} {row : Row ReconcileDiff} {before after : Db} :
      Handled diffId action remark row before after →
      Effect P (.handleDiff diffId action remark) before after

/-- Every effect adds a row or closes a difference, so it is never the identity. -/
theorem Effect.ne {P : Platform} {call : Call} {before after : Db} (effect : Effect P call before after) :
    before ≠ after := by
  rintro rfl
  cases effect with
  | order placed => simpa using congrArg List.length placed.orders
  | callback settled => simpa using congrArg List.length settled.payments
  | run reconciled => simpa using congrArg List.length reconciled.batches
  | handle handled =>
    obtain ⟨handleStatus, handledAt, asked, replaced⟩ := handled.replaced
    have still : handleStatus = .kPending := by
      rw [← handled.pending, replaced.same_row]
      rfl
    exact Handled.final asked still

/-- The explicit null of a reply without data. -/
def Json.isNull : Json → Bool
  | .null => true
  | _ => false

/-- A fresh success: `kExecuted` with code 0, a callback's code 0 with data that is
not null, a run's or a handling's code 0. -/
def fresh : Call → Answer → Bool
  | .createOrder _, .order (.kExecuted result) => result.isOk
  | .handleCallback _ _, .reply result => result.isOk && result.data.any fun data => !data.isNull
  | .reconcile _ _, .reply result => result.isOk
  | .handleDiff _ _ _, .reply result => result.isOk
  | _, _ => false

/-- A failure reply is not fresh. -/
theorem fail_isOk {α : Type} {code : ErrCode} (failure : code ≠ .kSuccess) (message requestId : String) :
    (Result.fail code message requestId : Result α).isOk = false := by
  rw [Result.isOk, beq_eq_false_iff_ne]
  exact Result.fail_code_ne code message requestId failure

/-- A call that ended alone has published its whole effect and succeeded freshly,
or has published nothing and did not. -/
theorem ended_effect {P : Platform} {call : Call} {answer : Answer} {history : List (Db × Db)}
    {shared : Shared Db} (ended : Ended P (solitary P) call answer history shared) :
    (history = [] ∧ fresh call answer = false) ∨
      ∃ before after, history = [(before, after)] ∧ Effect P call before after ∧
        fresh call answer = true := by
  have failing : ∀ {α : Type} {code : ErrCode} (message requestId : String), code ≠ .kSuccess →
      (Result.fail code message requestId : Result α).isOk = false :=
    fun message requestId failure => fail_isOk failure message requestId
  cases ended with
  | rejectedOrder => exact .inl ⟨rfl, failing _ _ (by decide)⟩
  | order ended =>
    cases ended with
    | faulted fault => cases fault <;> exact .inl ⟨rfl, failing _ _ (by decide)⟩
    | refused refusal =>
      refine .inl ⟨rfl, failing _ _ ?_⟩
      rintro rfl
      simp at refusal
    | duplicate => exact .inl ⟨rfl, failing _ _ (by decide)⟩
    | cached => exact .inl ⟨rfl, rfl⟩
    | executed placed => exact .inr ⟨_, _, rfl, .order placed, rfl⟩
  | rejectedCallback refusal =>
    refine .inl ⟨rfl, ?_⟩
    rw [fresh, failing]
    · rfl
    · rintro rfl
      simp at refusal
  | callback ended =>
    cases ended with
    | faulted fault => cases fault <;> exact .inl ⟨rfl, rfl⟩
    | refused => exact .inl ⟨rfl, by simp [fresh, catchAll, Result.fail]⟩
    | conflicting | unpayable => exact .inl ⟨rfl, by simp [fresh, catchAll, Result.fail]⟩
    | replayed => exact .inl ⟨rfl, rfl⟩
    | processed settled => exact .inr ⟨_, _, rfl, .callback settled, rfl⟩
  | rejectedRun => exact .inl ⟨rfl, failing _ _ (by decide)⟩
  | run ended =>
    cases ended with
    | faulted fault => cases fault <;> exact .inl ⟨rfl, failing _ _ (by decide)⟩
    | refused => exact .inl ⟨rfl, failing _ _ (by decide)⟩
    | completed watched reconciled =>
      rw [← solitary_watched watched] at reconciled
      exact .inr ⟨_, _, rfl, .run reconciled, rfl⟩
  | listed => exact .inl ⟨rfl, rfl⟩
  | handle ended =>
    cases ended with
    | faulted fault => exact .inl ⟨rfl, rfl⟩
    | refused refusal =>
      refine .inl ⟨rfl, failing _ _ ?_⟩
      rintro rfl
      simp at refusal
    | handled _ handled => exact .inr ⟨_, _, rfl, .handle handled, rfl⟩

/-- A call running alone: its answer, and the database it found and leaves. -/
def Alone (P : Platform) (call : Call) (first : Shared Db) (answer : Answer) (last : Shared Db) :
    Prop :=
  ∃ session, Solo (engine P.collate) (program P call) .idle first (.done answer) session last

/-- Run a call alone on chosen environment answers and faults, to its answer. -/
def aloneRun (P : Platform) (choices : List (Except Fault Env)) (call : Call)
    (first : Shared Db) : Option (Answer × Shared Db) :=
  (soloRun (engine P.collate) choices (program P call) .idle first).bind fun (program, _, last) =>
    match program with
    | .done answer => some (answer, last)
    | _ => none

/-- A computed run of a call alone is one of the relation. -/
theorem Alone.of_aloneRun {P : Platform} {choices : List (Except Fault Env)} {call : Call}
    {first last : Shared Db} {answer : Answer}
    (ran : aloneRun P choices call first = some (answer, last)) : Alone P call first answer last := by
  obtain ⟨⟨program, session, reached⟩, ran, answered⟩ := Option.bind_eq_some_iff.mp ran
  cases program with
  | done result =>
    cases answered
    exact ⟨session, .of_soloRun .entered ran⟩
  | ask | start | statement | commit | rollback | release => cases answered

/-- What a call achieves without faults, it ends with on every stream of expected answers.
That it ends at all is part of the conclusion. -/
theorem aloneRun_of_achieves {P : Platform} {expects : Env → Prop} {call : Call} {now : Shared Db}
    {post : Answer → Connection → Shared Db → Prop}
    (achieves : Achieves (engine P.collate) False expects post (program P call) .idle now)
    (envs : Nat → Env) (expected : ∀ index, expects (envs index)) :
    ∃ steps answer session last,
      aloneRun P ((List.range steps).map fun index => .ok (envs index)) call now =
        some (answer, last) ∧ post answer session last := by
  obtain ⟨steps, answer, session, last, ran, ended⟩ := achieves_run achieves envs expected
  refine ⟨steps, answer, session, last, ?_, ended⟩
  rw [aloneRun, ran]
  rfl

/-- A call that ran alone left a well formed store, which its history leads to, and
ended in one of the ways of its service. -/
theorem alone_ended {P : Platform} {call : Call} {first last : Shared Db} {answer : Answer}
    (formed : WellFormed P.collate first) (alone : Alone P call first answer last) :
    WellFormed P.collate last ∧ ∃ history, Linked first.committed history last.committed ∧
      Ended P (solitary P) call answer history last := by
  obtain ⟨session, solo⟩ := alone
  have safe : Safe (solitary P) (engine P.collate) call (Finished P (solitary P) call)
      (program P call) .idle first := program_safe (solitary_trading P call) formed
  obtain ⟨holds, ended⟩ := solo_safe (fun _ _ _ => trivial) formed safe solo
  obtain ⟨_, ended⟩ := ended last ((solitary P).refl call session last) holds
  have linked : Linked first.committed session.published last.committed :=
    solo_linked (show Linked first.committed [] first.committed from rfl) solo
  exact ⟨holds, session.published, linked, ended⟩

/-- A call that ran alone did nothing and did not succeed freshly, or did both. This holds for
every script of failures, the commit's included. -/
theorem alone_effect {P : Platform} {call : Call} {first last : Shared Db} {answer : Answer}
    (formed : WellFormed P.collate first) (alone : Alone P call first answer last) :
    (last.committed = first.committed ∧ fresh call answer = false) ∨
      (Effect P call first.committed last.committed ∧ fresh call answer = true) := by
  obtain ⟨-, history, linked, ended⟩ := alone_ended formed alone
  rcases ended_effect ended with ⟨nothing, stale⟩ | ⟨before, after, once, effect, success⟩
  · rw [nothing] at linked
    exact .inl ⟨Eq.symm linked, stale⟩
  · rw [once] at linked
    obtain ⟨rfl, rfl⟩ := linked
    exact .inr ⟨effect, success⟩

/-- A fresh success comes with the whole effect. -/
theorem fresh_effect {P : Platform} {call : Call} {first last : Shared Db} {answer : Answer}
    (formed : WellFormed P.collate first) (alone : Alone P call first answer last)
    (success : fresh call answer = true) : Effect P call first.committed last.committed := by
  rcases alone_effect formed alone with ⟨-, stale⟩ | ⟨effect, -⟩
  · rw [stale] at success
    cases success
  · exact effect

/-- All or nothing. Whatever fails on the way, the database after the call is the one before
it or has the whole effect, and it has the effect exactly when the call answered with a fresh
success. The script of failures is arbitrary; all writes of a call pass through one commit. -/
theorem alone_atomic {P : Platform} {call : Call} {first last : Shared Db} {answer : Answer}
    (formed : WellFormed P.collate first) (alone : Alone P call first answer last) :
    (last.committed = first.committed ∨ Effect P call first.committed last.committed) ∧
      (Effect P call first.committed last.committed ↔ fresh call answer = true) := by
  rcases alone_effect formed alone with ⟨same, -⟩ | ⟨effect, success⟩
  · refine ⟨.inl same, fun effect => ?_, fresh_effect formed alone⟩
    rw [same] at effect
    exact absurd rfl effect.ne
  · exact ⟨.inr effect, fun _ => success, fun _ => effect⟩

/-- An order of the shop that goes through, and the same order with a commit that
throws. -/
theorem shop_atomic :
    (∃ answer last, Alone Shop.platform (Shop.order "req-0001") Shop.store answer last ∧
      fresh (Shop.order "req-0001") answer = true ∧
      Effect Shop.platform (Shop.order "req-0001") Shop.store.committed last.committed) ∧
    ∃ answer last, Alone Shop.platform (Shop.order "req-0001") Shop.store answer last ∧
      fresh (Shop.order "req-0001") answer = false ∧ last.committed = Shop.store.committed := by
  have outcome : ∀ choices expected,
      ((aloneRun Shop.platform choices (Shop.order "req-0001") Shop.store).map
        fun (answer, _) => fresh (Shop.order "req-0001") answer) = some expected →
      ∃ answer last, Alone Shop.platform (Shop.order "req-0001") Shop.store answer last ∧
        fresh (Shop.order "req-0001") answer = expected := by
    intro choices expected ran
    obtain ⟨⟨answer, last⟩, ran, answered⟩ := Option.map_eq_some_iff.mp ran
    exact ⟨answer, last, .of_aloneRun ran, answered⟩
  obtain ⟨answer, last, alone, success⟩ :=
    outcome (List.replicate 11 (.ok ⟨some "7001", 1789275496⟩)) true (by decide +kernel)
  obtain ⟨other, unmoved, failing, failure⟩ :=
    outcome (List.replicate 9 (.ok ⟨some "7001", 1789275496⟩) ++
      .error .db :: List.replicate 2 (.ok ⟨some "7001", 1789275496⟩)) false (by decide +kernel)
  have whole := alone_atomic Shop.store_formed alone
  have none := alone_atomic Shop.store_formed failing
  refine ⟨⟨answer, last, alone, success, whole.2.mpr success⟩, other, unmoved, failing, failure, ?_⟩
  rcases none.1 with same | effect
  · exact same
  · rw [none.2.mp effect] at failure
    cases failure

end TradeReconcile
