import TradeReconcile.Commits
import TradeReconcile.Transactions.History

/-!
# Rules for code under the transaction guard

One rule for each kind of request a guarded body can make. A body is judged by a
postcondition over its outcome, the publications of its connection and the store;
the rules dispose of the failing answer of every request once and for all and
leave the successful one. Committing is the only request that publishes, and it
has to be one step of the service.
-/

namespace TradeReconcile

open Transactions

/-- A run commits what it computed from the snapshot its connection holds. -/
def FromSnapshot (P : Platform) (call : Call) (session : Connection) (before after : Db) : Prop :=
  ∀ billDate bill, call = .reconcile billDate (some bill) → ∃ seen reconciliation,
    session.snapshot = some seen ∧
      Reconciled P.collate billDate bill seen reconciliation before after

/-- Only reconciliations answer from a snapshot. -/
theorem FromSnapshot.of_other {P : Platform} {call : Call} {session : Connection} {before after : Db}
    (other : ∀ billDate bill, call ≠ .reconcile billDate bill) :
    FromSnapshot P call session before after :=
  fun billDate bill same => absurd same (other billDate (some bill))

/-- A discipline under which a call can run: it implies the unique keys and the
promises behind locks, and it allows every commit of that call. -/
structure Trading (P : Platform) (D : Discipline Call Db Change Lock Env) (call : Call) : Prop where
  formed : ∀ {shared}, D.Inv shared → WellFormed P.collate shared
  relies : ∀ {session before after}, D.Rely call session before after →
    Relies P.collate session before after
  commits : ∀ {session : Connection} {shared after}, D.Inv shared →
    Commit P call shared.committed after → FromSnapshot P call session shared.committed after →
    WellFormed P.collate ⟨after, shared.counter⟩ → Evolves shared.committed after →
    (∀ lock, lock ∉ session.locks → Agree P.collate lock shared.committed after) →
    D.Guar call session shared.committed after ∧ D.Inv ⟨after, shared.counter⟩ ∧
      ∀ other held, D.Apart call session other held → D.Rely other held shared ⟨after, shared.counter⟩

/-- The store moved from the snapshot to here while a call kept the snapshot. In between,
others have taken turns and the invariant has held. -/
inductive Watched (D : Discipline Call Db Change Lock Env) (call : Call) (seen : Db) :
    Shared Db → Prop where
  | fixed {shared : Shared Db} : shared.committed = seen → Watched D call seen shared
  | moved {session : Connection} {before after : Shared Db} : Watched D call seen before →
      session.snapshot = some seen → D.Rely call session before after → Watched D call seen after

namespace Watched

variable {P : Platform} {D : Discipline Call Db Change Lock Env} {call : Call} {seen : Db}

/-- What a call has watched happen to the database is a step of its evolution. -/
theorem evolves (trading : Trading P D call) {shared : Shared Db} (watched : Watched D call seen shared) :
    Evolves seen shared.committed := by
  induction watched with
  | fixed same => exact same ▸ Evolves.refl _
  | moved _ _ moved inductionHypothesis =>
    exact inductionHypothesis.trans (trading.relies moved).evolves

/-- The next row number may be handed out meanwhile. -/
theorem ticked {session : Connection} {before now : Shared Db}
    (watched : Watched D call seen before) (same : session.snapshot = some seen)
    (moved : D.Rely call session before now) (holds : D.Inv now) :
    Watched D call seen now.tick :=
  .moved (.moved watched same moved) same (D.tick call session now holds).2

end Watched

/-- How a service call may end, as a condition on its outcome, its publications
and the store. It outlives interference, and a fault without publication is one
of the endings. -/
structure Ending {α : Type} (D : Discipline Call Db Change Lock Env) (call : Call)
    (post : Except Exn α → List (Db × Db) → Shared Db → Prop) : Prop where
  lasting : ∀ {outcome history session before after}, D.Rely call session before after →
    D.Inv after → post outcome history before → post outcome history after
  faulted : ∀ fault shared, post (.error (.fault fault)) [] shared

namespace Guarded

variable {α β : Type}

/-- The code keeps the discipline. It ends without pending images if it says that
it has committed, and else the guard rolls them back. -/
def Safe (P : Platform) (D : Discipline Call Db Change Lock Env) (call : Call)
    (post : Except Exn α → List (Db × Db) → Shared Db → Prop) (code : Guarded α)
    (finished : Bool) (session : Connection) (shared : Shared Db) : Prop :=
  Transactions.Safe D (engine P.collate) call
    (fun outcome session shared =>
      (outcome.2 = true → session.own = []) ∧ post outcome.1 session.published shared)
    (code finished) session shared

section Rules

variable {P : Platform} {D : Discipline Call Db Change Lock Env} {call : Call}
variable {post : Except Exn α → List (Db × Db) → Shared Db → Prop}
variable {session : Connection} {shared : Shared Db}

/-- A body that has ended is safe if its ending holds now; that it goes on holding is part of
the ending. -/
theorem done_safe (ending : Ending D call post) {outcome : Except Exn α} {finished : Bool}
    (written : finished = true → session.own = [])
    (ended : post outcome session.published shared) :
    Safe P D call post (fun finished => .done (outcome, finished)) finished session shared :=
  fun _ moved holds => ⟨written, ending.lasting moved holds ended⟩

/-- The end of a body with a value. -/
theorem return_safe (ending : Ending D call post) {value : α}
    (ended : post (.ok value) session.published shared) :
    Safe P D call post (pure value) false session shared :=
  done_safe ending (by simp) ended

/-- The end of a body with an exception. -/
theorem raise_safe (ending : Ending D call post) {exn : Exn}
    (ended : post (.error exn) session.published shared) :
    Safe P D call post (raise exn) false session shared :=
  done_safe ending (by simp) ended

/-- Failing with a fault before anything was published. -/
theorem fault_safe (ending : Ending D call post) (fresh : session.published = []) (fault : Fault) :
    Safe P D call post (raise (.fault fault)) false session shared := by
  apply raise_safe ending
  rw [fresh]
  exact ending.faulted fault shared

/-- A plain SELECT fixes the snapshot if it is the first one, and is answered from the
snapshot and the session's own rows. -/
theorem select_safe (ending : Ending D call post) {s : Stmt} {next : Resp s → Guarded α}
    (source : statementSource s = .snapshot) (fresh : session.published = [])
    (rest : ∀ now env reply changes, D.Rely call session shared now → D.Inv now →
      execute P.collate s now.counter env ((engine P.collate).overlay
        (session.snapshot.getD now.committed) session.own) = .ok (reply, changes) →
      Safe P D call post (next reply) false
        { session with snapshot := some (session.snapshot.getD now.committed) } now) :
    Safe P D call post (execSqlSync s >>= next) false session shared := by
  intro now moved holds
  have located : (engine P.collate).source s = .snapshot := source
  simp only [located]
  exact ⟨fun fault => fault_safe ending (session.cleared_published.trans fresh) fault,
    fun env reply changes ran => rest now env reply changes moved holds ran⟩

/-- A writing statement acts on the latest committed rows and takes its locks. What follows it
may assume that these rows stay as they are until the commit. -/
theorem write_safe (ending : Ending D call post) {s : Stmt} {next : Resp s → Guarded α}
    (source : statementSource s = .current) (fresh : session.published = [])
    (rest : ∀ now env reply changes, D.Rely call session shared now → D.Inv now →
      execute P.collate s now.counter env
        ((engine P.collate).overlay now.committed session.own) = .ok (reply, changes) →
      Safe P D call post (next reply) false
        { session with
          own := session.own ++ changes
          locks := session.locks ++ statementLocks P.collate s now.counter
            ((engine P.collate).overlay now.committed session.own) } now.tick) :
    Safe P D call post (execSqlSync s >>= next) false session shared := by
  intro now moved holds
  have located : (engine P.collate).source s = .current := source
  simp only [located]
  exact ⟨fun fault => fault_safe ending (session.cleared_published.trans fresh) fault,
    fun env reply changes ran => rest now env reply changes moved holds ran⟩

/-- A statement on the client itself leaves the transaction alone. -/
theorem query_safe (ending : Ending D call post) {s : Stmt} {next : Resp s → Guarded α}
    (source : statementSource s = .client) (fresh : session.published = [])
    (rest : ∀ now env reply changes, D.Rely call session shared now → D.Inv now →
      execute P.collate s now.counter env now.committed = .ok (reply, changes) →
      Safe P D call post (next reply) false session now) :
    Safe P D call post (execSqlSync s >>= next) false session shared := by
  intro now moved holds
  have located : (engine P.collate).source s = .client := source
  simp only [located]
  exact ⟨fun fault => fault_safe ending fresh fault,
    fun env reply changes ran => rest now env reply changes moved holds ran⟩

/-- Drawing a number: the next code is safe with whatever number comes, and an exception ends
the call. -/
theorem nextId_safe (ending : Ending D call post) {next : String → Guarded α}
    (fresh : session.published = [])
    (rest : ∀ now id, D.Rely call session shared now → D.Inv now →
      (∃ clock, D.Answers call session now ⟨some id, clock⟩) →
      Safe P D call post (next id) false session now) :
    Safe P D call post (nextId >>= next) false session shared := by
  rintro now moved holds ⟨_ | id, clock⟩ expected
  · exact fault_safe ending fresh .std
  · exact rest now id moved holds ⟨clock, expected⟩

/-- Reading the clock: whatever time comes. -/
theorem clock_safe {next : Int → Guarded α}
    (rest : ∀ now clock, D.Rely call session shared now → D.Inv now →
      Safe P D call post (next clock) false session now) :
    Safe P D call post (clock >>= next) false session shared :=
  fun now moved holds env _ => rest now env.clock moved holds

/-- A value that may be missing: the code goes on with it, or ends with an exception. -/
theorem orThrow_safe (ending : Ending D call post) {value : Option β} {next : β → Guarded α}
    (fresh : session.published = [])
    (rest : ∀ result, value = some result → Safe P D call post (next result) false session shared) :
    Safe P D call post (orThrow value >>= next) false session shared := by
  cases value with
  | some result => exact rest result rfl
  | none => exact fault_safe ending fresh .std

/-- Committing at the end of a body: the pending images are one step of the
service, which changes nothing behind locks that are not held. -/
theorem commit_safe (trading : Trading P D call) (ending : Ending D call post) {value : α}
    (fresh : session.published = []) (written : session.own ≠ [])
    (step : ∀ now, D.Rely call session shared now → D.Inv now →
      let after := (engine P.collate).overlay now.committed session.own
      Commit P call now.committed after ∧ FromSnapshot P call session now.committed after ∧
        WellFormed P.collate ⟨after, now.counter⟩ ∧ Evolves now.committed after ∧
        (∀ lock, lock ∉ session.locks → Agree P.collate lock now.committed after) ∧
        post (.ok value) [(now.committed, after)] ⟨after, now.counter⟩) :
    Safe P D call post (commit >>= fun _ => pure value) false session shared := by
  intro now moved holds
  obtain ⟨committed, drawn, formed, evolved, kept, ended⟩ := step now moved holds
  have published : (engine P.collate).publish session now =
      ({ session.cleared with
          published := [(now.committed, (engine P.collate).overlay now.committed session.own)] },
        ⟨(engine P.collate).overlay now.committed session.own, now.counter⟩) := by
    cases own : session.own with
    | nil => exact absurd own written
    | cons change rest => simp [Engine.publish, own, fresh]
  refine ⟨fun fault => fault_safe ending (session.cleared_published.trans fresh) fault, ?_, ?_⟩
  · obtain ⟨guar, inv, others⟩ := trading.commits holds committed drawn formed evolved kept
    exact ⟨fun _ => by rwa [published], by rwa [published], by rwa [published]⟩
  · rw [published]
    exact done_safe ending (fun _ => rfl) ended

end Rules

/-- A whole transaction on a new connection: whatever the body left pending is
rolled back unless it was committed, so that leaving the scope publishes nothing
more and no lock outlives the call. -/
theorem transaction_safe {P : Platform} {D : Discipline Call Db Change Lock Env} {call : Call}
    {post : Except Exn α → List (Db × Db) → Shared Db → Prop} (ending : Ending D call post)
    {body : Guarded α} {shared : Shared Db}
    (run : ∀ now, D.Inv now → Safe P D call post body false .idle now) :
    Transactions.Safe D (engine P.collate) call
      (fun outcome session shared => session.locks = [] ∧ post outcome session.published shared)
      (transaction body) .idle shared := by
  have closing : ∀ (session : Connection) (now : Shared Db), session.own = [] →
      (engine P.collate).publish session now = (session.cleared, now) := by
    intro session now clean
    simp [Engine.publish, clean]
  -- Leaving the scope with nothing pending ends with the outcome of the body.
  have leaving : ∀ (outcome : Except Exn α) (session : Connection) (now : Shared Db),
      session.own = [] → post outcome session.published now →
      Transactions.Safe D (engine P.collate) call
        (fun outcome session shared => session.locks = [] ∧ post outcome session.published shared)
        (.release (.done outcome)) session now := by
    intro outcome session now clean ended later moved holds
    rw [closing session later clean]
    refine ⟨published_empty clean holds, fun last further steady => ⟨rfl, ?_⟩⟩
    exact ending.lasting further steady (ending.lasting moved holds ended)
  intro now _ holds
  refine ⟨fun fault later _ _ => ⟨rfl, ending.faulted fault later⟩, Transactions.Safe.bind ?_ holds⟩
  apply safe_mono (run now holds)
  rintro ⟨outcome, finished⟩ session later ⟨written, ended⟩
  cases finished with
  | true => exact leaving outcome session later (written rfl) ended
  | false =>
    intro last moved steady
    exact leaving outcome session.cleared last rfl (ending.lasting moved steady ended)

section Everywhere

variable {holds : Stmt → Prop}

/-- A condition on every statement of the code. -/
def Everywhere (holds : Stmt → Prop) (code : Guarded α) : Prop :=
  ∀ finished, (code finished).Everywhere fun s _ => holds s

/-- The rules for what holds of every statement of a body, one for each way to build it.
Ending makes no statement. -/
theorem pure_everywhere (value : α) : Everywhere holds (pure value : Guarded α) :=
  fun _ => trivial

/-- Nor does an exception. -/
theorem raise_everywhere (exn : Exn) : Everywhere holds (raise exn : Guarded α) :=
  fun _ => trivial

/-- What holds of both parts' statements holds of a sequence's. -/
theorem bind_everywhere {code : Guarded α} {next : α → Guarded β} (first : Everywhere holds code)
    (rest : ∀ value, Everywhere holds (next value)) : Everywhere holds (code >>= next) := by
  refine fun finished => (first finished).bind (fun _ _ => id) ?_
  rintro ⟨_ | value, later⟩
  · trivial
  · exact rest value later

/-- The one statement. -/
theorem exec_everywhere {s : Stmt} (here : holds s) : Everywhere holds (execSqlSync s) := by
  refine fun finished => ⟨here, ?_⟩
  rintro (_ | reply) <;> trivial

/-- A number is drawn outside of the database. -/
theorem nextId_everywhere : Everywhere holds nextId := by
  rintro finished ⟨_ | id, clock⟩ <;> trivial

/-- And so is the time. -/
theorem clock_everywhere : Everywhere holds clock := fun _ _ => trivial

/-- A missing value throws without a statement. -/
theorem orThrow_everywhere (value : Option α) : Everywhere holds (orThrow value) := by
  cases value <;> exact fun _ => trivial

/-- A commit is none of the statements. -/
theorem commit_everywhere : Everywhere holds commit := by
  intro finished
  cases finished with
  | true => trivial
  | false => rintro (_ | ⟨⟩) <;> trivial

/-- Begin and end of a transaction are none either, so what holds of the body's statements
holds of the transaction's. -/
theorem transaction_everywhere {body : Guarded α} (inside : Everywhere holds body) :
    (transaction body).Everywhere fun s _ => holds s := by
  rintro (_ | ⟨⟩)
  · trivial
  · apply (inside false).bind fun _ _ => id
    rintro ⟨_, _ | _⟩ <;> trivial

/-- Every lock that the code may take is allowed. -/
abbrev Confined (P : Platform) (allowed : Lock → Prop) (code : Guarded α) : Prop :=
  Everywhere (fun s => ∀ number db, ∀ lock ∈ statementLocks P.collate s number db, allowed lock) code

end Everywhere

end Guarded

end TradeReconcile
