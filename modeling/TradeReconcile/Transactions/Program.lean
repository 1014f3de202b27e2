import Mathlib.Algebra.BigOperators.Group.List.Basic
import Mathlib.Algebra.Order.Ring.Int
import Mathlib.Algebra.Ring.Int.Defs
import Mathlib.Algebra.Ring.Nat
import Mathlib.Logic.Relation
import Mathlib.Tactic.Ring
import TradeReconcile.Transitions

/-!
# Client programs over a multiversion store

A client call is a tree of database requests whose branches are the possible
responses. Sessions execute such trees against one committed database. A write
stays private to its session, with the locks it took, until the session commits;
a plain read sees the snapshot fixed by the session's first plain read, overlaid
with the session's own row images. A locking statement reads the latest committed
database overlaid with the same images and waits while another session holds one
of the locks it wants.

The engine's statements, row images and locks are parameters. Nothing here knows
which tables exist, and no fairness or deadlock detection is assumed: a waiting
session has no step, and any request may instead fail and undo its transaction.
-/

namespace Transactions

universe u

/-- One client call. Every request carries the continuation for each response,
so that error handling is part of the tree and not of the scheduler. -/
inductive Program (Stmt : Type) (Resp : Stmt → Type) (Env Fault α : Type) where
  | done : α → Program Stmt Resp Env Fault α
  | ask : (Env → Program Stmt Resp Env Fault α) → Program Stmt Resp Env Fault α
  | start : (Except Fault Unit → Program Stmt Resp Env Fault α) →
      Program Stmt Resp Env Fault α
  | statement (s : Stmt) : (Except Fault (Resp s) → Program Stmt Resp Env Fault α) →
      Program Stmt Resp Env Fault α
  | commit : (Except Fault Unit → Program Stmt Resp Env Fault α) →
      Program Stmt Resp Env Fault α
  | rollback : Program Stmt Resp Env Fault α → Program Stmt Resp Env Fault α
  | release : Program Stmt Resp Env Fault α → Program Stmt Resp Env Fault α

namespace Program

variable {Stmt : Type} {Resp : Stmt → Type} {Env Fault α β : Type}

/-- Sequential composition replaces every final value by the next program. -/
def bind : Program Stmt Resp Env Fault α → (α → Program Stmt Resp Env Fault β) →
    Program Stmt Resp Env Fault β
  | .done value, next => next value
  | .ask k, next => .ask fun env => (k env).bind next
  | .start k, next => .start fun reply => (k reply).bind next
  | .statement s k, next => .statement s fun reply => (k reply).bind next
  | .commit k, next => .commit fun reply => (k reply).bind next
  | .rollback k, next => .rollback (k.bind next)
  | .release k, next => .release (k.bind next)

/-- Ending with the value itself adds nothing. -/
theorem bind_done (program : Program Stmt Resp Env Fault α) : program.bind .done = program := by
  induction program with
  | done => rfl
  | ask k inductionHypothesis | start k inductionHypothesis
  | statement s k inductionHypothesis | commit k inductionHypothesis =>
    simp only [bind, inductionHypothesis]
  | rollback k inductionHypothesis | release k inductionHypothesis =>
    simp only [bind, inductionHypothesis]

/-- Composition is associative, so a program may be cut at any request. -/
theorem bind_bind {γ : Type} (program : Program Stmt Resp Env Fault α)
    (next : α → Program Stmt Resp Env Fault β) (last : β → Program Stmt Resp Env Fault γ) :
    (program.bind next).bind last = program.bind fun value => (next value).bind last := by
  induction program with
  | done => rfl
  | ask k inductionHypothesis | start k inductionHypothesis
  | statement s k inductionHypothesis | commit k inductionHypothesis =>
    simp only [bind, inductionHypothesis]
  | rollback k inductionHypothesis | release k inductionHypothesis =>
    simp only [bind, inductionHypothesis]

end Program

/-- Where a statement reads: the transaction's snapshot, the latest committed
rows under locks, or another connection that commits by itself. -/
inductive Source where
  | snapshot
  | current
  | client
deriving DecidableEq

/-- The meaning of statements. `locks` and `run` receive the next row number of
the store and the database the statement reads. -/
structure Engine (Db Change Lock Stmt : Type) (Resp : Stmt → Type) (Env Fault : Type) where
  put : Db → Change → Db
  source : Stmt → Source
  locks : Stmt → Nat → Db → List Lock
  run : (s : Stmt) → Nat → Env → Db → Except Fault (Resp s × List Change)

/-- The part of the store every session sees. Row numbers are never given back, also not by a
rollback. -/
structure Shared (Db : Type) where
  committed : Db
  counter : Nat

/-- The next row number has been handed out. -/
def Shared.tick {Db : Type} (shared : Shared Db) : Shared Db :=
  { shared with counter := shared.counter + 1 }

/-- The private part of one connection. `published` is a history variable: the
committed database before and after each publication of this session. -/
structure Session (Db Change Lock : Type) where
  snapshot : Option Db
  own : List Change
  locks : List Lock
  published : List (Db × Db)

namespace Session

variable {Db Change Lock : Type}

/-- A connection before its first transaction. -/
def idle : Session Db Change Lock := ⟨none, [], [], []⟩

/-- The transaction ended: its snapshot, images and locks are gone. -/
def cleared (session : Session Db Change Lock) : Session Db Change Lock :=
  { session with snapshot := none, own := [], locks := [] }

@[simp] theorem cleared_own (session : Session Db Change Lock) : session.cleared.own = [] := rfl

@[simp] theorem cleared_locks (session : Session Db Change Lock) :
    session.cleared.locks = [] := rfl

@[simp] theorem cleared_published (session : Session Db Change Lock) :
    session.cleared.published = session.published := rfl

@[simp] theorem cleared_snapshot (session : Session Db Change Lock) :
    session.cleared.snapshot = none := rfl

end Session

namespace Engine

variable {Db Change Lock Stmt : Type} {Resp : Stmt → Type} {Env Fault : Type}

/-- A database overlaid with row images, later images winning. -/
def overlay (E : Engine Db Change Lock Stmt Resp Env Fault) (base : Db)
    (changes : List Change) : Db :=
  changes.foldl E.put base

/-- Make the session's images visible to everybody. A transaction that wrote
nothing leaves no trace in the history. -/
def publish (E : Engine Db Change Lock Stmt Resp Env Fault)
    (session : Session Db Change Lock) (shared : Shared Db) :
    Session Db Change Lock × Shared Db :=
  match session.own with
  | [] => (session.cleared, shared)
  | changes =>
    let after := E.overlay shared.committed changes
    ({ session.cleared with published := session.published ++ [(shared.committed, after)] },
      { shared with committed := after })

end Engine

variable {Db Change Lock Stmt : Type} {Resp : Stmt → Type} {Env Fault α : Type}

/-- One successful request of a running program. `none` means that the program
has ended or waits for a lock. A statement that the engine itself rejects undoes
the transaction before the program sees the fault. -/
def advance (E : Engine Db Change Lock Stmt Resp Env Fault) (held : Lock → Bool) (env : Env) :
    Program Stmt Resp Env Fault α → Session Db Change Lock → Shared Db →
      Option (Program Stmt Resp Env Fault α × Session Db Change Lock × Shared Db)
  | .done _, _, _ => none
  | .ask k, session, shared => some (k env, session, shared)
  | .start k, session, shared => some (k (.ok ()), session.cleared, shared)
  | .statement s k, session, shared =>
    match E.source s with
    | .snapshot =>
      let base := session.snapshot.getD shared.committed
      match E.run s shared.counter env (E.overlay base session.own) with
      | .error fault => some (k (.error fault), session.cleared, shared)
      | .ok (reply, _) => some (k (.ok reply), { session with snapshot := some base }, shared)
    | .current =>
      let view := E.overlay shared.committed session.own
      let wanted := E.locks s shared.counter view
      if wanted.any held then none else
        match E.run s shared.counter env view with
        | .error fault => some (k (.error fault), session.cleared, shared)
        | .ok (reply, changes) =>
          some (k (.ok reply),
            { session with own := session.own ++ changes, locks := session.locks ++ wanted },
            shared.tick)
    | .client =>
      match E.run s shared.counter env shared.committed with
      | .error fault => some (k (.error fault), session, shared)
      | .ok (reply, _) => some (k (.ok reply), session, shared)
  | .commit k, session, shared =>
    let (next, after) := E.publish session shared
    some (k (.ok ()), next, after)
  | .rollback k, session, shared => some (k, session.cleared, shared)
  | .release k, session, shared =>
    let (next, after) := E.publish session shared
    some (k, next, after)

/-- A request that fails. The transaction it belongs to is undone at once; a
request on another connection leaves the session's transaction alone. -/
def interrupt (E : Engine Db Change Lock Stmt Resp Env Fault) (fault : Fault) :
    Program Stmt Resp Env Fault α → Session Db Change Lock →
      Option (Program Stmt Resp Env Fault α × Session Db Change Lock)
  | .start k, session => some (k (.error fault), session)
  | .statement s k, session =>
    match E.source s with
    | .client => some (k (.error fault), session)
    | _ => some (k (.error fault), session.cleared)
  | .commit k, session => some (k (.error fault), session.cleared)
  | _, _ => none

/-- A call together with the rest of its program and its connection. -/
structure Active (Call Stmt : Type) (Resp : Stmt → Type) (Env Fault α Db Change Lock : Type) where
  call : Call
  program : Program Stmt Resp Env Fault α
  session : Session Db Change Lock

/-- All calls ever made, running or finished, over one store. A call that has finished stays
in the list with its answer. -/
structure System (Call Stmt : Type) (Resp : Stmt → Type) (Env Fault α Db Change Lock : Type) where
  shared : Shared Db
  calls : List (Active Call Stmt Resp Env Fault α Db Change Lock)

/-- The scheduler's choices. -/
inductive Action (Call Env Fault : Type) where
  | call : Call → Action Call Env Fault
  | advance : Nat → Env → Action Call Env Fault
  | interrupt : Nat → Fault → Action Call Env Fault

/-- A test of the calls that a schedule starts. -/
def Action.all {Call : Type} (test : Call → Bool) : Action Call Env Fault → Bool
  | .call request => test request
  | .advance _ _ => true
  | .interrupt _ _ => true

/-- Looking a call up after one call has been replaced. -/
theorem getElem?_set_cases {β : Type} {list : List β} {index other : Nat} {value found : β}
    (stored : (list.set index value)[other]? = some found) :
    (other = index ∧ found = value) ∨ (other ≠ index ∧ list[other]? = some found) := by
  by_cases same : other = index
  · subst same
    have inside : other < list.length := by
      simpa using (List.getElem?_eq_some_iff.mp stored).1
    rw [List.getElem?_set_self inside] at stored
    exact .inl ⟨rfl, (Option.some.inj stored).symm⟩
  · rw [List.getElem?_set_ne (Ne.symm same)] at stored
    exact .inr ⟨same, stored⟩

/-- Looking a call up after one call has been added. -/
theorem getElem?_snoc_cases {β : Type} {list : List β} {index : Nat} {value found : β}
    (stored : (list ++ [value])[index]? = some found) :
    list[index]? = some found ∨ found = value := by
  by_cases old : index < list.length
  · exact .inl (by rwa [List.getElem?_append_left old] at stored)
  · rw [List.getElem?_append_right (Nat.le_of_not_lt old)] at stored
    obtain ⟨_, rfl⟩ := List.getElem?_eq_some_iff.mp stored
    exact .inr (by simp)

namespace System

variable {Call : Type}

/-- No call has been made yet. -/
def initial (shared : Shared Db) : System Call Stmt Resp Env Fault α Db Change Lock := ⟨shared, []⟩

/-- Some call other than the given one holds the lock. -/
def heldByOther [DecidableEq Lock] (system : System Call Stmt Resp Env Fault α Db Change Lock)
    (caller : Nat) (lock : Lock) : Bool :=
  (List.range system.calls.length).any fun other =>
    other != caller && (system.calls[other]?.any fun active => lock ∈ active.session.locks)

/-- One scheduled step. Every call is interpreted by the same program table, and a call that
waits for a lock has no step until it is free. -/
def step [DecidableEq Lock] (E : Engine Db Change Lock Stmt Resp Env Fault)
    (program : Call → Program Stmt Resp Env Fault α)
    (system : System Call Stmt Resp Env Fault α Db Change Lock) :
    Action Call Env Fault → Option (System Call Stmt Resp Env Fault α Db Change Lock)
  | .call call => some { system with calls := system.calls ++ [⟨call, program call, .idle⟩] }
  | .advance caller env =>
    match system.calls[caller]? with
    | none => none
    | some active =>
      match advance E (system.heldByOther caller) env active.program active.session
          system.shared with
      | none => none
      | some (program, session, shared) =>
        some ⟨shared, system.calls.set caller ⟨active.call, program, session⟩⟩
  | .interrupt caller fault =>
    match system.calls[caller]? with
    | none => none
    | some active =>
      match interrupt E fault active.program active.session with
      | none => none
      | some (program, session) =>
        some { system with calls := system.calls.set caller ⟨active.call, program, session⟩ }

/-- A step starts a call, lets one advance, or lets one fail. These are all the ways a system
moves, guards included, and every invariant of a run is derived from them. -/
theorem step_cases [DecidableEq Lock] {E : Engine Db Change Lock Stmt Resp Env Fault}
    {program : Call → Program Stmt Resp Env Fault α}
    {system next : System Call Stmt Resp Env Fault α Db Change Lock}
    {action : Action Call Env Fault} (taken : system.step E program action = some next) :
    (∃ call, action = .call call ∧
      next = { system with calls := system.calls ++ [⟨call, program call, .idle⟩] }) ∨
    (∃ caller env active moved session shared, action = .advance caller env ∧
      system.calls[caller]? = some active ∧
      advance E (system.heldByOther caller) env active.program active.session system.shared =
        some (moved, session, shared) ∧
      next = ⟨shared, system.calls.set caller ⟨active.call, moved, session⟩⟩) ∨
    (∃ caller fault active moved session, action = .interrupt caller fault ∧
      system.calls[caller]? = some active ∧
      interrupt E fault active.program active.session = some (moved, session) ∧
      next = { system with calls := system.calls.set caller ⟨active.call, moved, session⟩ }) := by
  cases action with
  | call call => exact .inl ⟨call, rfl, (Option.some.inj taken).symm⟩
  | advance caller env =>
    simp only [step] at taken
    split at taken
    · simp at taken
    · rename_i active present
      split at taken
      · simp at taken
      · rename_i moved session shared ran
        exact .inr (.inl ⟨caller, env, active, moved, session, shared, rfl, present, ran,
          (Option.some.inj taken).symm⟩)
  | interrupt caller fault =>
    simp only [step] at taken
    split at taken
    · simp at taken
    · rename_i active present
      split at taken
      · simp at taken
      · rename_i moved session ran
        exact .inr (.inr ⟨caller, fault, active, moved, session, rfl, present, ran,
          (Option.some.inj taken).symm⟩)

/-- Execute a schedule of the scheduler's choices. -/
def runWhere [DecidableEq Lock] (E : Engine Db Change Lock Stmt Resp Env Fault)
    (program : Call → Program Stmt Resp Env Fault α)
    (check : System Call Stmt Resp Env Fault α Db Change Lock → Action Call Env Fault → Bool) :
    System Call Stmt Resp Env Fault α Db Change Lock → List (Action Call Env Fault) →
      Option (System Call Stmt Resp Env Fault α Db Change Lock) :=
  Transitions.runWhere (step E program) check

/-- Systems reached from the first store by admitted steps. -/
abbrev Reached [DecidableEq Lock] (E : Engine Db Change Lock Stmt Resp Env Fault)
    (program : Call → Program Stmt Resp Env Fault α)
    (admits : System Call Stmt Resp Env Fault α Db Change Lock → Action Call Env Fault → Prop)
    (first : Shared Db) : System Call Stmt Resp Env Fault α Db Change Lock → Prop :=
  Transitions.Reached (step E program) admits (.initial first)

end System

end Transactions
