import TradeReconcile.Transactions.Tables
import TradeReconcile.Transactions.Program

/-!
# Stores of checked rows

A test that the images of every statement pass, as long as the rows it reads pass it, is
passed by everything that is ever committed. It needs no more than the statements: which
programs run, how they interleave and which of them fail does not matter.
-/

namespace Transactions

/-- A row image keeps what holds of all rows and of the image. -/
theorem putRow_all {α : Type} {table : List (Row α)} {image : Row α} {holds : Row α → Prop}
    (all : ∀ row ∈ table, holds row) (new : holds image) : ∀ row ∈ putRow table image, holds row := by
  intro row member
  unfold putRow at member
  split at member
  · obtain ⟨old, present, rfl⟩ := List.mem_map.mp member
    split
    · exact new
    · exact all old present
  · rcases List.mem_append.mp member with old | last
    · exact all row old
    · exact List.mem_singleton.mp last ▸ new

variable {Call Db Change Lock Stmt : Type} {Resp : Stmt → Type} {Env Fault α : Type}
  {E : Engine Db Change Lock Stmt Resp Env Fault} {checked : Db → Prop} {passes : Change → Prop}

/-- The engine checks what it writes: every change that it lets through keeps a checked
database checked. -/
structure Checking (E : Engine Db Change Lock Stmt Resp Env Fault) (checked : Db → Prop)
    (passes : Change → Prop) : Prop where
  put : ∀ db change, checked db → passes change → checked (E.put db change)
  run : ∀ s number env db reply changes, checked db → E.run s number env db = .ok (reply, changes) →
    ∀ change ∈ changes, passes change

/-- Changes that pass are applied to a checked database one by one, and each leaves it
checked. -/
theorem Checking.overlay (checking : Checking E checked passes) {db : Db} (start : checked db)
    {changes : List Change} (all : ∀ change ∈ changes, passes change) :
    checked (E.overlay db changes) := by
  induction changes generalizing db with
  | nil => exact start
  | cons change rest inductionHypothesis =>
    obtain ⟨first, others⟩ := List.forall_mem_cons.mp all
    exact inductionHypothesis (checking.put db change start first) others

/-- What is committed is checked, and so is what a connection would commit. -/
def Checked (checked : Db → Prop) (passes : Change → Prop) (session : Session Db Change Lock)
    (shared : Shared Db) : Prop :=
  checked shared.committed ∧ ∀ change ∈ session.own, passes change

section Requests

variable {program next : Program Stmt Resp Env Fault α} {session after : Session Db Change Lock}
  {shared now : Shared Db}

/-- A commit publishes changes that have passed, so the database after it is checked. A commit
without a transaction publishes nothing. -/
theorem publish_checked (checking : Checking E checked passes)
    (holds : Checked checked passes session shared) :
    Checked checked passes (E.publish session shared).1 (E.publish session shared).2 := by
  unfold Engine.publish
  split
  · exact ⟨holds.1, by simp⟩
  · exact ⟨checking.overlay holds.1 holds.2, by simp⟩

/-- One turn of a call: it adds a change that passes, publishes, takes a snapshot or gives
all up. What others have done is not asked about, since every database is checked between
turns. -/
theorem advance_checked (checking : Checking E checked passes) {held : Lock → Bool} {env : Env}
    (holds : Checked checked passes session shared)
    (taken : advance E held env program session shared = some (next, after, now)) :
    Checked checked passes after now := by
  have none : Checked checked passes session.cleared shared := ⟨holds.1, by simp⟩
  cases program with
  | done value => simp [advance] at taken
  | ask k =>
    simp only [advance, Option.some.injEq, Prod.mk.injEq] at taken
    obtain ⟨-, rfl, rfl⟩ := taken
    exact holds
  | start k | rollback k =>
    simp only [advance, Option.some.injEq, Prod.mk.injEq] at taken
    obtain ⟨-, rfl, rfl⟩ := taken
    exact none
  | commit k | release k =>
    simp only [advance, Option.some.injEq, Prod.mk.injEq] at taken
    obtain ⟨-, rfl, rfl⟩ := taken
    exact publish_checked checking holds
  | statement s k =>
    cases source : E.source s with
    | snapshot =>
      simp only [advance, source] at taken
      split at taken <;> simp only [Option.some.injEq, Prod.mk.injEq] at taken <;>
        obtain ⟨-, rfl, rfl⟩ := taken
      · exact none
      · exact holds
    | client =>
      simp only [advance, source] at taken
      split at taken <;> simp only [Option.some.injEq, Prod.mk.injEq] at taken <;>
        obtain ⟨-, rfl, rfl⟩ := taken
      · exact holds
      · exact holds
    | current =>
      simp only [advance, source] at taken
      split at taken
      · simp at taken
      split at taken <;> simp only [Option.some.injEq, Prod.mk.injEq] at taken <;>
        obtain ⟨-, rfl, rfl⟩ := taken
      · exact none
      · rename_i ran
        have view := checking.overlay holds.1 holds.2
        refine ⟨holds.1, fun change member => ?_⟩
        rcases List.mem_append.mp member with old | new
        · exact holds.2 change old
        · exact checking.run _ _ _ _ _ _ view ran change new

/-- A failure takes back the session's changes or leaves them; it writes none. -/
theorem interrupt_checked {fault : Fault} (holds : Checked checked passes session shared)
    (taken : interrupt E fault program session = some (next, after)) :
    Checked checked passes after shared := by
  have none : Checked checked passes session.cleared shared := ⟨holds.1, by simp⟩
  cases program with
  | start k =>
    simp only [interrupt, Option.some.injEq, Prod.mk.injEq] at taken
    exact taken.2 ▸ holds
  | commit k =>
    simp only [interrupt, Option.some.injEq, Prod.mk.injEq] at taken
    exact taken.2 ▸ none
  | statement s k =>
    cases source : E.source s <;>
      simp only [interrupt, source, Option.some.injEq, Prod.mk.injEq] at taken
    · exact taken.2 ▸ none
    · exact taken.2 ▸ none
    · exact taken.2 ▸ holds
  | done | ask | rollback | release => simp [interrupt] at taken

end Requests

/-- Everything committed in a run is checked, and so is what the calls have written and not
yet committed. -/
theorem reached_checked [DecidableEq Lock] {program : Call → Program Stmt Resp Env Fault α}
    {admits : System Call Stmt Resp Env Fault α Db Change Lock → Action Call Env Fault → Prop}
    {first : Shared Db} {system : System Call Stmt Resp Env Fault α Db Change Lock}
    (checking : Checking E checked passes) (start : checked first.committed)
    (reached : System.Reached E program admits first system) :
    checked system.shared.committed ∧
      ∀ active ∈ system.calls, ∀ change ∈ active.session.own, passes change := by
  induction reached with
  | initial => exact ⟨start, by simp [System.initial]⟩
  | @step system next action _ _ taken inductionHypothesis =>
    obtain ⟨committed, own⟩ := inductionHypothesis
    rcases System.step_cases taken with ⟨request, rfl, rfl⟩ |
      ⟨caller, env, active, moved, session, shared, rfl, stored, ran, rfl⟩ |
      ⟨caller, fault, active, moved, session, rfl, stored, ran, rfl⟩
    · refine ⟨committed, fun active member => ?_⟩
      rcases List.mem_append.mp member with old | new
      · exact own active old
      · rw [List.mem_singleton.mp new]
        simp [Session.idle]
    · have after := advance_checked checking ⟨committed, own active (List.mem_of_getElem? stored)⟩ ran
      refine ⟨after.1, fun other member => ?_⟩
      rcases List.mem_or_eq_of_mem_set member with old | rfl
      · exact own other old
      · exact after.2
    · have after := interrupt_checked ⟨committed, own active (List.mem_of_getElem? stored)⟩ ran
      refine ⟨committed, fun other member => ?_⟩
      rcases List.mem_or_eq_of_mem_set member with old | rfl
      · exact own other old
      · exact after.2

end Transactions
