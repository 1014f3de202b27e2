import TradeReconcile.Properties.Atomicity
import TradeReconcile.Properties.Batches
import TradeReconcile.Transactions.CommitOrder

/-!
# Concurrent calls take effect one at a time

However the statements of concurrent calls interleave and whichever of them fail, the
committed database is what the effects of the successful calls make of the first one, one
after the other in the order of their commits. A call that answered with a fresh success is
in this order once, every other finished call not at all, and a call that had ended before
another one began comes first. Rows are never taken back on the way.

All effects but one are those of the call applied at its own place of the order. A
reconciliation counts the payments of its snapshot, so its effect belongs to an earlier
place: one that the order had passed before the commit, but not before the call began.
-/

namespace TradeReconcile

open Transactions

section Order

variable {P : Platform} {serves : Call → Prop} {first : Shared Db} {system : Trade}

/-- A finished call has published once, with a fresh success, or not at all. A call that never
ends is not spoken of, nor is a commit that throws, which has had no effect. -/
theorem ended_fresh {D : Discipline Call Db Change Lock Env} {call : Call} {answer : Answer}
    {history : List (Db × Db)} {shared : Shared Db} (ended : Ended P D call answer history shared) :
    (history = [] ∧ fresh call answer = false) ∨
      ∃ entry, history = [entry] ∧ fresh call answer = true := by
  have failing : ∀ {α : Type} {code : ErrCode} (message requestId : String), code ≠ .kSuccess →
      (Result.fail code message requestId : Result α).isOk = false :=
    fun message requestId failure => fail_isOk failure message requestId
  cases ended with
  | rejectedOrder => exact .inl ⟨rfl, failing _ _ (by decide)⟩
  | order ended =>
    cases ended with
    | faulted fault => cases fault <;> exact .inl ⟨rfl, failing _ _ (by decide)⟩
    | refused refusal =>
      refine .inl ⟨rfl, failing _ _ ?_⟩
      rintro rfl
      simp at refusal
    | duplicate => exact .inl ⟨rfl, failing _ _ (by decide)⟩
    | cached => exact .inl ⟨rfl, rfl⟩
    | executed placed => exact .inr ⟨_, rfl, rfl⟩
  | rejectedCallback refusal => exact .inl ⟨rfl, by simp [fresh, Result.fail]⟩
  | callback ended =>
    cases ended with
    | faulted fault => cases fault <;> exact .inl ⟨rfl, rfl⟩
    | refused | conflicting | unpayable =>
      exact .inl ⟨rfl, by simp [fresh, catchAll, Result.fail]⟩
    | replayed => exact .inl ⟨rfl, rfl⟩
    | processed settled => exact .inr ⟨_, rfl, rfl⟩
  | rejectedRun => exact .inl ⟨rfl, failing _ _ (by decide)⟩
  | run ended =>
    cases ended with
    | faulted fault => cases fault <;> exact .inl ⟨rfl, failing _ _ (by decide)⟩
    | refused => exact .inl ⟨rfl, failing _ _ (by decide)⟩
    | completed watched reconciled => exact .inr ⟨_, rfl, rfl⟩
  | listed => exact .inl ⟨rfl, rfl⟩
  | handle ended =>
    cases ended with
    | faulted fault => exact .inl ⟨rfl, rfl⟩
    | refused refusal =>
      refine .inl ⟨rfl, failing _ _ ?_⟩
      rintro rfl
      simp at refusal
    | handled _ handled => exact .inr ⟨_, rfl, rfl⟩

/-- A call publishes at most once. What it has published so far starts what it will have
published when it has ended, and it can always be led to its end. -/
theorem published_once (formed : WellFormed P.collate first)
    (reached : Reached P (Admits serves) first system) {order : List (Nat × (Db × Db))}
    (ordered : InOrder first.committed system order) (caller : Nat) :
    (publishedBy order caller).length ≤ 1 := by
  cases stored : system.calls[caller]? with
  | none =>
    have outside : order.filter (fun entry => entry.1 == caller) = [] := by
      refine List.filter_eq_nil_iff.mpr fun entry member => ?_
      have known := ordered.known entry member
      have beyond := List.getElem?_eq_none_iff.mp stored
      simpa using (by omega : entry.1 ≠ caller)
    simp [publishedBy, outside]
  | some active =>
    have final : Ends (engine P.collate) (program P) caller system := can_end ⟨none, 0⟩ .db stored
    obtain ⟨last, call, answer, session, further, finished⟩ := final
    have admitted : ∀ state action, Action.continues action → Admits serves state action := by
      intro state action continues
      cases action with
      | call call => cases continues
      | advance | interrupt => trivial
    have reachedLast : Reached P (Admits serves) first last := reached.trans (further.mono admitted)
    -- The order of the last system continues the present one.
    have continued : ∃ later, order <+: later ∧ InOrder first.committed last later := by
      clear finished reachedLast
      induction further with
      | initial => exact ⟨order, List.prefix_refl _, ordered⟩
      | step action _ _ taken inductionHypothesis =>
        obtain ⟨middle, grown, orderedMiddle⟩ := inductionHypothesis
        obtain ⟨later, more, orderedLater⟩ := step_prefix orderedMiddle taken
        exact ⟨later, grown.trans more, orderedLater⟩
    obtain ⟨later, grown, orderedLater⟩ := continued
    have part : publishedBy order caller <+: publishedBy later caller := (grown.filter _).map _
    refine Nat.le_trans part.length_le ?_
    obtain ⟨-, ended⟩ := reached_finished formed reachedLast finished
    rw [orderedLater.each caller _ finished]
    rcases ended_fresh ended with ⟨nothing, -⟩ | ⟨entry, once, -⟩
    · simp [nothing]
    · simp [once]

/-- The effects of a system's calls, one at a time: the databases are linked, each link is the
effect of its call on the one before, no call comes twice, and those in the order are the
fresh successes. -/
structure Serialized (P : Platform) (first : Db) (system : Trade) (order : List (Nat × (Db × Db))) :
    Prop where
  linked : Linked first (order.map Prod.snd) system.shared.committed
  effect : ∀ entry ∈ order, ∃ active, system.calls[entry.1]? = some active ∧
    Commit P active.call entry.2.1 entry.2.2
  once : (order.map Prod.fst).Nodup
  answered : ∀ (caller : Nat) call answer session,
    system.calls[caller]? = some ⟨call, .done answer, session⟩ →
      (caller ∈ order.map Prod.fst ↔ fresh call answer = true)

/-- The order of the commits is a serial order of the effects. Fresh successes are the calls
that committed, and each of them once. -/
theorem inOrder_serialized (formed : WellFormed P.collate first)
    (reached : Reached P (Admits serves) first system) {order : List (Nat × (Db × Db))}
    (ordered : InOrder first.committed system order) : Serialized P first.committed system order where
  linked := ordered.linked
  effect entry member := by
    have known := ordered.known entry member
    refine ⟨system.calls[entry.1], List.getElem?_eq_getElem known, ?_⟩
    have published : entry.2 ∈ system.calls[entry.1].session.published := by
      rw [← ordered.each entry.1 _ (List.getElem?_eq_getElem known)]
      exact List.mem_map_of_mem (List.mem_filter.mpr ⟨member, by simp⟩)
    obtain ⟨held, guaranteed, -⟩ := (reached_locking formed reached).history entry.1 _
      (List.getElem?_eq_getElem known) entry.2 published
    exact guaranteed
  once := by
    refine List.nodup_iff_count_le_one.mpr fun caller => ?_
    have once := published_once formed reached ordered caller
    rw [publishedBy, List.length_map, ← List.countP_eq_length_filter] at once
    rw [List.count, List.countP_map]
    exact once
  answered caller call answer session present := by
    obtain ⟨-, ended⟩ := reached_finished formed reached present
    rw [← ordered.each caller _ present] at ended
    have listed : caller ∈ order.map Prod.fst ↔ publishedBy order caller ≠ [] := by
      simp [publishedBy]
    rw [listed]
    rcases ended_fresh ended with ⟨nothing, stale⟩ | ⟨entry, once, success⟩
    · simp [nothing, stale]
    · simp [once, success]

/-- Every reconciliation that began after the given number of calls, when the order was
`before`, has compared its bill with the database at a place of the order between that
moment and its own commit. -/
def ReportsSince (P : Platform) (first : Db) (calls : Nat) (before : List (Nat × (Db × Db)))
    (system : Trade) (order : List (Nat × (Db × Db))) : Prop :=
  ∀ left entry right, order = left ++ entry :: right → calls ≤ entry.1 →
    ∀ active billDate bill, system.calls[entry.1]? = some active →
      active.call = .reconcile billDate (some bill) → ∃ place seen reconciliation,
        before <+: place ∧ place <+: left ∧ Linked first (place.map Prod.snd) seen ∧
        Reconciled P.collate billDate bill seen reconciliation entry.2.1 entry.2.2

/-- A reconciliation reports a place of the order that is not older than its call: its
snapshot was taken after the call had begun. -/
theorem reports_since {start : Db} {calls : Nat} {before order : List (Nat × (Db × Db))}
    (since : Since (FromSnapshot P) start calls before system order) :
    ReportsSince P start calls before system order := by
  intro left entry right same late active billDate bill present called
  obtain ⟨found, session, stored, drawn, places⟩ := since.published left entry right same late
  obtain rfl := Option.some.inj (present.symm.trans stored)
  obtain ⟨seen, reconciliation, opened, reconciled⟩ := drawn billDate bill called
  obtain ⟨place, after, inside, linked⟩ := places seen opened
  exact ⟨place, seen, reconciliation, after, inside, linked, reconciled⟩

end Order

/-- Strict serializability: every run has a serial order of its effects, and the orders of
its past are the first parts of it. The reconciliations of the order report places of the
order, none of which is older than the call. -/
theorem run_serialized {P : Platform} {serves : Call → Prop} {first : Shared Db}
    {past : List Trade} {system : Trade} (formed : WellFormed P.collate first)
    (run : Runs P (Admits serves) first past system) :
    ∃ order, Serialized P first.committed system order ∧
      ReportsSince P first.committed 0 [] system order ∧
      ∀ earlier ∈ past, Evolves earlier.shared.committed system.shared.committed ∧
        ∃ before, before <+: order ∧ Serialized P first.committed earlier before ∧
          ReportsSince P first.committed earlier.calls.length before system order := by
  obtain ⟨order, ordered, whole, history⟩ := run_inOrder
    (fun system caller active reached present publishing =>
      (reached_publication formed reached present publishing).2) run
  refine ⟨order, inOrder_serialized formed run.reached ordered, reports_since whole,
    fun earlier member => ?_⟩
  obtain ⟨before, orderedBefore, since⟩ := history earlier member
  exact ⟨run_evolves formed run earlier member, before, since.begun,
    inOrder_serialized formed (run.past_reached earlier member) orderedBefore,
    reports_since since⟩

namespace Shop

/-- A reconciliation reads the day's payments, a callback pays the order of the day, and
the reconciliation goes on. -/
def overtakenRun : Schedule :=
  .call (reconcile "") :: advances 0 "7003" 3 ++
    .call (callback "cb-00001" "T1") :: advances 1 "8001" 13 ++ advances 0 "7003" 4

end Shop

/-- A callback overlaps a reconciliation and commits first. It stands before the
reconciliation in the order, which still has not counted its payment. -/
theorem shop_serialized : ∃ past system,
    Runs Shop.platform (Admits fun _ => True) Shop.ordered past system ∧
      system.shared.committed.batches.map (·.val.totalCount) = [0] ∧
      system.shared.committed.payments.length = 1 ∧
      ∃ order, order ≠ [] ∧ Serialized Shop.platform Shop.ordered.committed system order ∧
        ReportsSince Shop.platform Shop.ordered.committed 0 [] system order := by
  have executed : ((Shop.runFrom Shop.ordered (fun _ _ => true) Shop.overtakenRun).map fun system =>
      (system.shared.committed.batches.map (·.val.totalCount),
        system.shared.committed.payments.length)) = some ([0], 1) := by
    decide +kernel
  obtain ⟨system, ran, shown⟩ := Option.map_eq_some_iff.mp executed
  obtain ⟨batches, payments⟩ := Prod.mk.inj shown
  obtain ⟨past, run⟩ := Shop.runFrom_runs ran
  obtain ⟨order, serialized, reports, -⟩ := run_serialized Shop.ordered_formed run
  refine ⟨past, system, run, batches, payments, order, ?_, serialized, reports⟩
  rintro rfl
  have still : Shop.ordered.committed = system.shared.committed := serialized.linked
  simp [← still, Shop.ordered, Shop.store] at payments

end TradeReconcile
