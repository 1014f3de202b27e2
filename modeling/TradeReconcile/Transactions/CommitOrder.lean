import Mathlib.Data.List.Infix
import TradeReconcile.Transactions.History

/-!
# The order of commits

All publications of a run stand in one order: each starts from the database that the one
before it left, and what a call has published are its entries. The order only grows at its
end, so that what was published before some moment comes before what is published after it.
A snapshot is the database at some place of the order, which is not before the place that the
order had reached when its call began.
-/

namespace Transactions

variable {Call Db Change Lock Stmt : Type} {Resp : Stmt → Type} {Env Fault α : Type}
  {E : Engine Db Change Lock Stmt Resp Env Fault}

/-- What one caller has published, from the order of all publications. -/
def publishedBy (order : List (Nat × (Db × Db))) (caller : Nat) : List (Db × Db) :=
  (order.filter fun entry => entry.1 == caller).map Prod.snd

section Counting

/-- Counting a list is counting its positions. -/
theorem countP_positions {β : Type} (list : List β) (p : β → Bool) :
    list.countP p = (List.range list.length).countP fun index => list[index]?.any p := by
  induction list using List.reverseRecOn with
  | nil => rfl
  | append_singleton list last inductionHypothesis =>
    rw [List.length_append, List.length_singleton, List.range_succ, List.countP_append,
      List.countP_append, inductionHypothesis]
    congr 1
    · refine List.countP_congr fun index inside => ?_
      rw [List.getElem?_append_left (List.mem_range.mp inside)]
    · simp

/-- A quantity that the entries of one kind move by an amount and the others not at all. -/
theorem linked_count {order : List (Nat × (Db × Db))} {first last : Db} (f : Db → Int) (amount : Int)
    {kind : Nat × (Db × Db) → Bool} (linked : Linked first (order.map Prod.snd) last)
    (moved : ∀ entry ∈ order, f entry.2.2 = f entry.2.1 + if kind entry = true then amount else 0) :
    f last = f first + amount * order.countP kind := by
  induction order generalizing first with
  | nil =>
    have same : first = last := linked
    simp [same]
  | cons entry rest inductionHypothesis =>
    obtain ⟨caller, before, after⟩ := entry
    obtain ⟨rfl, further⟩ := linked
    have step := moved _ List.mem_cons_self
    rw [inductionHypothesis further fun other member => moved other (List.mem_cons_of_mem _ member),
      step, List.countP_cons]
    split <;> push_cast <;> ring

end Counting

/-- The publications of a system, in their order: consecutive databases, each by a call, and
each call's own publications among them. -/
structure InOrder (first : Db) (system : System Call Stmt Resp Env Fault α Db Change Lock)
    (order : List (Nat × (Db × Db))) : Prop where
  linked : Linked first (order.map Prod.snd) system.shared.committed
  known : ∀ entry ∈ order, entry.1 < system.calls.length
  each : ∀ (caller : Nat) active, system.calls[caller]? = some active →
    publishedBy order caller = active.session.published

section Steps

variable {program : Call → Program Stmt Resp Env Fault α}
  {system next : System Call Stmt Resp Env Fault α Db Change Lock} {action : Action Call Env Fault}
  {first : Db} {order : List (Nat × (Db × Db))}

/-- Callers that the order does not know have published nothing. -/
theorem InOrder.unknown (ordered : InOrder first system order) :
    publishedBy order system.calls.length = [] := by
  have other : order.filter (fun entry => entry.1 == system.calls.length) = [] :=
    List.filter_eq_nil_iff.mpr fun entry member =>
      by simpa using Nat.ne_of_lt (ordered.known entry member)
  rw [publishedBy, other, List.map_nil]

variable [DecidableEq Lock]

/-- A step adds one publication at the end of the order, or none. Only a commit publishes, and
it publishes the session of the one call that takes the step. -/
theorem step_inOrder (ordered : InOrder first system order)
    (taken : system.step E program action = some next) :
    ∃ later, InOrder first next later ∧ (later = order ∨
      ∃ (caller : Nat) (active : Active Call Stmt Resp Env Fault α Db Change Lock),
        system.calls[caller]? = some active ∧ publishes active.program active.session = true ∧
        later = order ++ [(caller, system.shared.committed,
          (E.publish active.session system.shared).2.committed)]) := by
  rcases System.step_effect taken with ⟨request, -, rfl⟩ |
    ⟨caller, active, rest, stored, publishing, -, rfl⟩ |
    ⟨caller, active, moved, stored, -, -, history, store, calls⟩
  · refine ⟨order, ⟨ordered.linked, fun entry member => ?_, ?_⟩, .inl rfl⟩
    · exact Nat.lt_of_lt_of_le (ordered.known entry member) (by simp)
    · intro index found present
      by_cases old : index < system.calls.length
      · exact ordered.each index found (by rwa [List.getElem?_append_left old] at present)
      · obtain rfl : index = system.calls.length := by
          have inside := (List.getElem?_eq_some_iff.mp present).1
          simp only [List.length_append, List.length_singleton] at inside
          omega
        obtain rfl : _ = found := by simpa using present
        exact ordered.unknown
  · have recorded : (E.publish active.session system.shared).1.published =
        active.session.published ++ [(system.shared.committed,
          (E.publish active.session system.shared).2.committed)] :=
      publish_recorded (publishes_own publishing)
    refine ⟨order ++ [(caller, system.shared.committed,
      (E.publish active.session system.shared).2.committed)], ⟨?_, ?_, ?_⟩,
      .inr ⟨caller, active, stored, publishing, rfl⟩⟩
    · rw [List.map_append]
      exact linked_snoc ordered.linked
    · intro entry member
      rw [List.length_set]
      rcases List.mem_append.mp member with old | new
      · exact ordered.known entry old
      · rw [List.mem_singleton.mp new]
        exact (List.getElem?_eq_some_iff.mp stored).1
    · intro index found present
      rw [publishedBy, List.filter_append, List.map_append]
      rcases getElem?_set_cases present with ⟨rfl, rfl⟩ | ⟨other, old⟩
      · rw [recorded, ← ordered.each index active stored]
        simp [publishedBy]
      · rw [← ordered.each index found old]
        simp [publishedBy, Ne.symm other]
  · refine ⟨order, ⟨?_, ?_, ?_⟩, .inl rfl⟩
    · rw [store]
      exact ordered.linked
    · rw [calls, List.length_set]
      exact ordered.known
    · intro index found present
      rw [calls] at present
      rcases getElem?_set_cases present with ⟨rfl, rfl⟩ | ⟨_, old⟩
      · rw [history]
        exact ordered.each index active stored
      · exact ordered.each index found old

/-- The order goes on where it was. -/
theorem step_prefix (ordered : InOrder first system order)
    (taken : system.step E program action = some next) :
    ∃ later, order <+: later ∧ InOrder first next later := by
  obtain ⟨later, orderedLater, rfl | ⟨_, _, _, _, rfl⟩⟩ := step_inOrder ordered taken
  · exact ⟨later, List.prefix_refl _, orderedLater⟩
  · exact ⟨_, List.prefix_append _ _, orderedLater⟩

/-- Every reachable system has an order of publications. -/
theorem reached_inOrder {store : Shared Db}
    {admits : System Call Stmt Resp Env Fault α Db Change Lock → Action Call Env Fault → Prop}
    (reached : System.Reached E program admits store system) :
    ∃ order, InOrder store.committed system order := by
  induction reached with
  | initial => exact ⟨[], rfl, by simp, by simp [System.initial]⟩
  | step action _ _ taken inductionHypothesis =>
    obtain ⟨order, ordered⟩ := inductionHypothesis
    obtain ⟨later, -, orderedLater⟩ := step_prefix ordered taken
    exact ⟨later, orderedLater⟩

end Steps

/-! What the publications of a run were computed from. -/

section Snapshots

/-- Every snapshot that a call opened at some moment or later, when the order of
publications was `before`, is the database at a place of the order that comes after
`before`, and a publication is computed from a snapshot of a place that precedes it.
`drawn` says what ties a publication to the connection that made it. -/
structure Since (drawn : Call → Session Db Change Lock → Db → Db → Prop) (first : Db) (calls : Nat)
    (before : List (Nat × (Db × Db))) (system : System Call Stmt Resp Env Fault α Db Change Lock)
    (order : List (Nat × (Db × Db))) : Prop where
  begun : before <+: order
  opened : ∀ (caller : Nat) active seen, calls ≤ caller → system.calls[caller]? = some active →
    active.session.snapshot = some seen →
      ∃ place, before <+: place ∧ place <+: order ∧ Linked first (place.map Prod.snd) seen
  published : ∀ left entry right, order = left ++ entry :: right → calls ≤ entry.1 →
    ∃ active session, system.calls[entry.1]? = some active ∧
      drawn active.call session entry.2.1 entry.2.2 ∧ ∀ seen, session.snapshot = some seen →
        ∃ place, before <+: place ∧ place <+: left ∧ Linked first (place.map Prod.snd) seen

variable {drawn : Call → Session Db Change Lock → Db → Db → Prop} {first : Db} {calls : Nat}
  {before order : List (Nat × (Db × Db))}
  {system next : System Call Stmt Resp Env Fault α Db Change Lock}

/-- No call has begun since the present moment. -/
theorem InOrder.since (ordered : InOrder first system order) :
    Since drawn first system.calls.length order system order where
  begun := List.prefix_refl order
  opened caller active seen late present _ := by
    have inside := (List.getElem?_eq_some_iff.mp present).1
    omega
  published left entry right same late := by
    have known := ordered.known entry (by simp [same])
    omega

variable [DecidableEq Lock] {program : Call → Program Stmt Resp Env Fault α}
  {action : Action Call Env Fault}

/-- One step: a new snapshot is the database at the end of the order, and what is
published comes from a snapshot that was there before. -/
theorem Since.step {later : List (Nat × (Db × Db))} (since : Since drawn first calls before system order)
    (ordered : InOrder first system order) (taken : system.step E program action = some next)
    (grown : later = order ∨
      ∃ (caller : Nat) (active : Active Call Stmt Resp Env Fault α Db Change Lock),
        system.calls[caller]? = some active ∧ publishes active.program active.session = true ∧
        later = order ++ [(caller, system.shared.committed,
          (E.publish active.session system.shared).2.committed)])
    (publications : ∀ (caller : Nat) (active : Active Call Stmt Resp Env Fault α Db Change Lock),
      system.calls[caller]? = some active → publishes active.program active.session = true →
      drawn active.call active.session system.shared.committed
        (E.publish active.session system.shared).2.committed) :
    Since drawn first calls before next later := by
  have continued : order <+: later := by
    rcases grown with rfl | ⟨_, _, _, _, rfl⟩
    · exact List.prefix_refl _
    · exact List.prefix_append _ _
  refine ⟨since.begun.trans continued, ?_, ?_⟩
  · intro caller active seen late present opened
    rcases System.step_snapshot taken present opened with ⟨old, stored, kept⟩ | fresh
    · obtain ⟨place, after, inside, linked⟩ := since.opened caller old seen late stored kept
      exact ⟨place, after, inside.trans continued, linked⟩
    · exact ⟨order, since.begun, continued, fresh ▸ ordered.linked⟩
  · intro left entry right same late
    have carried : ∀ active, system.calls[entry.1]? = some active →
        ∃ moved, next.calls[entry.1]? = some moved ∧ moved.call = active.call := by
      intro active present
      obtain ⟨moved, stored, sameCall, -, -⟩ := System.step_kept taken present
      exact ⟨moved, stored, sameCall⟩
    have older : ∀ rest, order = left ++ entry :: rest → ∃ active session,
        next.calls[entry.1]? = some active ∧ drawn active.call session entry.2.1 entry.2.2 ∧
        ∀ seen, session.snapshot = some seen →
          ∃ place, before <+: place ∧ place <+: left ∧ Linked first (place.map Prod.snd) seen := by
      intro rest split
      obtain ⟨active, session, present, tied, places⟩ := since.published left entry rest split late
      obtain ⟨moved, stored, sameCall⟩ := carried active present
      exact ⟨moved, session, stored, sameCall ▸ tied, places⟩
    rcases grown with rfl | ⟨caller, active, stored, publishing, rfl⟩
    · exact older right same
    · rcases List.eq_nil_or_concat right with rfl | ⟨rest, last, rfl⟩
      · -- The entry is the one that this step adds.
        obtain ⟨rfl, new⟩ := List.append_inj' same rfl
        obtain rfl := List.head_eq_of_cons_eq new
        obtain ⟨moved, present, sameCall⟩ := carried active stored
        exact ⟨moved, active.session, present, sameCall ▸ publications caller active stored publishing,
          fun seen opened => since.opened caller active seen late stored opened⟩
      · rw [List.concat_eq_append, ← List.cons_append, ← List.append_assoc] at same
        exact older rest (List.append_inj' same rfl).1

/-- Every run has an order of publications, which continues those of its past, and what
was begun since some moment of the past reads nothing older than that moment. -/
theorem run_inOrder {store : Shared Db}
    {admits : System Call Stmt Resp Env Fault α Db Change Lock → Action Call Env Fault → Prop}
    {past : List (System Call Stmt Resp Env Fault α Db Change Lock)}
    (publications : ∀ (system : System Call Stmt Resp Env Fault α Db Change Lock) (caller : Nat) active,
      System.Reached E program admits store system → system.calls[caller]? = some active →
      publishes active.program active.session = true →
      drawn active.call active.session system.shared.committed
        (E.publish active.session system.shared).2.committed)
    (run : Transitions.Run (System.step E program) admits (.initial store) past system) :
    ∃ order, InOrder store.committed system order ∧ Since drawn store.committed 0 [] system order ∧
      ∀ earlier ∈ past, ∃ before, InOrder store.committed earlier before ∧
        Since drawn store.committed earlier.calls.length before system order := by
  induction run with
  | initial =>
    have ordered : InOrder store.committed
        (System.initial store : System Call Stmt Resp Env Fault α Db Change Lock) [] :=
      ⟨rfl, by simp, by simp [System.initial]⟩
    exact ⟨[], ordered, ordered.since, by simp⟩
  | @step past system next action reached _ taken inductionHypothesis =>
    obtain ⟨order, ordered, whole, history⟩ := inductionHypothesis
    obtain ⟨later, orderedLater, grown⟩ := step_inOrder ordered taken
    have moves : ∀ {calls before}, Since drawn store.committed calls before system order →
        Since drawn store.committed calls before next later := fun since =>
      since.step ordered taken grown fun caller active =>
        publications system caller active reached.reached
    refine ⟨later, orderedLater, moves whole, fun earlier member => ?_⟩
    rcases List.mem_append.mp member with old | new
    · obtain ⟨before, orderedBefore, since⟩ := history earlier old
      exact ⟨before, orderedBefore, moves since⟩
    · rw [List.mem_singleton.mp new]
      exact ⟨order, ordered, moves ordered.since⟩

end Snapshots

section Ending

variable [DecidableEq Lock] {program : Call → Program Stmt Resp Env Fault α}
  {system : System Call Stmt Resp Env Fault α Db Change Lock}

/-- A step that starts no call. -/
def Action.continues {Call Env Fault : Type} : Action Call Env Fault → Prop
  | .call _ => False
  | .advance _ _ => True
  | .interrupt _ _ => True

/-- The call has ended in some system that is reached without new calls. -/
def Ends (E : Engine Db Change Lock Stmt Resp Env Fault)
    (program : Call → Program Stmt Resp Env Fault α) (caller : Nat)
    (system : System Call Stmt Resp Env Fault α Db Change Lock) : Prop :=
  ∃ last call value session, Transitions.Reached (System.step E program)
      (fun _ action => action.continues) system last ∧
    last.calls[caller]? = some ⟨call, .done value, session⟩

/-- A call that can fail here and be led to its end from there can be led to its end. -/
theorem ends_of_interrupt (fault : Fault) {caller : Nat}
    {active : Active Call Stmt Resp Env Fault α Db Change Lock} {next : Program Stmt Resp Env Fault α} {after : Session Db Change Lock}
    (present : system.calls[caller]? = some active)
    (ran : interrupt E fault active.program active.session = some (next, after))
    (rest : Ends E program caller
      { system with calls := system.calls.set caller ⟨active.call, next, after⟩ }) :
    Ends E program caller system := by
  obtain ⟨last, call, value, session, further, ended⟩ := rest
  have taken : system.step E program (.interrupt caller fault) =
      some { system with calls := system.calls.set caller ⟨active.call, next, after⟩ } := by
    simp only [System.step, present, ran]
  exact ⟨last, call, value, session,
    (Transitions.Reached.initial.step (.interrupt caller fault) trivial taken).trans further, ended⟩

/-- A call that can make its request and be led to its end from there can be led to its end. -/
theorem ends_of_advance (env : Env) {caller : Nat}
    {active : Active Call Stmt Resp Env Fault α Db Change Lock} {next : Program Stmt Resp Env Fault α} {after : Session Db Change Lock}
    {now : Shared Db} (present : system.calls[caller]? = some active)
    (ran : advance E (system.heldByOther caller) env active.program active.session system.shared =
      some (next, after, now))
    (rest : Ends E program caller ⟨now, system.calls.set caller ⟨active.call, next, after⟩⟩) :
    Ends E program caller system := by
  obtain ⟨last, call, value, session, further, ended⟩ := rest
  have taken : system.step E program (.advance caller env) =
      some ⟨now, system.calls.set caller ⟨active.call, next, after⟩⟩ := by
    simp only [System.step, present, ran]
  exact ⟨last, call, value, session,
    (Transitions.Reached.initial.step (.advance caller env) trivial taken).trans further, ended⟩

/-- Any call can be led to its end: a request that may have to wait can fail instead.

Proof: induction over the program. Every request that can fail is made to, and the others
never wait. -/
theorem can_end (env : Env) (fault : Fault) {here : Program Stmt Resp Env Fault α} {caller : Nat}
    {call : Call} {session : Session Db Change Lock}
    (present : system.calls[caller]? = some ⟨call, here, session⟩) :
    Ends E program caller system := by
  have replaced : ∀ (system : System Call Stmt Resp Env Fault α Db Change Lock) active moved,
      system.calls[caller]? = some active → (system.calls.set caller moved)[caller]? = some moved :=
    fun system active moved stored => List.getElem?_set_self (List.getElem?_eq_some_iff.mp stored).1
  induction here generalizing system session with
  | done value => exact ⟨system, call, value, session, .initial, present⟩
  | ask k inductionHypothesis =>
    exact ends_of_advance env present rfl
      (inductionHypothesis env (replaced system _ _ present))
  | start k inductionHypothesis =>
    exact ends_of_interrupt fault present rfl
      (inductionHypothesis _ (replaced system _ _ present))
  | statement s k inductionHypothesis =>
    have failed : ∃ after, interrupt E fault (.statement s k) session = some (k (.error fault), after) := by
      cases source : E.source s <;> exact ⟨_, by simp only [interrupt, source]; rfl⟩
    obtain ⟨after, ran⟩ := failed
    exact ends_of_interrupt fault present ran (inductionHypothesis _ (replaced system _ _ present))
  | commit k inductionHypothesis =>
    exact ends_of_interrupt fault present rfl
      (inductionHypothesis _ (replaced system _ _ present))
  | rollback k inductionHypothesis =>
    exact ends_of_advance env present rfl
      (inductionHypothesis (replaced system _ _ present))
  | release k inductionHypothesis =>
    exact ends_of_advance env present rfl
      (inductionHypothesis (replaced system _ _ present))

end Ending

end Transactions
