import TradeReconcile.Transactions.History

/-!
# Why a call ended the way it did

Some values a program can only end with after a statement gave one of certain replies. If
up to that statement the transaction has written nothing that the reply depends on, the
reply is about the committed database of that moment. A reason that every step of the system
keeps then still holds whenever a call has ended with such a value.
-/

namespace Transactions

variable {Call Db Change Lock Stmt : Type} {Resp : Stmt → Type} {Env Fault α β : Type}
  {E : Engine Db Change Lock Stmt Resp Env Fault}

/-- The value that a program has ended with. -/
def Program.ended : Program Stmt Resp Env Fault α → Option α
  | .done value => some value
  | _ => none

/-- A program has ended with a value if it is that value. -/
theorem Program.ended_eq {program : Program Stmt Resp Env Fault α} {value : α} :
    program.ended = some value ↔ program = .done value := by
  cases program <;> simp [ended]

/-- Every value that a program can end with is good. -/
def Program.Ends (good : α → Prop) : Program Stmt Resp Env Fault α → Prop
  | .done value => good value
  | .ask k => ∀ env, (k env).Ends good
  | .start k => ∀ reply, (k reply).Ends good
  | .statement _ k => ∀ reply, (k reply).Ends good
  | .commit k => ∀ reply, (k reply).Ends good
  | .rollback k => k.Ends good
  | .release k => k.Ends good

/-- If every value is good, every program ends with one. -/
theorem Program.ends_of_all {good : α → Prop} (all : ∀ value, good value)
    (program : Program Stmt Resp Env Fault α) : program.Ends good := by
  induction program with
  | done value => exact all value
  | ask k inductionHypothesis => exact fun env => inductionHypothesis env
  | start k inductionHypothesis | statement s k inductionHypothesis
  | commit k inductionHypothesis => exact fun reply => inductionHypothesis reply
  | rollback k inductionHypothesis | release k inductionHypothesis => exact inductionHypothesis

/-- A sequence ends well if its second part does after every good end of the first. -/
theorem Program.Ends.bind {good : α → Prop} {last : β → Prop} {program : Program Stmt Resp Env Fault α}
    {next : α → Program Stmt Resp Env Fault β} (first : program.Ends good)
    (rest : ∀ value, good value → (next value).Ends last) : (program.bind next).Ends last := by
  induction program with
  | done value => exact rest value first
  | ask k inductionHypothesis => exact fun env => inductionHypothesis env (first env)
  | start k inductionHypothesis | statement s k inductionHypothesis
  | commit k inductionHypothesis => exact fun reply => inductionHypothesis reply (first reply)
  | rollback k inductionHypothesis | release k inductionHypothesis =>
    exact inductionHypothesis first

/-- What is left of a program that ends well ends well. -/
theorem Program.Ends.continues {good : α → Prop} {program next : Program Stmt Resp Env Fault α}
    (ends : program.Ends good) (continues : program.Continues next) : next.Ends good := by
  cases continues with
  | ask env => exact ends env
  | start reply | statement reply | commit reply => exact ends reply
  | rollback | release => exact ends

/-- A program ends with a good value, unless a statement that reads the latest database gives
a telling reply while everything written so far is plain. -/
def Program.Decides (E : Engine Db Change Lock Stmt Resp Env Fault) (plain : Change → Prop)
    (tells : (s : Stmt) → Resp s → Prop) (good : α → Prop) : Program Stmt Resp Env Fault α → Prop
  | .done value => good value
  | .ask k => ∀ env, (k env).Decides E plain tells good
  | .start k => ∀ reply, (k reply).Decides E plain tells good
  | .statement s k =>
      (∀ number env db reply changes, E.run s number env db = .ok (reply, changes) →
        (E.source s ≠ .snapshot ∧ tells s reply) ∨ (k (.ok reply)).Ends good ∨
        ((k (.ok reply)).Decides E plain tells good ∧ ∀ change ∈ changes, plain change)) ∧
      ∀ fault, (k (.error fault)).Decides E plain tells good
  | .commit k => ∀ reply, (k reply).Decides E plain tells good
  | .rollback k => k.Decides E plain tells good
  | .release k => k.Decides E plain tells good

/-- A program all of whose values are good decides nothing. -/
theorem Program.Ends.decides {plain : Change → Prop} {tells : (s : Stmt) → Resp s → Prop}
    {good : α → Prop} {program : Program Stmt Resp Env Fault α} (ends : program.Ends good) :
    program.Decides E plain tells good := by
  induction program with
  | done value => exact ends
  | ask k inductionHypothesis => exact fun env => inductionHypothesis env (ends env)
  | start k inductionHypothesis | commit k inductionHypothesis =>
    exact fun reply => inductionHypothesis reply (ends reply)
  | statement s k inductionHypothesis =>
    exact ⟨fun _ _ _ reply _ _ => .inr (.inl (ends (.ok reply))),
      fun fault => inductionHypothesis (.error fault) (ends (.error fault))⟩
  | rollback k inductionHypothesis | release k inductionHypothesis =>
    exact inductionHypothesis ends

/-- A sequence decides if both parts do, the second after every good end of the first. -/
theorem Program.Decides.bind {plain : Change → Prop} {tells : (s : Stmt) → Resp s → Prop}
    {good : α → Prop} {last : β → Prop} {program : Program Stmt Resp Env Fault α}
    {next : α → Program Stmt Resp Env Fault β} (first : program.Decides E plain tells good)
    (rest : ∀ value, good value → (next value).Ends last) :
    (program.bind next).Decides E plain tells last := by
  induction program with
  | done value => exact (rest value first).decides
  | ask k inductionHypothesis => exact fun env => inductionHypothesis env (first env)
  | start k inductionHypothesis | commit k inductionHypothesis =>
    exact fun reply => inductionHypothesis reply (first reply)
  | statement s k inductionHypothesis =>
    refine ⟨fun number env db reply changes ran => ?_, fun fault =>
      inductionHypothesis (.error fault) (first.2 fault)⟩
    rcases first.1 number env db reply changes ran with telling | ends | ⟨decides, plainly⟩
    · exact .inl telling
    · exact .inr (.inl (ends.bind rest))
    · exact .inr (.inr ⟨inductionHypothesis (.ok reply) decides, plainly⟩)
  | rollback k inductionHypothesis | release k inductionHypothesis =>
    exact inductionHypothesis first

section Requests

variable {plain : Change → Prop} {tells : (s : Stmt) → Resp s → Prop} {good : α → Prop}
  {program next : Program Stmt Resp Env Fault α} {session after : Session Db Change Lock}
  {shared now : Shared Db}

/-- After a commit nothing of one's own is left. -/
theorem publish_own (session : Session Db Change Lock) (shared : Shared Db) :
    (E.publish session shared).1.own = [] := by
  unfold Engine.publish
  split <;> rfl

/-- What is left of a deciding call: it goes on deciding, its end is good, or it has just had
a telling reply about the committed database. -/
def Decided (E : Engine Db Change Lock Stmt Resp Env Fault) (plain : Change → Prop)
    (tells : (s : Stmt) → Resp s → Prop) (good : α → Prop)
    (program : Program Stmt Resp Env Fault α) (session : Session Db Change Lock) : Prop :=
  (program.Decides E plain tells good ∧ ∀ change ∈ session.own, plain change) ∨ program.Ends good

/-- A reply that tells why, read from the committed database and plain images of one's own.
Plain images are those that the reason does not depend on. -/
def Told (E : Engine Db Change Lock Stmt Resp Env Fault) (plain : Change → Prop)
    (tells : (s : Stmt) → Resp s → Prop) (db : Db) : Prop :=
  ∃ (own : List Change) (s : Stmt) (number : Nat) (env : Env) (reply : Resp s) (changes : List Change),
    (∀ change ∈ own, plain change) ∧
      E.run s number env (E.overlay db own) = .ok (reply, changes) ∧ tells s reply

/-- One turn of a deciding call: it goes on deciding, or the database has told it the reason
to end otherwise. The cases are the kinds of turns; only statements tell. -/
theorem advance_decided {held : Lock → Bool} {env : Env}
    (decided : Decided E plain tells good program session)
    (taken : advance E held env program session shared = some (next, after, now)) :
    Decided E plain tells good next after ∨ Told E plain tells shared.committed := by
  have none : ∀ change ∈ session.cleared.own, plain change := by simp
  rcases decided with ⟨decides, plainly⟩ | ends
  · cases program with
    | done value => simp [advance] at taken
    | ask k =>
      simp only [advance, Option.some.injEq, Prod.mk.injEq] at taken
      obtain ⟨rfl, rfl, rfl⟩ := taken
      exact .inl (.inl ⟨decides env, plainly⟩)
    | start k =>
      simp only [advance, Option.some.injEq, Prod.mk.injEq] at taken
      obtain ⟨rfl, rfl, rfl⟩ := taken
      exact .inl (.inl ⟨decides _, none⟩)
    | rollback k =>
      simp only [advance, Option.some.injEq, Prod.mk.injEq] at taken
      obtain ⟨rfl, rfl, rfl⟩ := taken
      exact .inl (.inl ⟨decides, none⟩)
    | commit k =>
      simp only [advance, Option.some.injEq, Prod.mk.injEq] at taken
      obtain ⟨rfl, rfl, rfl⟩ := taken
      exact .inl (.inl ⟨decides _, by simp [publish_own]⟩)
    | release k =>
      simp only [advance, Option.some.injEq, Prod.mk.injEq] at taken
      obtain ⟨rfl, rfl, rfl⟩ := taken
      exact .inl (.inl ⟨decides, by simp [publish_own]⟩)
    | statement s k =>
      cases source : E.source s with
      | snapshot =>
        -- A plain read cannot tell, and adds no image.
        simp only [advance, source] at taken
        split at taken <;> simp only [Option.some.injEq, Prod.mk.injEq] at taken <;>
          obtain ⟨rfl, rfl, rfl⟩ := taken
        · exact .inl (.inl ⟨decides.2 _, none⟩)
        · rename_i ran
          rcases decides.1 _ _ _ _ _ ran with ⟨latest, -⟩ | ends | ⟨more, -⟩
          · exact absurd source latest
          · exact .inl (.inr ends)
          · exact .inl (.inl ⟨more, plainly⟩)
      | client =>
        simp only [advance, source] at taken
        split at taken <;> simp only [Option.some.injEq, Prod.mk.injEq] at taken <;>
          obtain ⟨rfl, rfl, rfl⟩ := taken
        · exact .inl (.inl ⟨decides.2 _, plainly⟩)
        · rename_i reply changes ran
          rcases decides.1 _ _ _ _ _ ran with ⟨-, telling⟩ | ends | ⟨more, -⟩
          · exact .inr ⟨[], s, shared.counter, env, reply, changes, by simp, ran, telling⟩
          · exact .inl (.inr ends)
          · exact .inl (.inl ⟨more, plainly⟩)
      | current =>
        simp only [advance, source] at taken
        split at taken
        · simp at taken
        split at taken <;> simp only [Option.some.injEq, Prod.mk.injEq] at taken <;>
          obtain ⟨rfl, rfl, rfl⟩ := taken
        · exact .inl (.inl ⟨decides.2 _, none⟩)
        · rename_i reply changes ran
          rcases decides.1 _ _ _ _ _ ran with ⟨-, telling⟩ | ends | ⟨more, also⟩
          · exact .inr ⟨session.own, s, shared.counter, env, reply, changes, plainly, ran, telling⟩
          · exact .inl (.inr ends)
          · refine .inl (.inl ⟨more, fun change member => ?_⟩)
            rcases List.mem_append.mp member with old | new
            · exact plainly change old
            · exact also change new
  · exact .inl (.inr (ends.continues (advance_continues taken)))

/-- A failure tells nothing, and a failed call still decides: it has to reach its end without
a refusal, or meet a telling reply later. -/
theorem interrupt_decided {fault : Fault} (decided : Decided E plain tells good program session)
    (taken : interrupt E fault program session = some (next, after)) :
    Decided E plain tells good next after := by
  rcases decided with ⟨decides, plainly⟩ | ends
  · left
    cases program with
    | start k =>
      simp only [interrupt, Option.some.injEq, Prod.mk.injEq] at taken
      obtain ⟨rfl, rfl⟩ := taken
      exact ⟨decides _, plainly⟩
    | commit k =>
      simp only [interrupt, Option.some.injEq, Prod.mk.injEq] at taken
      obtain ⟨rfl, rfl⟩ := taken
      exact ⟨decides _, by simp⟩
    | statement s k =>
      cases source : E.source s <;>
        simp only [interrupt, source, Option.some.injEq, Prod.mk.injEq] at taken <;>
        obtain ⟨rfl, rfl⟩ := taken
      · exact ⟨decides.2 _, by simp⟩
      · exact ⟨decides.2 _, by simp⟩
      · exact ⟨decides.2 _, plainly⟩
    | done | ask | rollback | release => simp [interrupt] at taken
  · exact .inr (ends.continues (interrupt_continues taken))

end Requests

/-- A call that has ended with a value that is not good was told why, and the reason, if
every step keeps it, still holds. -/
theorem reached_decided [DecidableEq Lock] {program : Call → Program Stmt Resp Env Fault α}
    {admits : System Call Stmt Resp Env Fault α Db Change Lock → Action Call Env Fault → Prop}
    {first : Shared Db} {system : System Call Stmt Resp Env Fault α Db Change Lock}
    {plain : Change → Prop} {tells : Call → (s : Stmt) → Resp s → Prop} {good : Call → α → Prop}
    {reason : Call → Db → Prop}
    (decides : ∀ call, (program call).Decides E plain (tells call) (good call))
    (told : ∀ call db, Told E plain (tells call) db → reason call db)
    (lasting : ∀ state action next, System.Reached E program admits first state →
      System.step E program state action = some next →
      ∀ call, reason call state.shared.committed → reason call next.shared.committed)
    (reached : System.Reached E program admits first system) :
    ∀ (caller : Nat) active, system.calls[caller]? = some active →
      Decided E plain (tells active.call) (good active.call) active.program active.session ∨
        reason active.call system.shared.committed := by
  induction reached with
  | initial => simp [System.initial]
  | @step system next action before _ taken inductionHypothesis =>
    have kept := lasting system action next before taken
    rcases System.step_cases taken with ⟨request, rfl, rfl⟩ |
      ⟨caller, env, active, moved, session, shared, rfl, stored, ran, rfl⟩ |
      ⟨caller, fault, active, moved, session, rfl, stored, ran, rfl⟩
    · intro index found present
      rcases getElem?_snoc_cases present with old | rfl
      · exact inductionHypothesis index found old
      · exact .inl (.inl ⟨decides request, by simp [Session.idle]⟩)
    · intro index found present
      rcases getElem?_set_cases present with ⟨rfl, rfl⟩ | ⟨_, old⟩
      · rcases inductionHypothesis index active stored with decided | holds
        · rcases advance_decided decided ran with going | why
          · exact .inl going
          · exact .inr (kept active.call (told active.call system.shared.committed why))
        · exact .inr (kept active.call holds)
      · exact (inductionHypothesis index found old).imp_right (kept found.call)
    · intro index found present
      rcases getElem?_set_cases present with ⟨rfl, rfl⟩ | ⟨_, old⟩
      · exact (inductionHypothesis index active stored).imp
          (fun decided => interrupt_decided decided ran) (kept active.call)
      · exact (inductionHypothesis index found old).imp_right (kept found.call)

end Transactions
