import Mathlib.Logic.Relation

/-!
# Runs of a transition function

A system is a partial step function over actions; an action that is not enabled
has no successor. Schedules are lists of actions. A run may be restricted to steps
that are admitted in the state they are taken in, and a property that every
admitted step keeps holds in every state reached. Where the order of events matters
a run carries its past. A goal is inevitable when no choice of admitted steps avoids it:
none of them stops short of it, and none goes on for ever.
-/

namespace Transitions

universe u v
variable {State : Type u} {Action : Type v}

/-- States reached by schedules whose every step is admitted in the state it is
taken in. -/
inductive Reached (step : State → Action → Option State) (admits : State → Action → Prop)
    (first : State) : State → Prop where
  | initial : Reached step admits first first
  | step {state next : State} (action : Action) (before : Reached step admits first state)
      (admitted : admits state action) (taken : step state action = some next) :
      Reached step admits first next

variable {step : State → Action → Option State} {admits : State → Action → Prop} {first : State}

/-- A property that every admitted step keeps holds throughout. -/
theorem Reached.invariant {holds : State → Prop} (started : holds first)
    (kept : ∀ state action next, holds state → admits state action →
      step state action = some next → holds next)
    {state : State} (reached : Reached step admits first state) : holds state := by
  induction reached with
  | initial => exact started
  | @step state next action _ admitted taken inductionHypothesis =>
    exact kept state action next inductionHypothesis admitted taken

/-- Runs compose. -/
theorem Reached.trans {middle last : State} (before : Reached step admits first middle)
    (after : Reached step admits middle last) : Reached step admits first last := by
  induction after with
  | initial => exact before
  | step action _ admitted taken inductionHypothesis =>
    exact .step action inductionHypothesis admitted taken

/-- A weaker condition on the steps admits more runs. -/
theorem Reached.mono {weaker : State → Action → Prop}
    (implies : ∀ state action, admits state action → weaker state action) {state : State}
    (reached : Reached step admits first state) : Reached step weaker first state := by
  induction reached with
  | initial => exact .initial
  | @step state next action _ admitted taken inductionHypothesis =>
    exact .step action inductionHypothesis (implies state action admitted) taken

/-- A run with its past: the states it went through before the present one. -/
inductive Run (step : State → Action → Option State) (admits : State → Action → Prop)
    (first : State) : List State → State → Prop where
  | initial : Run step admits first [] first
  | step {past : List State} {state next : State} (action : Action)
      (before : Run step admits first past state) (admitted : admits state action)
      (taken : step state action = some next) : Run step admits first (past ++ [state]) next

/-- A run under a condition is one under a weaker condition. -/
theorem Run.mono {weaker : State → Action → Prop}
    (implies : ∀ state action, admits state action → weaker state action) {past : List State}
    {state : State} (run : Run step admits first past state) : Run step weaker first past state := by
  induction run with
  | initial => exact .initial
  | step action _ admitted taken inductionHypothesis =>
    exact .step action inductionHypothesis (implies _ _ admitted) taken

/-- The last state of a run is reached. -/
theorem Run.reached {past : List State} {state : State} (run : Run step admits first past state) :
    Reached step admits first state := by
  induction run with
  | initial => exact .initial
  | step action _ admitted taken inductionHypothesis =>
    exact .step action inductionHypothesis admitted taken

/-- The states of the past were reached themselves. -/
theorem Run.past_reached {past : List State} {state : State}
    (run : Run step admits first past state) :
    ∀ earlier ∈ past, Reached step admits first earlier := by
  induction run with
  | initial => simp
  | @step past state next action before _ _ inductionHypothesis =>
    intro earlier member
    rcases List.mem_append.mp member with old | new
    · exact inductionHypothesis earlier old
    · rw [List.mem_singleton.mp new]
      exact before.reached

/-- Whatever is reached has a past. -/
theorem Reached.run {state : State} (reached : Reached step admits first state) :
    ∃ past, Run step admits first past state := by
  induction reached with
  | initial => exact ⟨[], .initial⟩
  | step action _ admitted taken inductionHypothesis =>
    obtain ⟨past, run⟩ := inductionHypothesis
    exact ⟨_, .step action run admitted taken⟩

/-- A relation between states that every step establishes, and that composes, holds
between the past and the present. -/
theorem Run.related (related : State → State → Prop)
    (composes : ∀ one two three, related one two → related two three → related one three)
    (taken : ∀ state action next, Reached step admits first state → admits state action →
      step state action = some next → related state next)
    {past : List State} {state : State} (run : Run step admits first past state) :
    ∀ earlier ∈ past, related earlier state := by
  induction run with
  | initial => simp
  | @step past state next action before admitted moved inductionHypothesis =>
    intro earlier member
    have last := taken state action next before.reached admitted moved
    rcases List.mem_append.mp member with old | new
    · exact composes earlier state next (inductionHypothesis earlier old) last
    · rw [List.mem_singleton.mp new]
      exact last

/-- Execute a schedule; `none` when some chosen step fails a test or is not
enabled. -/
def runWhere (step : State → Action → Option State) (check : State → Action → Bool) :
    State → List Action → Option State
  | state, [] => some state
  | state, action :: rest =>
    if check state action then (step state action).bind (runWhere step check · rest) else none

/-- Executing a schedule whose tests imply admission reaches its last state. -/
theorem Reached.of_runWhere {check : State → Action → Bool}
    (sound : ∀ state action, check state action = true → admits state action)
    {actions : List Action} :
    ∀ {state last : State}, Reached step admits first state →
      runWhere step check state actions = some last → Reached step admits first last := by
  induction actions with
  | nil =>
    intro state last before ran
    exact Option.some.inj ran ▸ before
  | cons action rest inductionHypothesis =>
    intro state last before ran
    simp only [runWhere] at ran
    split at ran
    · rename_i admitted
      obtain ⟨next, taken, others⟩ := Option.bind_eq_some_iff.mp ran
      exact inductionHypothesis (.step action before (sound state action admitted) taken) others
    · cases ran

/-- Whatever admitted steps are chosen, the goal is reached after finitely many. Being stuck
before the goal does not count as reaching it. -/
inductive Inevitable (step : State → Action → Option State) (admits : State → Action → Prop)
    (goal : State → Prop) : State → Prop where
  | now {state : State} (there : goal state) : Inevitable step admits goal state
  | later {state next : State} (action : Action) (admitted : admits state action)
      (taken : step state action = some next)
      (every : ∀ action next, admits state action → step state action = some next →
        Inevitable step admits goal next) : Inevitable step admits goal state

/-- One admitted step leads from the second state to the first. -/
def Steps (step : State → Action → Option State) (admits : State → Action → Prop)
    (next state : State) : Prop :=
  ∃ action, admits state action ∧ step state action = some next

/-- Steps that come to an end, and that can be made until the goal is reached, reach it.
Termination and progress are proved apart from each other. -/
theorem Inevitable.of_acc {holds goal : State → Prop}
    (kept : ∀ state action next, holds state → admits state action →
      step state action = some next → holds next)
    (progress : ∀ state, holds state → goal state ∨ ∃ next, Steps step admits next state)
    {state : State} (ends : Acc (Steps step admits) state) (started : holds state) :
    Inevitable step admits goal state := by
  induction ends with
  | intro state _ inductionHypothesis =>
    rcases progress state started with there | ⟨next, action, admitted, taken⟩
    · exact .now there
    · refine .later action admitted taken fun other successor chosen moved => ?_
      exact inductionHypothesis successor ⟨other, chosen, moved⟩
        (kept state other successor started chosen moved)

/-- From where a goal is inevitable it can be reached. -/
theorem Inevitable.reached {goal : State → Prop} {state : State}
    (inevitable : Inevitable step admits goal state) :
    ∃ last, Reached step admits state last ∧ goal last := by
  induction inevitable with
  | now there => exact ⟨_, .initial, there⟩
  | later action admitted taken _ inductionHypothesis =>
    obtain ⟨last, rest, there⟩ := inductionHypothesis action _ admitted taken
    exact ⟨last, (Reached.initial.step action admitted taken).trans rest, there⟩

end Transitions
