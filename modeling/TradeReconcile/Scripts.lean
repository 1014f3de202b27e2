/-!
# Scripts of external calls

A script is a tree of calls to the outside, branching over the replies. It fixes
what a piece of code asks for and in which order; who answers and what a call does
elsewhere is left to the system the script runs in. Replies may be exceptions:
`Code` passes them on unless they are caught.
-/

namespace Scripts

/-- Calls with their continuations, ending with a value. The answers are given from outside,
so one script stands for every run of its code. -/
inductive Script (Req : Type) (Resp : Req → Type) (α : Type) where
  | done : α → Script Req Resp α
  | call (request : Req) : (Resp request → Script Req Resp α) → Script Req Resp α

namespace Script

variable {Req : Type} {Resp : Req → Type} {α β : Type}

/-- A script and, at its end, what follows from its value. -/
def bind : Script Req Resp α → (α → Script Req Resp β) → Script Req Resp β
  | .done value, next => next value
  | .call request k, next => .call request fun reply => (k reply).bind next

instance : Monad (Script Req Resp) where
  pure := .done
  bind := bind

/-- Ending at once after a script changes nothing. With `bind_bind` these are the laws of a
sequence; both are by induction on the calls. -/
theorem bind_done (script : Script Req Resp α) : script.bind .done = script := by
  induction script with
  | done => rfl
  | call request k inductionHypothesis => simp only [bind, inductionHypothesis]

/-- It does not matter how three scripts in a row are put together. -/
theorem bind_bind {γ : Type} (script : Script Req Resp α) (next : α → Script Req Resp β)
    (last : β → Script Req Resp γ) :
    (script.bind next).bind last = script.bind fun value => (next value).bind last := by
  induction script with
  | done => rfl
  | call request k inductionHypothesis => simp only [bind, inductionHypothesis]

instance : LawfulMonad (Script Req Resp) :=
  LawfulMonad.mk' _ bind_done (fun _ _ => rfl) bind_bind

/-- The calls of a script, as calls of a larger language. -/
def lift {Part : Type} (inject : Part → Req) :
    Script Part (fun request => Resp (inject request)) α → Script Req Resp α
  | .done value => .done value
  | .call request k => .call (inject request) fun reply => (k reply).lift inject

/-- Every call carried out by a script of another language. -/
def substitute {Other : Type} {Answer : Other → Type}
    (implement : (request : Req) → Script Other Answer (Resp request)) :
    Script Req Resp α → Script Other Answer α
  | .done value => .done value
  | .call request k => (implement request).bind fun reply => (k reply).substitute implement

/-- An implementation of the calls is one of every part of a script. -/
theorem substitute_bind {Other : Type} {Answer : Other → Type}
    (implement : (request : Req) → Script Other Answer (Resp request)) (script : Script Req Resp α)
    (next : α → Script Req Resp β) :
    (script.bind next).substitute implement =
      (script.substitute implement).bind fun value => (next value).substitute implement := by
  induction script with
  | done => rfl
  | call request k inductionHypothesis =>
    simp only [bind, substitute, bind_bind, inductionHypothesis]

/-- Carry a script out in a world that answers every call. -/
def execute {World : Type} (answer : World → (request : Req) → World × Resp request) :
    World → Script Req Resp α → World × α
  | world, .done value => (world, value)
  | world, .call request k =>
    execute answer (answer world request).1 (k (answer world request).2)

/-- A script in two parts is executed part by part, the second from where the first has
led. -/
theorem execute_bind {World : Type} (answer : World → (request : Req) → World × Resp request)
    (script : Script Req Resp α) (next : α → Script Req Resp β) (world : World) :
    execute answer world (script.bind next) =
      execute answer (execute answer world script).1 (next (execute answer world script).2) := by
  induction script generalizing world with
  | done => rfl
  | call request k inductionHypothesis => exact inductionHypothesis _ _

end Script

namespace Script

variable {Req : Type} {Resp : Req → Type} {α β World : Type}
  {answers : World → (request : Req) → World × Resp request → Prop}

/-- However the calls of the script are answered in the world, it ends as accepted. The worlds
it may meet are given by a relation, one call at a time. -/
def Ensures (answers : World → (request : Req) → World × Resp request → Prop)
    (accepted : World → α → Prop) : World → Script Req Resp α → Prop
  | world, .done value => accepted world value
  | world, .call request k => ∀ called, answers world request called →
    Ensures answers accepted called.1 (k called.2)

/-- The rule of a sequence: the second part is ensured wherever the first may end. -/
theorem Ensures.bind {accepted : World → β → Prop} {script : Script Req Resp α}
    {next : α → Script Req Resp β} {world : World}
    (first : Ensures answers (fun world value => Ensures answers accepted world (next value)) world
      script) : Ensures answers accepted world (script.bind next) := by
  induction script generalizing world with
  | done value => exact first
  | call request k inductionHypothesis =>
    exact fun called answered => inductionHypothesis called.2 (first called answered)

/-- What is ensured may be weakened. -/
theorem Ensures.mono {accepted weaker : World → α → Prop} {script : Script Req Resp α}
    {world : World} (ensures : Ensures answers accepted world script)
    (implies : ∀ world value, accepted world value → weaker world value) :
    Ensures answers weaker world script := by
  induction script generalizing world with
  | done value => exact implies world value ensures
  | call request k inductionHypothesis =>
    exact fun called answered => inductionHypothesis called.2 (ensures called answered)

/-- Two things that are ensured are ensured together. -/
theorem Ensures.and {accepted also : World → α → Prop} {script : Script Req Resp α} {world : World}
    (one : Ensures answers accepted world script) (other : Ensures answers also world script) :
    Ensures answers (fun world value => accepted world value ∧ also world value) world script := by
  induction script generalizing world with
  | done value => exact ⟨one, other⟩
  | call request k inductionHypothesis =>
    exact fun called answered =>
      inductionHypothesis called.2 (one called answered) (other called answered)

/-- What no answer destroys holds at the end. -/
theorem Ensures.invariant {holds : World → Prop}
    (kept : ∀ world request called, holds world → answers world request called → holds called.1)
    (script : Script Req Resp α) {world : World} (started : holds world) :
    Ensures answers (fun world _ => holds world) world script := by
  induction script generalizing world with
  | done value => exact started
  | call request k inductionHypothesis =>
    exact fun called answered =>
      inductionHypothesis called.2 (kept world request called started answered)

end Script

/-- A protocol tells which calls may be made in a state, which replies can occur and
what they change. -/
structure Protocol (Req : Type) (Resp : Req → Type) (State : Type) where
  permits : State → Req → Prop
  answers : (request : Req) → Resp request → Prop
  after : State → (request : Req) → Resp request → State

/-- The protocol of a language, for a part of its calls. -/
def Protocol.restrict {Req Part State : Type} {Resp : Req → Type}
    (P : Protocol Req Resp State) (inject : Part → Req) :
    Protocol Part (fun request => Resp (inject request)) State where
  permits state request := P.permits state (inject request)
  answers request := P.answers (inject request)
  after state request := P.after state (inject request)

namespace Script

variable {Req : Type} {Resp : Req → Type} {State α β : Type} {P : Protocol Req Resp State}

/-- Every call of the script is permitted in the state it is made in, and the script
ends with an accepted value. -/
def Follows (P : Protocol Req Resp State) (accepted : State → α → Prop) :
    State → Script Req Resp α → Prop
  | state, .done value => accepted state value
  | state, .call request k => P.permits state request ∧
    ∀ reply, P.answers request reply → Follows P accepted (P.after state request reply) (k reply)

/-- A sequence follows a protocol if its second part does from wherever the first may end. -/
theorem Follows.bind {accepted : State → β → Prop} {script : Script Req Resp α}
    {next : α → Script Req Resp β} {state : State}
    (first : Follows P (fun state value => Follows P accepted state (next value)) state script) :
    Follows P accepted state (script.bind next) := by
  induction script generalizing state with
  | done value => exact first
  | call request k inductionHypothesis =>
    exact ⟨first.1, fun reply occurs => inductionHypothesis reply (first.2 reply occurs)⟩

/-- What holds at the end may be weakened. -/
theorem Follows.mono {accepted weaker : State → α → Prop} {script : Script Req Resp α}
    {state : State} (follows : Follows P accepted state script)
    (implies : ∀ state value, accepted state value → weaker state value) :
    Follows P weaker state script := by
  induction script generalizing state with
  | done value => exact implies state value follows
  | call request k inductionHypothesis =>
    exact ⟨follows.1, fun reply occurs => inductionHypothesis reply (follows.2 reply occurs)⟩

/-- A script over a part of the calls follows the whole protocol if it follows the restricted
one. -/
theorem Follows.lift {Part : Type} {inject : Part → Req} {accepted : State → α → Prop}
    {script : Script Part (fun request => Resp (inject request)) α} {state : State}
    (follows : Follows (P.restrict inject) accepted state script) :
    Follows P accepted state (script.lift inject) := by
  induction script generalizing state with
  | done value => exact follows
  | call request k inductionHypothesis =>
    exact ⟨follows.1, fun reply occurs => inductionHypothesis reply (follows.2 reply occurs)⟩

/-- A protocol that permits every call is followed by every script. -/
theorem follows_of_permits {accepted : State → α → Prop} (free : ∀ state request,
    P.permits state request) (ends : ∀ state value, accepted state value)
    (script : Script Req Resp α) (state : State) : Follows P accepted state script := by
  induction script generalizing state with
  | done value => exact ends state value
  | call request k inductionHypothesis =>
    exact ⟨free state request, fun reply _ => inductionHypothesis reply _⟩

end Script

/-- Code whose calls may throw. -/
abbrev Code (Req : Type) (Reply : Req → Type) (Fault : Type) : Type → Type :=
  ExceptT Fault (Script Req fun request => Except Fault (Reply request))

/-- Make one call. -/
def perform {Req : Type} {Reply : Req → Type} {Fault : Type} (request : Req) :
    Code Req Reply Fault (Reply request) :=
  ExceptT.mk (.call request .done)

/-- What follows a reply: the code after a value, the end after an exception. -/
def following {Req : Type} {Reply : Req → Type} {Fault α β : Type}
    (next : α → Code Req Reply Fault β) :
    Except Fault α → Script Req (fun request => Except Fault (Reply request)) (Except Fault β)
  | .ok value => next value
  | .error fault => .done (.error fault)

/-- What a catch clause makes of an outcome. -/
def catching {Req : Type} {Reply : Req → Type} {Fault α : Type}
    (handler : Fault → Code Req Reply Fault α) :
    Except Fault α → Script Req (fun request => Except Fault (Reply request)) (Except Fault α)
  | .ok value => .done (.ok value)
  | .error fault => handler fault

section Substitution

variable {Req Other Fault α β : Type} {Reply : Req → Type} {Answer : Other → Type}
  (implement : (request : Req) →
    Script Other (fun request => Except Fault (Answer request)) (Except Fault (Reply request)))

/-- Sequences are carried out in sequence. -/
theorem substitute_sequence (code : Code Req Reply Fault α) (next : α → Code Req Reply Fault β) :
    Script.substitute implement (code >>= next : Code Req Reply Fault β) =
      (ExceptT.mk (Script.substitute implement code) >>= fun value =>
        ExceptT.mk (Script.substitute implement (next value)) : Code Other Answer Fault β) := by
  apply (Script.substitute_bind implement code _).trans
  apply congrArg (Script.bind (Script.substitute implement code))
  funext outcome
  cases outcome with
  | error fault => rfl
  | ok value => rfl

/-- A catch clause catches what the calls throw. -/
theorem substitute_tryCatch (code : Code Req Reply Fault α)
    (handler : Fault → Code Req Reply Fault α) :
    Script.substitute implement (tryCatch code handler : Code Req Reply Fault α) =
      (tryCatch (ExceptT.mk (Script.substitute implement code)) fun fault =>
        ExceptT.mk (Script.substitute implement (handler fault)) : Code Other Answer Fault α) := by
  apply (Script.substitute_bind implement code _).trans
  apply congrArg (Script.bind (Script.substitute implement code))
  funext outcome
  cases outcome with
  | error fault => rfl
  | ok value => rfl

/-- One call is carried out by its implementation. -/
theorem substitute_perform (request : Req) :
    Script.substitute implement (perform request : Code Req Reply Fault (Reply request)) =
      implement request :=
  Script.bind_done (implement request)

end Substitution

/-- A call that may be cut short by an exception, before or after it took effect. Whoever made
it cannot tell which. -/
def attempt {World Fault α : Type} (thrown : Option (Fault × Bool)) (before after : World)
    (reply : Except Fault α) : World × Except Fault α :=
  match thrown with
  | none => (after, reply)
  | some (fault, true) => (after, .error fault)
  | some (fault, false) => (before, .error fault)

section Attempts

variable {World Fault α : Type} {thrown : Option (Fault × Bool)} {before after : World}
  {reply : Except Fault α}

/-- A call that does not throw has its effect and its reply. -/
theorem attempt_ok {value : α} (answered : (attempt thrown before after reply).2 = .ok value) :
    (attempt thrown before after reply).1 = after ∧ reply = .ok value := by
  cases thrown with
  | none => exact ⟨rfl, answered⟩
  | some exception =>
    obtain ⟨fault, applied⟩ := exception
    cases applied <;> cases answered

/-- An attempt leaves one of two worlds. -/
theorem attempt_world (thrown : Option (Fault × Bool)) (before after : World)
    (reply : Except Fault α) :
    (attempt thrown before after reply).1 = before ∨
      (attempt thrown before after reply).1 = after := by
  unfold attempt
  split
  · exact .inr rfl
  · exact .inr rfl
  · exact .inl rfl

end Attempts

/-- Sequencing, along a protocol: what follows the first part goes on from its state. -/
theorem follows_bind {Req State : Type} {Reply : Req → Type} {Fault α β : Type}
    {P : Protocol Req (fun request => Except Fault (Reply request)) State}
    {accepted : State → Except Fault β → Prop} {code : Code Req Reply Fault α}
    {next : α → Code Req Reply Fault β} {state : State}
    (first : Script.Follows P (fun state outcome =>
      Script.Follows P accepted state (following next outcome)) state code) :
    Script.Follows P accepted state (code >>= next : Code Req Reply Fault β) :=
  Script.Follows.bind first

/-- One call, along a protocol. -/
theorem follows_perform {Req State : Type} {Reply : Req → Type} {Fault α : Type}
    {P : Protocol Req (fun request => Except Fault (Reply request)) State}
    {accepted : State → Except Fault α → Prop} {r : Req}
    {next : Reply r → Code Req Reply Fault α} {state : State}
    (permitted : P.permits state r)
    (returned : ∀ value, P.answers r (.ok value) →
      Script.Follows P accepted (P.after state r (.ok value)) (next value))
    (thrown : ∀ fault, P.answers r (.error fault) →
      accepted (P.after state r (.error fault)) (.error fault)) :
    Script.Follows P accepted state (perform r >>= next : Code Req Reply Fault α) := by
  refine ⟨permitted, ?_⟩
  rintro (fault | value) answered
  · exact thrown fault answered
  · exact returned value answered

/-- Code with a handler follows a protocol if the code does and the handler does after each of
its exceptions. -/
theorem follows_tryCatch {Req State : Type} {Reply : Req → Type} {Fault α : Type}
    {P : Protocol Req (fun request => Except Fault (Reply request)) State}
    {accepted : State → Except Fault α → Prop} {code : Code Req Reply Fault α}
    {handler : Fault → Code Req Reply Fault α} {state : State}
    (first : Script.Follows P (fun state outcome =>
      Script.Follows P accepted state (catching handler outcome)) state code) :
    Script.Follows P accepted state (tryCatch code handler : Code Req Reply Fault α) :=
  Script.Follows.bind first

end Scripts
