import Mathlib.Data.List.Perm.Basic
import TradeReconcile.Controllers
import TradeReconcile.Transitions

/-!
# Answers to pooled requests

Whether the framework's callback of a request is invoked is decided when the handler
runs: by the request, the state of the pool and what the database will answer. The
services of orders, callbacks and reconciliations turn every exception into a reply;
`listDiffs` lets all but the driver's exceptions pass and `handleDiff` lets all pass.
Once the pool refuses the closure nobody has the callback any more. A callback is never
invoked twice.
-/

namespace TradeReconcile

open Transactions

namespace Controllers

/-! Outcomes of the services. -/

/-- What follows a program goes on with the replies that are left. -/
theorem outcome_bind {α β : Type} (replies : Nat → Replies) (first : Prog α)
    (next : α → Prog β) (count : Nat) :
    ∃ later, outcome replies count (first.bind next) =
      outcome replies later (next (outcome replies count first)) := by
  induction first generalizing count with
  | done value => exact ⟨count, rfl⟩
  | ask k inductionHypothesis | start k inductionHypothesis
  | statement s k inductionHypothesis | commit k inductionHypothesis =>
    exact inductionHypothesis _ (count + 1)
  | rollback k inductionHypothesis | release k inductionHypothesis =>
    exact inductionHypothesis (count + 1)

/-- A program that ends with an answer made from its value. -/
theorem outcome_answer {α : Type} (replies : Nat → Replies) (first : Prog α)
    (answer : α → Answer) :
    ∃ value, outcome replies 0 (first.bind fun value => .done (answer value)) = answer value := by
  obtain ⟨later, same⟩ := outcome_bind replies first (fun value => .done (answer value)) 0
  exact ⟨_, same⟩

/-- What the database does not do while `handleDiff` is at work: it throws neither from
the lookup nor, for a difference that exists, from the update. -/
def Undisturbed (replies : Nat → Replies) (diffId : Int) (handleStatus : HandleStatus)
    (remark : String) : Prop :=
  match (replies 0).statement (.diffGetById diffId) with
  | .error _ => False
  | .ok none => True
  | .ok (some _) =>
    ((replies 1).statement (.diffHandle diffId handleStatus remark)).isOk = true ∧
      (replies 2).commit.isOk = true

/-- The closure reaches the event loop. -/
def Responds (P : Platform) (replies : Nat → Replies) (call : Call) : Prop :=
  (respond (outcome replies 0 (program P call))).isOk = true

section Outcomes

variable {P : Platform} {replies : Nat → Replies}

/-- A creation always answers: its transaction's exceptions are replies. -/
theorem createOrder_responds (req : CreateOrderReq) : Responds P replies (.createOrder req) := by
  obtain ⟨value, same⟩ := outcome_answer replies (OrderService.createOrder P req) .order
  unfold Responds
  rw [program, same]
  cases value <;> rfl

/-- A callback always answers. -/
theorem handleCallback_responds (req : PaymentCallbackReq) (rawBody : String) :
    Responds P replies (.handleCallback req rawBody) := by
  obtain ⟨value, same⟩ := outcome_answer replies (PaymentService.handleCallback P req rawBody) .reply
  unfold Responds
  rw [program, same]
  rfl

/-- A run always answers. -/
theorem reconcile_responds (billDate : String) (bill : Option String) :
    Responds P replies (.reconcile billDate bill) := by
  obtain ⟨value, same⟩ := outcome_answer replies (ReconcileService.run billDate bill) .reply
  unfold Responds
  rw [program, same]
  rfl

/-- A listing answers the exceptions of the database driver and lets every other one
through. -/
theorem listDiffs_responds (batchNo : String) (limit : Nat) :
    Responds P replies (.listDiffs batchNo limit) ↔
      (replies 0).statement (.diffList batchNo limit) ≠ .error .std := by
  simp only [Responds, program, ReconcileService.listDiffs, Program.bind, outcome]
  cases (replies 0).statement (.diffList batchNo limit) with
  | ok rows => exact iff_of_true rfl (by simp)
  | error fault =>
    cases fault with
    | db => exact iff_of_true rfl (by simp)
    | std => exact iff_of_false Bool.false_ne_true fun other => other rfl

/-- Each of the three calls to the database may end the service with an exception. -/
theorem handleDiff_responds (diffId : Int) (action remark : String) :
    Responds P replies (.handleDiff diffId action remark) ↔
      ∀ handleStatus, ReconcileService.handleStatusOf action = some handleStatus →
        Undisturbed replies diffId handleStatus remark := by
  simp only [Responds, program, ReconcileService.handleDiff]
  cases ReconcileService.handleStatusOf action with
  | none => exact iff_of_true rfl (by simp)
  | some handleStatus =>
    simp only [Program.bind, outcome, Undisturbed, Option.some.injEq, forall_eq']
    cases (replies 0).statement (.diffGetById diffId) with
    | error fault => exact iff_of_false Bool.false_ne_true id
    | ok found =>
      cases found with
      | none => exact iff_of_true rfl trivial
      | some diff =>
        simp only [ReconcileService.updateDiff, Program.bind, outcome]
        cases (replies 1).statement (.diffHandle diffId handleStatus remark) with
        | error fault => exact iff_of_false Bool.false_ne_true fun both => Bool.false_ne_true both.1
        | ok affectedRows =>
          simp only [Program.bind, outcome]
          cases (replies 2).commit with
          | error fault => exact iff_of_false Bool.false_ne_true fun both => Bool.false_ne_true both.2
          | ok done =>
            refine iff_of_true ?_ ⟨rfl, rfl⟩
            by_cases unchanged : affectedRows = 0
            · rw [if_pos unchanged]
              rfl
            · rw [if_neg unchanged]
              rfl

end Outcomes

/-! Building the calls. -/

/-- A test that passed among several. -/
theorem allOf_passed {tests : List (Except Fault Bool)} (passed : allOf tests = .ok true) :
    ∀ test ∈ tests, test = .ok true := by
  induction tests with
  | nil => simp
  | cons test rest inductionHypothesis =>
    match test, passed with
    | .ok true, passed => simpa using inductionHypothesis passed

/-- Code that has passed has passed in each part. -/
theorem bind_passed {α β : Type} {first : Except Fault α} {next : α → Except Fault β} {result : β}
    (passed : (first >>= next) = .ok result) :
    ∃ value, first = .ok value ∧ next value = .ok result := by
  cases first with
  | error fault => cases passed
  | ok value => exact ⟨value, rfl, passed⟩

/-- The number that was checked is read without an exception. -/
theorem hasPositiveInt_passed {W : WebPlatform} {json : Json} {key : String}
    (passed : hasPositiveInt W json key = .ok true) :
    ∃ value, (json.member key).asInt64 W = .ok value := by
  obtain ⟨isMember, _, rest⟩ := bind_passed passed
  cases isMember with
  | false => cases rest
  | true =>
    cases numeric : (json.member key).isNumeric with
    | false => simp [numeric, pure, Except.pure] at rest
    | true =>
      simp only [numeric, Bool.not_true, Bool.false_eq_true, if_false] at rest
      obtain ⟨value, converted, _⟩ := bind_passed rest
      exact ⟨value, converted⟩

/-- A string among the members of an object. -/
theorem hasString_passed {json : Json} {key : String} (passed : hasString json key = .ok true) :
    ∃ text, (json.member key).asString = .ok text := by
  obtain ⟨isMember, _, rest⟩ := bind_passed passed
  cases isMember with
  | false => cases rest
  | true =>
    have isString : (json.member key).isString = true := Except.ok.inj rest
    revert isString
    cases json.member key with
    | str text => exact fun _ => ⟨text, rfl⟩
    | _ => nofun

/-- The text that was checked is read without an exception. -/
theorem hasNonEmptyString_passed {json : Json} {key : String}
    (passed : hasNonEmptyString json key = .ok true) :
    ∃ text, (json.member key).asString = .ok text := by
  obtain ⟨isMember, _, rest⟩ := bind_passed passed
  cases isMember with
  | false => cases rest
  | true =>
    cases isString : (json.member key).isString with
    | false => simp [isString, pure, Except.pure] at rest
    | true =>
      simp only [isString, Bool.not_true, Bool.false_eq_true, if_false] at rest
      obtain ⟨text, converted, _⟩ := bind_passed rest
      exact ⟨text, converted⟩

/-- Only objects have members; a remark that is missing reads as the empty text. -/
theorem remarkOf_eq {json : Json} {key : String} (passed : json.isMember key = .ok true) :
    remarkOf json = (json.member "remark").asString := by
  cases json with
  | obj members =>
    cases present : members.any fun member => member.1 == "remark" with
    | false =>
      have missing : (members.find? fun member => member.1 == "remark") = none := by
        simpa using present
      have absent : (Json.obj members).isMember "remark" = .ok false := by
        rw [Json.isMember, present]
      simp only [remarkOf, absent, Json.member, missing]
      rfl
    | true =>
      have held : (Json.obj members).isMember "remark" = .ok true := by
        rw [Json.isMember, present]
      simp only [remarkOf, held]
      rfl
  | _ => cases passed

section Building

variable {W : WebPlatform} {request : HttpRequest} (bill : Option String)

/-- The request of a creation that has passed the checks is built. -/
theorem build_createOrder (passed : check W request .createOrder = .ok true) :
    ∃ req, build W request bill .createOrder = .ok (.createOrder req) := by
  cases given : request.json with
  | none => simp [check, given] at passed
  | some json =>
    simp only [check, given] at passed
    have each := allOf_passed passed
    obtain ⟨productId, one⟩ := hasPositiveInt_passed (each _ (by simp) :
      hasPositiveInt W json "productId" = .ok true)
    obtain ⟨quantity, two⟩ := hasPositiveInt_passed (each _ (by simp) :
      hasPositiveInt W json "quantity" = .ok true)
    obtain ⟨userId, three⟩ := hasPositiveInt_passed (each _ (by simp) :
      hasPositiveInt W json "userId" = .ok true)
    simp only [build, given, Option.getD_some, one, two, three]
    exact ⟨_, rfl⟩

/-- For a callback this depends on its timestamp: the check looks at whether it is a number,
and not at its range. -/
theorem build_handleCallback (passed : check W request .handleCallback = .ok true) :
    match ((request.json.getD .null).member "timestamp").asInt64 W with
    | .ok _ => ∃ req, build W request bill .handleCallback = .ok (.handleCallback req request.body)
    | .error fault => build W request bill .handleCallback = .error fault := by
  cases given : request.json with
  | none => simp [check, given] at passed
  | some json =>
    simp only [check, given] at passed
    have each := allOf_passed passed
    obtain ⟨orderNo, one⟩ := hasNonEmptyString_passed (each _ (by simp) :
      hasNonEmptyString json "orderNo" = .ok true)
    obtain ⟨channel, two⟩ := hasNonEmptyString_passed (each _ (by simp) :
      hasNonEmptyString json "channel" = .ok true)
    obtain ⟨channelTradeNo, three⟩ := hasNonEmptyString_passed (each _ (by simp) :
      hasNonEmptyString json "channelTradeNo" = .ok true)
    obtain ⟨amount, four⟩ := hasNonEmptyString_passed (each _ (by simp) :
      hasNonEmptyString json "amount" = .ok true)
    obtain ⟨sign, five⟩ := hasNonEmptyString_passed (each _ (by simp) :
      hasNonEmptyString json "sign" = .ok true)
    simp only [build, given, Option.getD_some, one, two, three, four, five]
    cases (json.member "timestamp").asInt64 W with
    | ok timestamp => exact ⟨_, rfl⟩
    | error fault => rfl

/-- The request of a run that has passed the checks is built. -/
theorem build_runReconcile (passed : check W request .runReconcile = .ok true) :
    ∃ billDate, build W request bill .runReconcile = .ok (.reconcile billDate bill) := by
  cases given : request.json with
  | none => simp [check, given] at passed
  | some json =>
    simp only [check, given] at passed
    obtain ⟨billDate, one⟩ := hasNonEmptyString_passed passed
    simp only [build, given, Option.getD_some, one]
    exact ⟨_, rfl⟩

/-- For a handling it depends on its remark, which no check looks at. -/
theorem build_handleDiff (passed : check W request .handleDiff = .ok true) :
    ∃ action, ((request.json.getD .null).member "action").asString = .ok action ∧
      match ((request.json.getD .null).member "remark").asString with
      | .ok remark =>
        build W request bill .handleDiff = .ok (.handleDiff request.diffId action remark)
      | .error fault => build W request bill .handleDiff = .error fault := by
  cases given : request.json with
  | none => simp [check, given] at passed
  | some json =>
    simp only [check, given] at passed
    obtain ⟨action, one⟩ := hasString_passed passed
    obtain ⟨isMember, found, rest⟩ := bind_passed passed
    have held : json.isMember "action" = .ok true := by
      cases isMember with
      | false => cases rest
      | true => exact found
    refine ⟨action, one, ?_⟩
    simp only [build, given, Option.getD_some, one, remarkOf_eq held]
    cases (json.member "remark").asString with
    | ok remark => rfl
    | error fault => rfl

end Building

/-! Which requests are answered. -/

/-- When a request whose parameters passed the checks is answered: the pool accepts its
closure, what is read without a check converts, and the database throws nothing that the
service lets pass. -/
def Answerable (W : WebPlatform) (arrival : Arrival) : Prop :=
  arrival.stopped = false ∧
    match arrival.endpoint with
    | .createOrder => True
    | .handleCallback =>
      ∃ value, ((arrival.request.json.getD .null).member "timestamp").asInt64 W = .ok value
    | .runReconcile => True
    | .listDiffs =>
      (arrival.replies 0).statement (.diffList arrival.request.batchNo 200) ≠ .error .std
    | .handleDiff =>
      ∃ action remark, ((arrival.request.json.getD .null).member "action").asString = .ok action ∧
        ((arrival.request.json.getD .null).member "remark").asString = .ok remark ∧
        ∀ handleStatus, ReconcileService.handleStatusOf action = some handleStatus →
          Undisturbed arrival.replies arrival.request.diffId handleStatus remark

/-- The handler invokes the callback, or leaves a closure that gets it to the event loop. It
is decided by the request, the replies of the database and whether the pool was stopped. -/
def Served (P : Platform) (W : WebPlatform) (arrival : Arrival) : Prop :=
  match handle W arrival with
  | .answered _ => True
  | .thrown _ => False
  | .submitted task => Responds P task.replies task.call

section Serving

variable {P : Platform} {W : WebPlatform} {arrival : Arrival}

/-- After the checks only an accepted closure leads to an answer. -/
theorem served_checked (passed : check W arrival.request arrival.endpoint = .ok true) :
    Served P W arrival ↔ arrival.stopped = false ∧
      ∃ call, build W arrival.request arrival.bill arrival.endpoint = .ok call ∧
        Responds P arrival.replies call := by
  simp only [Served, handle, passed]
  cases build W arrival.request arrival.bill arrival.endpoint with
  | error fault => simp
  | ok call =>
    cases arrival.stopped with
    | true => simp [submitToPool, Callback.invoke]
    | false => simp [submitToPool]

/-- A request that has passed the checks is served exactly if it is answerable, with one
reason for each endpoint. -/
theorem served_iff (passed : check W arrival.request arrival.endpoint = .ok true) :
    Served P W arrival ↔ Answerable W arrival := by
  rw [served_checked passed, Answerable]
  refine and_congr_right fun _ => ?_
  cases endpoint : arrival.endpoint with
  | createOrder =>
    obtain ⟨req, built⟩ := build_createOrder arrival.bill (endpoint ▸ passed)
    exact iff_of_true ⟨_, built, createOrder_responds req⟩ trivial
  | handleCallback =>
    have built := build_handleCallback arrival.bill (endpoint ▸ passed)
    cases timestamp : ((arrival.request.json.getD .null).member "timestamp").asInt64 W with
    | ok value =>
      simp only [timestamp] at built
      obtain ⟨req, built⟩ := built
      exact iff_of_true ⟨_, built, handleCallback_responds req _⟩ ⟨value, rfl⟩
    | error fault =>
      simp only [timestamp] at built
      simp [built]
  | runReconcile =>
    obtain ⟨billDate, built⟩ := build_runReconcile arrival.bill (endpoint ▸ passed)
    exact iff_of_true ⟨_, built, reconcile_responds billDate arrival.bill⟩ trivial
  | listDiffs =>
    simp only [build, Except.ok.injEq, exists_eq_left']
    exact listDiffs_responds _ _
  | handleDiff =>
    obtain ⟨action, read, built⟩ := build_handleDiff arrival.bill (endpoint ▸ passed)
    cases remarked : ((arrival.request.json.getD .null).member "remark").asString with
    | ok remark =>
      simp only [remarked] at built
      simp only [built, read, Except.ok.injEq, exists_eq_left', exists_and_left]
      exact handleDiff_responds _ _ _
    | error fault =>
      simp only [remarked] at built
      simp [built]

end Serving

/-! Runs of the process. -/

/-- How many entries belong to a request. -/
def countOf {α : Type} (number : Nat) (entries : List (Nat × α)) : Nat :=
  entries.countP fun entry => entry.1 == number

section Counting

variable {α : Type} {entries : List (Nat × α)} {number : Nat} {value : α}

/-- Taking an entry out of a queue lowers the count of its number by one. -/
theorem countOf_taken {index : Nat} (present : entries[index]? = some (number, value))
    (other : Nat) :
    countOf other entries = countOf other (entries.eraseIdx index) +
      if number = other then 1 else 0 := by
  obtain ⟨below, found⟩ := List.getElem?_eq_some_iff.mp present
  have same := (List.getElem_cons_eraseIdx_perm below).countP_eq fun entry => entry.1 == other
  rw [found, List.countP_cons] at same
  simpa [countOf] using same.symm

/-- Adding an entry raises it by one. -/
theorem countOf_added (other : Nat) :
    countOf other (entries ++ [(number, value)]) =
      countOf other entries + if number = other then 1 else 0 := by
  simp [countOf, List.countP_append, List.countP_cons]

end Counting

namespace Process

/-- Nothing is left to do for a request. -/
def Settled (process : Process) (number : Nat) : Prop :=
  countOf number process.tasks = 0 ∧ countOf number process.closures = 0

/-- How often the callback of a request was invoked. -/
def answered (process : Process) (number : Nat) : Nat := countOf number process.answers

/-- Where the callback of a request is, or was invoked. -/
def places (process : Process) (number : Nat) : Nat :=
  countOf number process.tasks + countOf number process.closures + process.answered number

end Process

/-- The callback of a request is in one place at most, and gets to its answer exactly
for the requests that are served. -/
structure Kept (P : Platform) (W : WebPlatform) (process : Process) : Prop where
  tasks : ∀ entry ∈ process.tasks, ∃ arrival, process.arrivals[entry.1]? = some arrival ∧
    handle W arrival = .submitted entry.2
  closures : ∀ entry ∈ process.closures, entry.2.2 = .supplied
  numbers : ∀ number, process.arrivals.length ≤ number → process.places number = 0
  served : ∀ number arrival, process.arrivals[number]? = some arrival → Served P W arrival →
    process.places number = 1
  unserved : ∀ number arrival, process.arrivals[number]? = some arrival → ¬Served P W arrival →
    countOf number process.closures + process.answered number = 0

section Runs

variable {P : Platform} {W : WebPlatform}

/-- What is handed to the pool has the callback that was supplied. -/
theorem handle_submitted {arrival : Arrival} {task : Task}
    (submitted : handle W arrival = .submitted task) : task.callback = .supplied := by
  unfold handle at submitted
  split at submitted
  · cases submitted
  · cases submitted
  · split at submitted
    · cases submitted
    · unfold submitToPool at submitted
      cases stopped : arrival.stopped with
      | true => simp [stopped, Callback.invoke] at submitted
      | false =>
        simp only [stopped, Bool.false_eq_true, if_false, Handled.submitted.injEq] at submitted
        rw [← submitted]

/-- Nothing has arrived, so nothing is answered. -/
theorem initial_kept : Kept P W .initial where
  tasks := by simp [Process.initial]
  closures := by simp [Process.initial]
  numbers := by simp [Process.initial, Process.places, Process.answered, countOf]
  served := by simp [Process.initial]
  unserved := by simp [Process.initial]

/-- A step that is no request moves callbacks on and adds none. It is enough that no callback
of a served request is lost and no other request gains one, which is a matter of counting
their places. -/
theorem Kept.moved {process next : Process} (kept : Kept P W process)
    (same : next.arrivals = process.arrivals)
    (tasks : ∀ entry ∈ next.tasks, entry ∈ process.tasks)
    (closures : ∀ entry ∈ next.closures, entry.2.2 = .supplied)
    (fewer : ∀ number, next.places number ≤ process.places number)
    (served : ∀ number arrival, process.arrivals[number]? = some arrival → Served P W arrival →
      process.places number ≤ next.places number)
    (unserved : ∀ number arrival, process.arrivals[number]? = some arrival →
      ¬Served P W arrival → countOf number next.closures + next.answered number ≤
        countOf number process.closures + process.answered number) :
    Kept P W next where
  tasks := by
    intro entry member
    rw [same]
    exact kept.tasks entry (tasks entry member)
  closures := closures
  numbers := by
    intro number above
    have old := kept.numbers number (same ▸ above)
    have less := fewer number
    omega
  served := by
    intro number arrival arrived serves
    rw [same] at arrived
    have old := kept.served number arrival arrived serves
    have less := fewer number
    have more := served number arrival arrived serves
    omega
  unserved := by
    intro number arrival arrived serves
    rw [same] at arrived
    have old := kept.unserved number arrival arrived serves
    have less := unserved number arrival arrived serves
    omega

/-- A worker hands the callback on to the event loop, or loses it where an exception leaves
the service. -/
theorem work_kept {process next : Process} {index : Nat} (kept : Kept P W process)
    (worked : process.work P index = some next) : Kept P W next := by
  unfold Process.work at worked
  split at worked
  · cases worked
  · rename_i number task present
    obtain ⟨arrival, arrived, submitted⟩ :=
      kept.tasks (number, task) (List.mem_of_getElem? present)
    have taken := countOf_taken present
    have decided : Served P W arrival ↔ Responds P task.replies task.call := by
      rw [Served, submitted]
    unfold Responds at decided
    split at worked
    · rename_i failed
      obtain rfl := Option.some.inj worked
      refine kept.moved rfl (fun entry => List.mem_of_mem_eraseIdx) kept.closures ?_ ?_ ?_
      · intro other
        have one := taken other
        simp only [Process.places, Process.answered]
        omega
      · intro other found here serves
        have one := taken other
        by_cases lost : number = other
        · subst lost
          obtain rfl := Option.some.inj (arrived.symm.trans here)
          rw [decided, failed] at serves
          cases serves
        · rw [if_neg lost] at one
          simp only [Process.places, Process.answered]
          omega
      · exact fun _ _ _ _ => le_refl _
    · rename_i response responded
      obtain rfl := Option.some.inj worked
      have added : ∀ other,
          countOf other (process.closures ++ [(number, response, task.callback)]) =
            countOf other process.closures + if number = other then 1 else 0 := countOf_added
      refine kept.moved rfl (fun entry => List.mem_of_mem_eraseIdx) ?_ ?_ ?_ ?_
      · intro entry member
        rcases List.mem_append.mp member with old | new
        · exact kept.closures entry old
        · rw [List.mem_singleton.mp new]
          exact handle_submitted submitted
      · intro other
        have one := taken other
        have two := added other
        simp only [Process.places, Process.answered]
        omega
      · intro other found here serves
        have one := taken other
        have two := added other
        simp only [Process.places, Process.answered]
        omega
      · intro other found here unserved
        have two := added other
        have lost : number ≠ other := by
          rintro rfl
          obtain rfl := Option.some.inj (arrived.symm.trans here)
          rw [decided, responded] at unserved
          exact unserved rfl
        rw [if_neg lost] at two
        simp only [Process.answered]
        omega

/-- The event loop invokes the callback it was handed. The request is answered by that, and
nothing that would answer it again is left. -/
theorem loop_kept {process next : Process} {index : Nat} (kept : Kept P W process)
    (looped : process.loop index = some next) : Kept P W next := by
  unfold Process.loop at looped
  split at looped
  · cases looped
  · rename_i number response callback present
    obtain rfl : callback = .supplied :=
      kept.closures (number, response, callback) (List.mem_of_getElem? present)
    obtain rfl := Option.some.inj looped
    have taken := countOf_taken present
    have added : ∀ other, countOf other (process.answers ++ [(number, response)]) =
        countOf other process.answers + if number = other then 1 else 0 := countOf_added
    refine kept.moved rfl (fun _ member => member)
      (fun entry left => kept.closures entry (List.mem_of_mem_eraseIdx left)) ?_ ?_ ?_
    · intro other
      have one := taken other
      have two := added other
      simp only [Process.places, Process.answered]
      omega
    · intro other _ _ _
      have one := taken other
      have two := added other
      simp only [Process.places, Process.answered]
      omega
    · intro other _ _ _
      have one := taken other
      have two := added other
      simp only [Process.answered]
      omega

/-- A new arrival leaves the numbers of the old ones alone. -/
theorem old_arrival {arrivals : List Arrival} {arrival found : Arrival} {number : Nat}
    (present : (arrivals ++ [arrival])[number]? = some found) (old : number ≠ arrivals.length) :
    arrivals[number]? = some found := by
  have below := (List.getElem?_eq_some_iff.mp present).1
  rw [List.length_append, List.length_singleton] at below
  rwa [List.getElem?_append_left (by omega)] at present

/-- A new request has a new number, with nothing recorded for it before. What is left to say
is where it went: into the tasks, or straight to an answer, once if it is served and never if
it is not. -/
theorem Kept.arrived {process next : Process} {arrival : Arrival} (kept : Kept P W process)
    (grown : next.arrivals = process.arrivals ++ [arrival])
    (tasks : ∀ entry ∈ next.tasks, entry ∈ process.tasks ∨
      entry.1 = process.arrivals.length ∧ handle W arrival = .submitted entry.2)
    (closures : next.closures = process.closures)
    (others : ∀ number, number ≠ process.arrivals.length →
      next.places number = process.places number ∧
        next.answered number = process.answered number)
    (served : Served P W arrival → next.places process.arrivals.length = 1)
    (unserved : ¬Served P W arrival → next.answered process.arrivals.length = 0) :
    Kept P W next where
  tasks := by
    intro entry member
    rw [grown]
    rcases tasks entry member with old | ⟨new, submitted⟩
    · obtain ⟨found, present, submitted⟩ := kept.tasks entry old
      have below := (List.getElem?_eq_some_iff.mp present).1
      exact ⟨found, by rw [List.getElem?_append_left below, present], submitted⟩
    · exact ⟨arrival, by simp [new], submitted⟩
  closures := by
    rw [closures]
    exact kept.closures
  numbers := by
    intro number above
    rw [grown, List.length_append, List.length_singleton] at above
    rw [(others number (by omega)).1]
    exact kept.numbers number (by omega)
  served := by
    intro number found present serves
    rw [grown] at present
    by_cases new : number = process.arrivals.length
    · subst new
      obtain rfl : arrival = found := by simpa using present
      exact served serves
    · rw [(others number new).1]
      exact kept.served number found (old_arrival present new) serves
  unserved := by
    intro number found present unserves
    rw [grown] at present
    rw [closures]
    by_cases new : number = process.arrivals.length
    · subst new
      obtain rfl : arrival = found := by simpa using present
      have unused := kept.numbers process.arrivals.length (le_refl _)
      have none := unserved unserves
      unfold Process.places at unused
      omega
    · rw [(others number new).2]
      exact kept.unserved number found (old_arrival present new) unserves

/-- An arrival brings its callback under a new number, answered at once, in the pool, or
lost. -/
theorem arrive_kept {process : Process} (kept : Kept P W process) (arrival : Arrival) :
    Kept P W (process.arrive W arrival) := by
  have unused := kept.numbers process.arrivals.length (le_refl _)
  simp only [Process.places, Process.answered] at unused
  unfold Process.arrive
  split
  · rename_i response handled
    have added : ∀ other, countOf other (process.answers ++ [(process.arrivals.length, response)]) =
        countOf other process.answers + if process.arrivals.length = other then 1 else 0 :=
      countOf_added
    refine kept.arrived rfl (fun entry member => .inl member) rfl ?_ ?_ ?_
    · intro number old
      simp [Process.places, Process.answered, added, Ne.symm old]
    · intro _
      have one := added process.arrivals.length
      rw [if_pos rfl] at one
      simp only [Process.places, Process.answered]
      omega
    · intro unserves
      simp [Served, handled] at unserves
  · rename_i fault handled
    refine kept.arrived rfl (fun entry member => .inl member) rfl ?_ ?_ ?_
    · exact fun number _ => ⟨rfl, rfl⟩
    · intro serves
      simp [Served, handled] at serves
    · intro _
      simp only [Process.answered]
      omega
  · rename_i task handled
    have added : ∀ other, countOf other (process.tasks ++ [(process.arrivals.length, task)]) =
        countOf other process.tasks + if process.arrivals.length = other then 1 else 0 :=
      countOf_added
    refine kept.arrived rfl ?_ rfl ?_ ?_ ?_
    · intro entry member
      rcases List.mem_append.mp member with old | new
      · exact .inl old
      · rw [List.mem_singleton.mp new]
        exact .inr ⟨rfl, handled⟩
    · intro number old
      simp [Process.places, Process.answered, added, Ne.symm old]
    · intro _
      have one := added process.arrivals.length
      rw [if_pos rfl] at one
      simp only [Process.places, Process.answered]
      omega
    · intro _
      simp only [Process.answered]
      omega

/-- Every step of a worker or of the event loop takes a callback from one place to the
next. -/
theorem step_kept {process next : Process} {event : Event} (kept : Kept P W process)
    (taken : step P W process event = some next) : Kept P W next := by
  cases event with
  | request endpoint request bill replies =>
    obtain rfl := Option.some.inj taken
    exact arrive_kept kept _
  | stop =>
    obtain rfl := Option.some.inj taken
    exact ⟨kept.tasks, kept.closures, kept.numbers, kept.served, kept.unserved⟩
  | work index => exact work_kept kept taken
  | loop index => exact loop_kept kept taken

/-- The process as its requests, workers and event loop may leave it. -/
abbrev ProcessReached (P : Platform) (W : WebPlatform) : Process → Prop :=
  Transitions.Reached (step P W) (fun _ _ => True) .initial

/-- In every run each callback is in one place: with a task, with the event loop, invoked
once, or lost. By induction on the run. -/
theorem reached_kept {process : Process} (reached : ProcessReached P W process) :
    Kept P W process := by
  refine Transitions.Reached.invariant initial_kept ?_ reached
  exact fun _ _ _ kept _ taken => step_kept kept taken

/-- What workers and the event loop do, without new requests. -/
def finishing (_ : Process) : Event → Prop
  | .work _ => True
  | .loop _ => True
  | _ => False

/-- A task counts twice, as its closure is still to come. -/
def Process.left (process : Process) : Nat := 2 * process.tasks.length + process.closures.length

/-- A worker's step brings the process closer to its end. -/
theorem work_decreases {process : Process} (busy : process.tasks ≠ []) :
    ∃ next, process.work P 0 = some next ∧ next.left < process.left ∧
      next.arrivals = process.arrivals := by
  obtain ⟨⟨number, task⟩, rest, tasks⟩ := List.exists_cons_of_ne_nil busy
  simp only [Process.work, tasks, List.getElem?_cons_zero]
  split
  · refine ⟨_, rfl, ?_, rfl⟩
    simp [Process.left, tasks]
  · refine ⟨_, rfl, ?_, rfl⟩
    simp only [Process.left, tasks, List.eraseIdx_cons_zero, List.length_append,
      List.length_cons, List.length_nil]
    omega

/-- And so does the event loop's. -/
theorem loop_decreases {process : Process} (busy : process.closures ≠ []) :
    ∃ next, process.loop 0 = some next ∧ next.left < process.left ∧
      next.arrivals = process.arrivals := by
  obtain ⟨⟨number, response, callback⟩, rest, closures⟩ := List.exists_cons_of_ne_nil busy
  simp only [Process.loop, closures, List.getElem?_cons_zero]
  split
  · refine ⟨_, rfl, ?_, rfl⟩
    simp [Process.left, closures]
  · refine ⟨_, rfl, ?_, rfl⟩
    simp [Process.left, closures]

/-- Workers and the event loop come to an end. -/
theorem finishes (process : Process) : ∃ last,
    Transitions.Reached (step P W) finishing process last ∧ last.tasks = [] ∧
      last.closures = [] ∧ last.arrivals = process.arrivals := by
  induction measure : process.left using Nat.strongRecOn generalizing process with
  | ind left inductionHypothesis =>
    by_cases tasks : process.tasks = []
    · by_cases closures : process.closures = []
      · exact ⟨process, .initial, tasks, closures, rfl⟩
      · obtain ⟨next, looped, smaller, same⟩ := loop_decreases closures
        obtain ⟨last, reached, done⟩ := inductionHypothesis next.left (measure ▸ smaller) next rfl
        exact ⟨last, .trans (.step (.loop 0) .initial trivial looped) reached, same ▸ done⟩
    · obtain ⟨next, worked, smaller, same⟩ := work_decreases (P := P) tasks
      obtain ⟨last, reached, done⟩ := inductionHypothesis next.left (measure ▸ smaller) next rfl
      exact ⟨last, .trans (.step (.work 0) .initial trivial worked) reached, same ▸ done⟩

/-- Where nothing is left to do, the callback was invoked once or never. -/
theorem Kept.settled {process : Process} {number : Nat} {arrival : Arrival}
    (kept : Kept P W process) (arrived : process.arrivals[number]? = some arrival)
    (settled : process.Settled number) : process.answered number = 1 ↔ Served P W arrival := by
  obtain ⟨tasks, closures⟩ := settled
  constructor
  · intro once
    by_contra unserved
    have none := kept.unserved number arrival arrived unserved
    omega
  · intro served
    have one := kept.served number arrival arrived served
    unfold Process.places at one
    omega

/-- The callback of a request that passed the checks is never invoked twice. When its
work is done it was invoked once exactly if the request is answerable, and the work can
always be finished. -/
theorem reached_answered {process : Process} {number : Nat} {arrival : Arrival}
    (reached : ProcessReached P W process) (arrived : process.arrivals[number]? = some arrival)
    (passed : check W arrival.request arrival.endpoint = .ok true) :
    process.answered number ≤ 1 ∧
      (process.Settled number → (process.answered number = 1 ↔ Answerable W arrival)) ∧
      ∃ last, Transitions.Reached (step P W) finishing process last ∧ last.Settled number ∧
        (last.answered number = 1 ↔ Answerable W arrival) := by
  have kept := reached_kept reached
  refine ⟨?_, ?_, ?_⟩
  · by_cases served : Served P W arrival
    · have one := kept.served number arrival arrived served
      unfold Process.places at one
      omega
    · have none := kept.unserved number arrival arrived served
      omega
  · intro settled
    exact (kept.settled arrived settled).trans (served_iff passed)
  · obtain ⟨last, finished, tasks, closures, same⟩ := finishes (P := P) (W := W) process
    have ended : ProcessReached P W last := reached.trans (finished.mono fun _ _ _ => trivial)
    have settled : last.Settled number := by simp [Process.Settled, tasks, closures, countOf]
    have later := (reached_kept ended).settled (same ▸ arrived) settled
    exact ⟨last, finished, settled, later.trans (served_iff passed)⟩

end Runs

end Controllers

namespace Shop

open Controllers

/-- A platform to try the handlers on. -/
def web : WebPlatform where
  sha256Hex _ := ""
  realToInt64 _ := none

/-- The database is not reachable. -/
def down (_ : Nat) : Replies := ⟨⟨none, 0⟩, .error .db, fun _ => .error .db, .error .db⟩

/-- A request for the differences of a batch, while the database is down. -/
def listing : Arrival := ⟨.listDiffs, ⟨"R1", none, "", "7001", 0⟩, none, down, false⟩

/-- A request to handle a difference. -/
def handling : Arrival :=
  ⟨.handleDiff, ⟨"R2", some (.obj [("action", .str "verify")]), "\x7b\"action\":\"verify\"\x7d", "", 1⟩,
    none, down, false⟩

/-- The event of a request. -/
def requestOf (arrival : Arrival) : Event :=
  .request arrival.endpoint arrival.request arrival.bill arrival.replies

/-- Execute a schedule of the process. -/
def process (events : List Event) : Option Process :=
  Transitions.runWhere (step platform web) (fun _ _ => true) .initial events

/-- What the process computes is reached. -/
theorem process_reached {events : List Event} {last : Process} (ran : process events = some last) :
    ProcessReached platform web last :=
  Transitions.Reached.of_runWhere (fun _ _ _ => trivial) .initial ran

end Shop

open Controllers Shop

/-- A listing is answered although the database is not reachable: what the driver throws is
caught. -/
theorem listing_answered : ∃ last, process [requestOf listing, .work 0, .loop 0] = some last ∧
    last.answered 0 = 1 := by
  have reached := @process_reached [requestOf listing, .work 0, .loop 0] _ rfl
  have answer := @reached_answered platform web _ 0 listing reached rfl rfl
  exact ⟨_, rfl, (answer.2.1 ⟨rfl, rfl⟩).mpr ⟨rfl, nofun⟩⟩

/-- When the lookup of a difference throws, before the `try` block, the request for it is
never answered. -/
theorem handling_unanswered : ∃ last, ProcessReached platform web last ∧
    last.arrivals[0]? = some handling ∧
    check web handling.request handling.endpoint = .ok true ∧ last.tasks = [] ∧
    last.closures = [] ∧ last.answered 0 = 0 :=
  ⟨_, @process_reached [requestOf handling, .work 0] _ rfl, rfl, rfl, rfl, rfl, rfl⟩

end TradeReconcile
