import Reconciler.Pod
import Reconciler.Proofs.Observed
import Reconciler.Proofs.Turn
import Reconciler.Proofs.Table

/-!
# The counters of a controller balance

A controller counts its reconciliations, failures, retries and drops by operation, and the
errors that it reports.  What really happened is taken down by an observer: how the handler
ended, and what of the watch could not be used.  This file compares the two.

Between the end of a handler and the last entry about its item the books are behind.  An
item in this position owes an entry, first that of its outcome, and after a failure that
may pass also that of the decision about it.  With what is owed added, the counters
balance after every step.  When nobody is busy with an item, nothing is owed.
-/

namespace Reconciler

variable {α ω : Type}

/-- What really happened in a step. -/
inductive Incident
  /-- The handler ended for an item with this operation. -/
  | ended (operation : Operation) (outcome : Outcome)
  /-- A notification was about an object without a name. -/
  | rejected (failure : Failure)
  | watchFailed (failure : WatchFailure)
deriving DecidableEq, Repr

/-- The class of the failure of an outcome, if it is one. -/
def Outcome.severity? (outcome : Outcome) : Option Severity :=
  (System.failureOf outcome).map Failure.severity

def Outcome.isPanic : Outcome → Bool
  | .panicked _ => true
  | _ => false

namespace Incident

/-- Whether a handler ended in a certain way. -/
@[simp]
def isEnding (test : Operation → Outcome → Bool) : Incident → Bool
  | .ended operation outcome => test operation outcome
  | _ => false

@[simp]
def isRejection : Incident → Bool
  | .rejected _ => true
  | _ => false

@[simp]
def isWatchFailure : Incident → Bool
  | .watchFailed _ => true
  | _ => false

end Incident

/-- The number of reconciliations with an operation and this class of failure. -/
def endings (log : List Incident) (operation : Operation) (severity? : Option Severity) : Nat :=
  log.countP (Incident.isEnding fun other outcome =>
    other == operation && outcome.severity? == severity?)

/-! ## Debts -/

/-- What the books still lack about an item. -/
inductive Due
  | entry (operation : Operation) (outcome : Outcome)
  | decision (operation : Operation)

namespace Due

@[simp]
def isEntry (test : Operation → Outcome → Bool) : Due → Bool
  | .entry operation outcome => test operation outcome
  | .decision _ => false

@[simp]
def isDecision (operation : Operation) : Due → Bool
  | .entry .. => false
  | .decision other => other == operation

end Due

/-- What an item in a stage owes. -/
def Stage.owes? (work : Work α) : Stage α ω → Option Due
  | .concluded outcome => some (.entry work.operation outcome)
  | .yielding _ | .weighing _ | .delaying .. | .noting .. => some (.decision work.operation)
  | _ => none

def Point.owes? : Point α ω → Option Due
  | .holding work stage => stage.owes? work
  | _ => none

/-- The incident that brings a caller to a point. -/
def Point.incidents : Point α ω → List Incident
  | .holding work (.concluded outcome) => [.ended work.operation outcome]
  | _ => []

namespace System

/-- The number of callers whose items owe something. -/
def owing (test : Due → Bool) (callers : Table Nat (Caller α ω)) : Nat :=
  callers.values.countP fun caller => caller.point.owes?.any test

/-- What really happens in a step. -/
def incidents [Resource α] (_before : System α ω) (action : Action α ω) (after : System α ω) :
    List Incident :=
  match action with
  | .receive _ event =>
      match event.object?.map identify with
      | some (.error failure) => [.rejected failure]
      | _ => []
  | .receiveFailure failure => [.watchFailed failure]
  | .advance id => ((after.callers.find? id).map fun caller => caller.point.incidents).getD []
  | _ => []

end System

/-! ## Entries -/

def Outcome.fails (outcome : Outcome) : Bool :=
  outcome.severity? == some .malformed || outcome.severity? == some .transient

def Outcome.isReported (outcome : Outcome) : Bool :=
  outcome.isPanic || outcome.severity? == some .malformed

/-- The counters that are incremented for an outcome. -/
def Outcome.charges (operation : Operation) (outcome : Outcome) : List Counter :=
  .reconciled operation ::
    ((if outcome.fails then [.failed operation] else []) ++
      if outcome.isReported then [.reported] else [])

/-- What an outcome leaves to be entered. -/
def Outcome.leaves? (operation : Operation) (outcome : Outcome) : Option Due :=
  if outcome.severity? = some .transient then some (.decision operation) else none

theorem Outcome.charges_panicked (operation : Operation) (payload : Payload) :
    (Outcome.panicked payload).charges operation =
      [.reconciled operation, .failed operation, .reported] :=
  rfl

theorem Outcome.charges_failed (operation : Operation) {failure : Failure} {severity : Severity}
    (classed : failure.severity = severity) :
    (Outcome.failed failure).charges operation =
      match severity with
      | .transient => [.reconciled operation, .failed operation]
      | .notFound => [.reconciled operation]
      | .malformed => [.reconciled operation, .failed operation, .reported] := by
  cases severity <;>
    simp [charges, fails, isReported, isPanic, severity?, System.failureOf, classed]

section

variable (operation other : Operation) (outcome : Outcome)

theorem Outcome.count_reconciled_charges :
    (outcome.charges operation).count (.reconciled other) = if operation = other then 1 else 0 := by
  unfold charges
  cases outcome.fails <;> cases outcome.isReported <;> simp [List.count_cons]

theorem Outcome.count_failed_charges :
    (outcome.charges operation).count (.failed other) =
      if operation = other ∧ outcome.fails = true then 1 else 0 := by
  unfold charges
  cases outcome.fails <;> cases outcome.isReported <;> simp [List.count_cons]

theorem Outcome.count_reported_charges :
    (outcome.charges operation).count .reported = if outcome.isReported = true then 1 else 0 := by
  unfold charges
  cases outcome.fails <;> cases outcome.isReported <;> simp

theorem Outcome.count_requeued_charges :
    (outcome.charges operation).count (.requeued other) = 0 := by
  unfold charges
  cases outcome.fails <;> cases outcome.isReported <;> simp

theorem Outcome.count_dropped_charges :
    (outcome.charges operation).count (.dropped other) = 0 := by
  unfold charges
  cases outcome.fails <;> cases outcome.isReported <;> simp

theorem Outcome.countP_isEntry_leaves? (test : Operation → Outcome → Bool) :
    (outcome.leaves? operation).toList.countP (Due.isEntry test) = 0 := by
  unfold leaves?
  split <;> simp

theorem Outcome.countP_isDecision_leaves? :
    (outcome.leaves? operation).toList.countP (Due.isDecision other) =
      if operation = other ∧ outcome.severity? = some .transient then 1 else 0 := by
  unfold leaves?
  split <;> simp [List.countP_cons, *]

end

/-- What a step enters in the books: the incidents in it, the counters it increments, and
what is owed before and after it. -/
inductive Posting : List Incident → List Counter → Option Due → Option Due → Prop
  | still (due? : Option Due) : Posting [] [] due? due?
  | ended (operation : Operation) (outcome : Outcome) :
      Posting [.ended operation outcome] [] none (some (.entry operation outcome))
  | entered (operation : Operation) (outcome : Outcome) :
      Posting [] (outcome.charges operation) (some (.entry operation outcome))
        (outcome.leaves? operation)
  | requeued (operation : Operation) :
      Posting [] [.requeued operation] (some (.decision operation)) none
  | dropped (operation : Operation) :
      Posting [] [.dropped operation, .reported] (some (.decision operation)) none
  | rejected (failure : Failure) : Posting [.rejected failure] [.reported] none none
  | watchFailed (failure : WatchFailure) : Posting [.watchFailed failure] [.reported] none none

/-- The balance of the books over some time: what happened in it, how often the counters
were incremented, what was owed before it and what is owed after it. -/
structure Balances (log : List Incident) (count : Counter → Nat)
    (paid owing : (Due → Bool) → Nat) : Prop where
  reconciled (operation : Operation) :
    count (.reconciled operation) + owing (Due.isEntry fun other _ => other == operation) =
      log.countP (Incident.isEnding fun other _ => other == operation) +
        paid (Due.isEntry fun other _ => other == operation)
  failed (operation : Operation) :
    count (.failed operation) +
        owing (Due.isEntry fun other outcome => other == operation && outcome.fails) =
      log.countP (Incident.isEnding fun other outcome => other == operation && outcome.fails) +
        paid (Due.isEntry fun other outcome => other == operation && outcome.fails)
  decided (operation : Operation) :
    count (.requeued operation) + count (.dropped operation) +
        (owing (Due.isEntry fun other outcome =>
          other == operation && outcome.severity? == some .transient) +
        owing (Due.isDecision operation)) =
      endings log operation (some .transient) +
        (paid (Due.isEntry fun other outcome =>
          other == operation && outcome.severity? == some .transient) +
        paid (Due.isDecision operation))
  reported :
    count .reported + owing (Due.isEntry fun _ outcome => outcome.isReported) =
      log.countP (Incident.isEnding fun _ outcome => outcome.isReported) +
        (count (.dropped .add) + count (.dropped .update) + count (.dropped .delete)) +
        (log.countP Incident.isRejection + log.countP Incident.isWatchFailure) +
        paid (Due.isEntry fun _ outcome => outcome.isReported)

section

variable {log incidents : List Incident} {charges : List Counter} {paid incurred : Option Due}

theorem Posting.balances (posting : Posting incidents charges paid incurred) :
    Balances incidents charges.count paid.toList.countP incurred.toList.countP := by
  cases posting with
  | still due? => constructor <;> simp [endings]
  | ended operation outcome =>
      constructor
      · simp [List.countP_cons]
      · simp [List.countP_cons]
      · simp [endings, List.countP_cons]
      · cases reported : outcome.isReported <;> simp [reported]
  | entered operation outcome =>
      constructor
      · intro other
        simp [Outcome.count_reconciled_charges, Outcome.countP_isEntry_leaves?, List.countP_cons]
      · intro other
        simp [Outcome.count_failed_charges, Outcome.countP_isEntry_leaves?, List.countP_cons]
      · intro other
        simp [Outcome.count_requeued_charges, Outcome.count_dropped_charges,
          Outcome.countP_isEntry_leaves?, Outcome.countP_isDecision_leaves?, endings,
          List.countP_cons]
      · rw [Outcome.count_reported_charges]
        cases reported : outcome.isReported <;>
          simp [Outcome.count_dropped_charges, Outcome.countP_isEntry_leaves?, reported]
  | requeued operation => constructor <;> simp [endings, List.countP_cons, List.count_cons]
  | dropped operation =>
      constructor
      · simp
      · simp
      · simp [endings, List.countP_cons, List.count_cons]
      · cases operation <;> simp
  | rejected failure | watchFailed failure => constructor <;> simp [endings, List.countP_cons]

theorem Balances.post {count newer : Counter → Nat} {start owing owed : (Due → Bool) → Nat}
    (balanced : Balances log count start owing)
    (posting : Posting incidents charges paid incurred)
    (counts : ∀ counter, newer counter = count counter + charges.count counter)
    (owes : ∀ test,
      owed test + paid.toList.countP test = owing test + incurred.toList.countP test) :
    Balances (incidents ++ log) newer start owed := by
  have balances := posting.balances
  constructor
  · intro operation
    have before := balanced.reconciled operation
    have step := balances.reconciled operation
    have moved := owes (Due.isEntry fun other _ => other == operation)
    rw [counts, List.countP_append]
    omega
  · intro operation
    have before := balanced.failed operation
    have step := balances.failed operation
    have moved := owes (Due.isEntry fun other outcome => other == operation && outcome.fails)
    rw [counts, List.countP_append]
    omega
  · intro operation
    have before := balanced.decided operation
    have step := balances.decided operation
    have moved := owes (Due.isEntry fun other outcome =>
      other == operation && outcome.severity? == some .transient)
    have settled := owes (Due.isDecision operation)
    rw [endings] at before step
    rw [counts, counts, endings, List.countP_append]
    omega
  · have before := balanced.reported
    have step := balances.reported
    have moved := owes (Due.isEntry fun _ outcome => outcome.isReported)
    rw [counts, counts, counts, counts, List.countP_append, List.countP_append, List.countP_append]
    omega

end

/-! ## Steps -/

@[simp]
theorem Journal.meter_write (journal : Journal) (level : Level) (text : String) :
    (journal.write level text).meter = journal.meter :=
  rfl

@[simp]
theorem Journal.count_count (journal : Journal) (counter other : Counter) :
    (journal.count counter).meter.count other =
      journal.meter.count other + [counter].count other := by
  rw [Journal.count, Meter.count_increment, List.count_singleton]
  by_cases same : counter = other <;> simp [same]

@[simp]
theorem Journal.count_report (journal : Journal) (context : String) (failure : Failure)
    (other : Counter) : (journal.report context failure).meter.count other =
      journal.meter.count other + [Counter.reported].count other := by
  rw [Journal.report, count_count, meter_write]

namespace System

variable {plan : Plan α ω} {id : Nat} {caller next : Caller α ω}
  {callers : Table Nat (Caller α ω)} {before after : System α ω}

theorem owing_insert (found : callers.find? id = some caller) (next : Caller α ω)
    (test : Due → Bool) :
    owing test (callers.insert id next) + caller.point.owes?.toList.countP test =
      owing test callers + next.point.owes?.toList.countP test := by
  have counted := Table.countP_insert_of_some found next fun caller =>
    caller.point.owes?.any test
  have single (due? : Option Due) :
      due?.toList.countP test = if due?.any test = true then 1 else 0 := by
    cases due? <;> simp [List.countP_cons]
  rw [single, single]
  exact counted

theorem owing_enter (absent : callers.find? id = none) (clear : next.point.owes? = none)
    (test : Due → Bool) : owing test (callers.insert id next) = owing test callers := by
  have counted := Table.countP_insert_of_none absent next fun caller =>
    caller.point.owes?.any test
  simp only [clear, Option.any_none, Bool.false_eq_true, if_false] at counted
  exact counted

/-- A step makes a posting with its incidents. -/
def Posts (before after : System α ω) (incidents : List Incident) : Prop :=
  ∃ charges paid incurred, Posting incidents charges paid incurred ∧
    (∀ counter, after.journal.meter.count counter =
      before.journal.meter.count counter + charges.count counter) ∧
    ∀ test, owing test after.callers + paid.toList.countP test =
      owing test before.callers + incurred.toList.countP test

/-- A step that counts nothing and concerns no item leaves the books as they are. -/
theorem posts_still (meter : after.journal.meter = before.journal.meter)
    (owes : ∀ test, owing test after.callers = owing test before.callers) :
    Posts before after [] :=
  ⟨[], none, none, .still none, by simp [meter], by simp [owes]⟩

theorem posts_report {incidents : List Incident} (system : System α ω)
    (posting : Posting incidents [.reported] none none) (context : String) (failure : Failure) :
    Posts system (system.report context failure) incidents :=
  ⟨_, _, _, posting, system.journal.count_report context failure, fun _ => rfl⟩

theorem count_conclude (plan : Plan α ω) (system : System α ω) (id : Nat) (caller : Caller α ω)
    (work : Work α) (outcome : Outcome) (counter : Counter) :
    (system.conclude plan id caller work outcome).journal.meter.count counter =
      system.journal.meter.count counter + (outcome.charges work.operation).count counter := by
  cases outcome with
  | succeeded => simp [conclude, failureOf, write, putStage, put, Outcome.charges, Outcome.fails,
      Outcome.isReported, Outcome.isPanic, Outcome.severity?]
  | panicked payload =>
      simp only [conclude, failureOf, report, Failure.severity, putStage, put, Journal.count_count,
        Journal.count_report, Outcome.charges_panicked, List.count_cons, List.count_nil]
      omega
  | failed failure =>
      cases severity : failure.severity <;>
        simp only [conclude, failureOf, severity, report, write, putStage, put,
          Journal.count_count, Journal.count_report, Journal.meter_write,
          Outcome.charges_failed _ severity, List.count_cons, List.count_nil]
      all_goals omega

variable [Resource α]

/-- A step of a caller makes the posting that belongs to its move. -/
theorem posts_move (charges : List Counter) (found : before.callers.find? id = some caller)
    (moved : after.callers = before.callers.insert id next)
    (counts : ∀ counter, after.journal.meter.count counter =
      before.journal.meter.count counter + charges.count counter)
    (posting : Posting next.point.incidents charges caller.point.owes? next.point.owes?) :
    Posts before after (incidents before (.advance id) after) := by
  have here : after.callers.find? id = some next := by
    rw [moved, Table.find?_insert, if_pos rfl]
  rw [incidents, here]
  refine ⟨charges, _, _, posting, counts, fun test => ?_⟩
  rw [moved]
  exact owing_insert found next test

/-- A caller that moves without owing anything else, and without an incident. -/
theorem posts_quiet (found : before.callers.find? id = some caller)
    (moved : after.callers = before.callers.insert id next)
    (meter : after.journal.meter = before.journal.meter) (silent : next.point.incidents = [])
    (same : next.point.owes? = caller.point.owes?) :
    Posts before after (incidents before (.advance id) after) := by
  refine posts_move [] found moved (fun counter => by rw [meter]; rfl) ?_
  rw [silent, same]
  exact .still _

theorem posts_stepCall {work : Work α} {stage : Stage α ω} {going : Call ω → Stage α ω}
    {ended : Outcome → Stage α ω} (call : Call ω)
    (found : before.callers.find? id = some caller) (holds : caller.point = .holding work stage)
    (clear : stage.owes? work = none) (goes : ∀ call, (going call).owes? work = none)
    (ends : ∀ outcome, Posting (Point.holding work (ended outcome)).incidents [] none
      ((ended outcome).owes? work)) :
    Posts before (before.stepCall id caller work going ended call)
      (incidents before (.advance id) (before.stepCall id caller work going ended call)) := by
  have owes : caller.point.owes? = none := by rw [holds]; exact clear
  have silent (call : Call ω) : (Point.holding work (going call)).incidents = [] := by
    have debt := goes call
    cases stands : going call <;> first | rfl | simp [stands, Stage.owes?] at debt
  cases call with
  | finish outcome =>
      refine posts_move [] found rfl (fun counter => rfl) ?_
      rw [owes]
      exact ends outcome
  | pause millis next => exact posts_quiet found rfl rfl (silent next) ((goes next).trans owes.symm)
  | say line next => exact posts_quiet found rfl rfl (silent next) ((goes next).trans owes.symm)
  | act effect next =>
      exact posts_quiet found rfl rfl (silent _) ((goes _).trans owes.symm)

omit [Resource α] in
theorem posting_opening (plan : Plan α ω) (work : Work α) (current : Option α) :
    (Point.holding work (.opening plan work current)).incidents = [] ∧
      (Stage.opening plan work current).owes? work = none := by
  unfold Stage.opening
  split <;> exact ⟨rfl, rfl⟩

omit [Resource α] in
/-- What an outcome leaves to be entered is owed by its item from then on. -/
theorem posting_settling (work : Work α) (outcome : Outcome) :
    (Point.holding work (.settling outcome : Stage α ω)).incidents = [] ∧
      (Stage.settling outcome : Stage α ω).owes? work = outcome.leaves? work.operation := by
  unfold Stage.settling Outcome.leaves? Outcome.severity?
  cases failureOf outcome with
  | none => exact ⟨rfl, rfl⟩
  | some failure =>
      cases severity : failure.severity <;> simp [severity, Point.incidents, Stage.owes?]

omit [Resource α] in
theorem posting_rest (caller : Caller α ω) (work : Work α) :
    (caller.rest work).incidents = [] ∧ (caller.rest work).owes? = none := by
  unfold Caller.rest
  split <;> exact ⟨rfl, rfl⟩

omit [Resource α] in
theorem schedule_books (system : System α ω) (work : Work α) (delay : Duration) :
    (system.schedule work delay).callers = system.callers ∧
      (system.schedule work delay).journal = system.journal := by
  unfold schedule
  split
  · exact ⟨rfl, rfl⟩
  · split <;> exact ⟨rfl, rfl⟩

theorem posts_decide {work : Work α} {failure : Failure}
    (found : before.callers.find? id = some caller)
    (holds : caller.point = .holding work (.weighing failure)) :
    Posts before (before.decide plan id caller work failure)
      (incidents before (.advance id) (before.decide plan id caller work failure)) := by
  have owes : caller.point.owes? = some (.decision work.operation) := by rw [holds]; rfl
  obtain ⟨⟨verdict, limiter⟩, weighed⟩ : ∃ result,
      before.limiter.fail plan.backoff work.key = result := ⟨_, rfl⟩
  cases verdict with
  | retry delay =>
      rw [decide_of_retry failure id caller weighed]
      exact posts_quiet found rfl rfl rfl owes.symm
  | drop attempts =>
      obtain ⟨journal, decided⟩ := exists_decide_of_drop failure id caller weighed
      obtain ⟨silent, settled⟩ := posting_rest caller work
      refine posts_move [.dropped work.operation, .reported] found
        (congrArg System.callers decided) ?_ ?_
      · intro counter
        simp only [decide, weigh, weighed, finishRound_eq, put, report, Journal.count_report,
          Journal.count_count, List.count_cons, List.count_nil]
        omega
      · rw [owes]
        change Posting (caller.rest work).incidents _ _ (caller.rest work).owes?
        rw [silent, settled]
        exact .dropped _

theorem posts_note {work : Work α} {failure : Failure} {delay : Duration}
    (found : before.callers.find? id = some caller)
    (holds : caller.point = .holding work (.noting failure delay)) :
    Posts before (before.note plan id caller work failure delay)
      (incidents before (.advance id) (before.note plan id caller work failure delay)) := by
  have owes : caller.point.owes? = some (.decision work.operation) := by rw [holds]; rfl
  obtain ⟨silent, settled⟩ := posting_rest caller work
  unfold note
  rw [finishRound_eq]
  refine posts_move [.requeued work.operation] found rfl ?_ ?_
  · intro counter
    simp [put, write]
  · rw [owes]
    change Posting (caller.rest work).incidents _ _ (caller.rest work).owes?
    rw [silent, settled]
    exact .requeued _

theorem posts_advanceStage {work : Work α} {stage : Stage α ω}
    (found : before.callers.find? id = some caller) (holds : caller.point = .holding work stage) :
    Posts before (before.advanceStage plan id caller work stage)
      (incidents before (.advance id) (before.advanceStage plan id caller work stage)) := by
  have owes : caller.point.owes? = stage.owes? work := by rw [holds]; rfl
  cases stage with
  | handed => exact posts_quiet found rfl rfl rfl owes.symm
  | looked current =>
      obtain ⟨silent, clear⟩ := posting_opening plan work current
      rw [advanceStage_looked]
      exact posts_quiet found rfl rfl silent (clear.trans owes.symm)
  | adopting current call =>
      refine posts_stepCall call found holds rfl (fun _ => rfl) ?_
      intro outcome
      cases outcome with
      | succeeded => exact .still none
      | failed | panicked => exact .ended _ _
  | adopted current => exact posts_quiet found rfl rfl rfl owes.symm
  | syncing call => exact posts_stepCall call found holds rfl (fun _ => rfl) fun _ => .ended _ _
  | concluded outcome =>
      obtain ⟨journal, concludes⟩ := exists_conclude_eq plan before id caller work outcome
      refine posts_move _ found (congrArg System.callers concludes)
        (count_conclude plan before id caller work outcome) ?_
      obtain ⟨silent, leaves⟩ := posting_settling (ω := ω) work outcome
      rw [owes]
      change Posting (Point.holding work (.settling outcome : Stage α ω)).incidents _ _
        ((Stage.settling outcome : Stage α ω).owes? work)
      rw [silent, leaves]
      exact .entered _ _
  | forgetting => exact posts_quiet found rfl rfl rfl owes.symm
  | releasing =>
      obtain ⟨silent, settled⟩ := posting_rest caller work
      simp only [advanceStage, finishRound_eq]
      exact posts_quiet found rfl rfl silent (settled.trans owes.symm)
  | yielding failure => exact posts_quiet found rfl rfl rfl owes.symm
  | weighing failure => exact posts_decide found holds
  | delaying failure delay =>
      obtain ⟨callers, journal⟩ := schedule_books before work delay
      have moved : ((before.schedule work delay).putStage id caller work
          (.noting failure delay)).callers = before.callers.insert id
            { caller with point := .holding work (.noting failure delay) } := by
        rw [← callers]
        rfl
      exact posts_quiet found moved (congrArg Journal.meter journal) rfl owes.symm
  | noting failure delay => exact posts_note found holds

theorem posts_look {held : Bool} (found : before.callers.find? id = some caller)
    (owes : caller.point.owes? = none) :
    Posts before (before.look plan id caller held)
      (incidents before (.advance id) (before.look plan id caller held)) := by
  unfold look
  split
  · cases caller.role <;> exact posts_quiet found rfl rfl rfl owes.symm
  · split
    · cases held <;> exact posts_quiet found rfl rfl rfl owes.symm
    · cases caller.role <;> exact posts_quiet found rfl rfl rfl owes.symm

theorem posts_advance (advanced : before.advance plan id = some after) :
    Posts before after (incidents before (.advance id) after) := by
  unfold advance at advanced
  cases found : before.callers.find? id with
  | none => simp [found] at advanced
  | some caller =>
      simp only [found] at advanced
      split at advanced
      · cases advanced
      cases point : caller.point with
      | arriving | returning =>
          have owes : caller.point.owes? = none := by rw [point]; rfl
          simp only [point, Option.some.injEq] at advanced
          subst advanced
          exact posts_quiet found rfl rfl rfl owes.symm
      | checking held =>
          have owes : caller.point.owes? = none := by rw [point]; rfl
          simp only [point, Option.some.injEq] at advanced
          subst advanced
          exact posts_look found owes
      | asleep =>
          have owes : caller.point.owes? = none := by rw [point]; rfl
          simp only [point] at advanced
          split at advanced
          · cases advanced
          · obtain rfl := Option.some.inj advanced
            exact posts_quiet found rfl rfl rfl owes.symm
      | holding work stage =>
          simp only [point, Option.some.injEq] at advanced
          subst advanced
          exact posts_advanceStage found point
      | left work => simp [point] at advanced

omit [Resource α] in
theorem posts_cancel (cancelled : before.cancel id = some after) : Posts before after [] := by
  unfold cancel at cancelled
  cases found : before.callers.find? id with
  | none => simp [found] at cancelled
  | some caller =>
      cases point : caller.point with
      | asleep =>
          simp only [found, point, Option.some.injEq] at cancelled
          subst cancelled
          refine posts_still rfl fun test => ?_
          have left := owing_insert found { caller with point := .left none } test
          rw [point] at left
          exact left
      | _ => simp [found, point] at cancelled

theorem posts_receive (plan : Plan α ω) (system : System α ω) (order : Enumeration α)
    (event : Event α) : Posts system (system.receive plan order event)
      (incidents system (.receive order event) (system.receive plan order event)) := by
  cases concerns : event.object? with
  | none =>
      simp only [incidents, receive, concerns, Option.map_none]
      exact posts_still rfl fun _ => rfl
  | some object =>
      simp only [incidents, receive, concerns, Option.map_some]
      cases identify object with
      | ok key => exact posts_still rfl fun _ => rfl
      | error failure => exact posts_report system (.rejected failure) _ failure

theorem posts_passOn (passed : before.passOn plan = some after) : Posts before after [] := by
  unfold passOn at passed
  split at passed
  · cases passed
  · split at passed <;>
    · obtain rfl := Option.some.inj passed
      exact posts_still rfl fun _ => rfl
  · obtain rfl := Option.some.inj passed
    exact posts_still rfl fun _ => rfl
  · obtain rfl := Option.some.inj passed
    exact posts_still rfl fun _ => rfl

theorem posts_of_act {action : Action α ω} (acted : before.act plan action = some after) :
    Posts before after (incidents before action after) := by
  cases action with
  | advance id => exact posts_advance acted
  | receive order event =>
      simp only [act] at acted
      split at acted
      · obtain rfl := Option.some.inj acted
        exact posts_receive plan before order event
      · cases acted
  | receiveFailure failure =>
      simp only [act] at acted
      split at acted
      · obtain rfl := Option.some.inj acted
        exact posts_report before (.watchFailed failure) _ _
      · cases acted
  | passOn => exact posts_passOn acted
  | enter id role =>
      obtain ⟨vacant, entered⟩ := Option.ite_none_left_eq_some.mp acted
      obtain rfl := Option.some.inj entered
      have absent : before.callers.find? id = none := by simpa [Table.contains] using vacant
      refine posts_still ?_ fun test => ?_
      · cases role <;> rfl
      · cases role <;> exact owing_enter absent rfl test
  | enterWith id work =>
      obtain ⟨vacant, entered⟩ := Option.ite_none_left_eq_some.mp acted
      obtain rfl := Option.some.inj entered
      have absent : before.callers.find? id = none := by simpa [Table.contains] using vacant
      exact posts_still rfl fun test => owing_enter absent rfl test
  | cancel id => exact posts_cancel acted
  | schedule work delay =>
      obtain ⟨callers, journal⟩ := schedule_books before work delay
      obtain rfl := Option.some.inj acted
      exact posts_still (congrArg Journal.meter journal) fun test => congrArg (owing test) callers
  | fire ticket =>
      simp only [act, fire] at acted
      split at acted
      · cases acted
      · obtain ⟨-, fired⟩ := Option.ite_none_right_eq_some.mp acted
        obtain rfl := Option.some.inj fired
        exact posts_still rfl fun _ => rfl
  | submit | release | forget | weigh | close | wakeAll | alter | elapse =>
      obtain rfl := Option.some.inj acted
      exact posts_still rfl fun _ => rfl

/-! ## Runs -/

/-- The books of a controller balance in every run, with what is owed added. -/
theorem balances_of_observed {allowed : Action α ω → Prop} {log : List Incident}
    {system : System α ω} (observed : Observed plan incidents allowed log system) :
    Balances log system.journal.meter.count (fun _ => 0) fun test => owing test system.callers := by
  induction observed with
  | start world => constructor <;> intros <;> rfl
  | step observed allowed acted ih =>
      obtain ⟨charges, paid, incurred, posting, counts, owes⟩ := posts_of_act acted
      exact ih.post posting counts owes

omit [Resource α] in
/-- Nothing is owed while nobody is busy with an item. -/
theorem owing_of_bare (bare : ∀ caller ∈ callers.values, caller.point.held? = none)
    (test : Due → Bool) : owing test callers = 0 := by
  rw [owing, List.countP_eq_zero]
  intro caller member
  have idle := bare caller member
  cases point : caller.point with
  | holding work stage => simp [point] at idle
  | _ => simp [Point.owes?]

end System

/-- Endings are counted class by class. -/
theorem countP_isEnding_split {test first second : Operation → Outcome → Bool}
    (splits : ∀ operation outcome, (if test operation outcome then 1 else 0) =
      (if first operation outcome then 1 else 0) + if second operation outcome then 1 else 0)
    (log : List Incident) :
    log.countP (Incident.isEnding test) =
      log.countP (Incident.isEnding first) + log.countP (Incident.isEnding second) := by
  induction log with
  | nil => rfl
  | cons incident log ih =>
      rw [List.countP_cons, List.countP_cons, List.countP_cons, ih]
      cases incident with
      | ended operation outcome =>
          have split := splits operation outcome
          change _ + _ + (if test operation outcome then 1 else 0) =
            _ + (if first operation outcome then 1 else 0) +
              (_ + if second operation outcome then 1 else 0)
          omega
      | rejected | watchFailed => simp

theorem countP_isEnding (log : List Incident) (operation : Operation) :
    log.countP (Incident.isEnding fun other _ => other == operation) =
      endings log operation none + endings log operation (some .notFound) +
        log.countP
          (Incident.isEnding fun other outcome => other == operation && outcome.fails) := by
  have settled : log.countP (Incident.isEnding fun other outcome =>
      other == operation && !outcome.fails) =
        endings log operation none + endings log operation (some .notFound) :=
    countP_isEnding_split (fun other outcome => by
      unfold Outcome.fails
      rcases outcome.severity? with _ | _ | _ | _ <;> cases other == operation <;> rfl) log
  rw [← settled]
  exact countP_isEnding_split (fun other outcome => by
    cases outcome.fails <;> cases other == operation <;> rfl) log

theorem countP_fails (log : List Incident) (operation : Operation) :
    log.countP (Incident.isEnding fun other outcome => other == operation && outcome.fails) =
      endings log operation (some .malformed) + endings log operation (some .transient) :=
  countP_isEnding_split (fun other outcome => by
    unfold Outcome.fails
    rcases outcome.severity? with _ | _ | _ | _ <;> cases other == operation <;> rfl) log

theorem countP_isReported (log : List Incident) :
    log.countP (Incident.isEnding fun _ outcome => outcome.isReported) =
      log.countP (Incident.isEnding fun _ outcome => outcome.isPanic) +
        log.countP (Incident.isEnding fun _ outcome => outcome.severity? == some .malformed) :=
  countP_isEnding_split (fun _ outcome => by
    unfold Outcome.isReported
    cases outcome with
    | succeeded | panicked => rfl
    | failed failure =>
        cases severity : (Outcome.failed failure).severity? == some .malformed <;> rfl) log

namespace System

variable [Resource α] {plan : Plan α ω}

/-- The books balance.  Whenever nobody is busy with an item, the reconciliations with an
operation are those that ended well, those whose object was gone, and the failures; the
failures are those without a usable key, those tried again and those dropped; and what
was reported are the panics, the failures without a usable key, the dropped items, the
refused notifications and the failures of the watch. -/
theorem counters_balance {log : List Incident} {system : System α ω}
    (observed : Observed plan incidents (fun _ => True) log system)
    (idle : ∀ caller ∈ system.callers.values, caller.point.held? = none) :
    let count := system.journal.meter.count
    (∀ operation,
      count (.reconciled operation) =
          endings log operation none + endings log operation (some .notFound) +
            count (.failed operation) ∧
        count (.failed operation) =
          endings log operation (some .malformed) + count (.requeued operation) +
            count (.dropped operation)) ∧
      count .reported =
        log.countP (Incident.isEnding fun _ outcome => outcome.isPanic) +
          log.countP (Incident.isEnding fun _ outcome => outcome.severity? == some .malformed) +
          (count (.dropped .add) + count (.dropped .update) + count (.dropped .delete)) +
          log.countP Incident.isRejection + log.countP Incident.isWatchFailure := by
  intro count
  have owes (test : Due → Bool) : owing test system.callers = 0 := owing_of_bare idle test
  have balances : Balances log count (fun _ => 0) _ := balances_of_observed observed
  obtain ⟨reconciled, failed, decided, reported⟩ := balances
  simp only [owes, Nat.add_zero] at reconciled failed decided reported
  refine ⟨fun operation => ⟨?_, ?_⟩, ?_⟩
  · calc count (.reconciled operation)
        = log.countP (Incident.isEnding fun other _ => other == operation) := reconciled operation
      _ = _ := countP_isEnding log operation
      _ = _ := by rw [failed operation]
  · calc count (.failed operation)
        = log.countP (Incident.isEnding fun other outcome =>
            other == operation && outcome.fails) := failed operation
      _ = endings log operation (some .malformed) + endings log operation (some .transient) :=
          countP_fails log operation
      _ = _ := by rw [← decided operation, Nat.add_assoc]
  · rw [reported, countP_isReported]
    omega

/-- The watch fails once, a notification is about a pod without a name, and the handler
panics over the one pod with a name until its item is dropped. -/
theorem counters_balance_panicking :
    let pod (name : Option String) : Pod := { metadata := { name, ns := some "ns" } }
    let plan : Plan Pod Unit :=
      { name := "pod"
        backoff := { base := Duration.ofMillis 0, retries := 1 }
        handler := { sync := fun _ _ _ _ => .finish (.panicked .unreadable) } }
    let actions : List (Action Pod Unit) :=
      [.enter 0 .worker, .receiveFailure .noResourceVersion, .receive {} (.applied (pod none)),
        .receive {} (.applied (pod (some "a"))), .passOn, .passOn] ++
        List.replicate 22 (.advance 0)
    ∃ log system, transcript plan incidents [] { world := () } actions = some (log, system) ∧
      Observed plan incidents (fun _ => True) log system ∧
      (∀ caller ∈ system.callers.values, caller.point.held? = none) ∧
      system.journal.meter.count (.reconciled .add) = 2 ∧
      system.journal.meter.count (.failed .add) = 2 ∧
      system.journal.meter.count .reported = 5 := by
  intro pod plan actions
  have shows : (transcript plan incidents [] { world := () } actions).map (fun result =>
      (result.2.callers.values.all (fun caller => caller.point.held?.isNone),
        [none, some .notFound, some .malformed].map (endings result.1 Operation.add),
        [result.1.countP (Incident.isEnding fun _ outcome => outcome.isPanic),
          result.1.countP (Incident.isEnding fun _ outcome => outcome.severity? == some .malformed),
          result.1.countP Incident.isRejection, result.1.countP Incident.isWatchFailure],
        [Counter.requeued .add, .dropped .add, .dropped .update, .dropped .delete].map
          result.2.journal.meter.count)) =
      some (true, [0, 0, 0], [2, 0, 1, 1], [1, 1, 0, 0]) := by
    decide
  obtain ⟨⟨log, system⟩, taken, shown⟩ := Option.map_eq_some_iff.mp shows
  simp only [Prod.mk.injEq, List.all_eq_true, Option.isNone_iff_eq_none, List.map_cons,
    List.map_nil, List.cons.injEq, and_true] at shown
  obtain ⟨idle, ⟨succeeded, gone, malformed⟩, ⟨panics, unusable, rejections, watchFailures⟩,
    requeued, dropped, droppedUpdate, droppedDelete⟩ := shown
  have observed := (Observed.start ()).transcript (fun _ _ => trivial) taken
  obtain ⟨balance, reported⟩ := counters_balance observed idle
  obtain ⟨reconciled, failed⟩ := balance .add
  rw [malformed, requeued, dropped] at failed
  rw [succeeded, gone, failed] at reconciled
  rw [panics, unusable, rejections, watchFailures, dropped, droppedUpdate, droppedDelete]
    at reported
  exact ⟨log, system, taken, observed, idle, reconciled, failed, reported⟩

end System

end Reconciler
