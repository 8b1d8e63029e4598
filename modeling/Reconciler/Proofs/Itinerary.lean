import Reconciler.Proofs.Docket
import Reconciler.Proofs.FailureStreaks
import Reconciler.Proofs.Settlement
import Reconciler.Proofs.Timetable

/-!
# The way of an item

Suppose that an item is added for a key of which there is no other item, and that no
notification of the key comes after it.  Other items may be added, attempted and retried
meanwhile, in any order.  If nobody keeps the item waiting, which is to say that a ready item
is taken at once, a call goes on as soon as it may, and a timer does not run late, then the
item keeps to its timetable.

The argument follows the item from place to place.  It is pending, in the hands of one caller,
or delayed, and each of these places, with the stage of the caller, says how far it has come.
Only two things take it to another place: a step of its caller, and its timer.
-/

namespace Reconciler

variable {α ω : Type}

/-! ## Keeping nobody waiting -/

namespace System

/-- Nothing of a key is late if the clock comes to a time before anything else happens. -/
structure Punctual (system : System α ω) (key : Key) (time : Nat) : Prop where
  /-- There is an idle worker to take a ready item at once. -/
  ready : key ∉ system.queue.ready
  delayed : ∀ item ∈ system.delayed.values, item.work.key = key → time ≤ item.due
  /-- Whoever has an item in its hands goes on with it, unless its call pauses. -/
  held : ∀ caller ∈ system.callers.values, caller.bears key = true → time ≤ caller.resumes

instance (system : System α ω) (key : Key) (time : Nat) : Decidable (system.Punctual key time) :=
  decidable_of_iff
    (key ∉ system.queue.ready ∧
      (∀ item ∈ system.delayed.values, item.work.key = key → time ≤ item.due) ∧
      ∀ caller ∈ system.callers.values, caller.bears key = true → time ≤ caller.resumes)
    ⟨fun ⟨ready, delayed, held⟩ => ⟨ready, delayed, held⟩,
      fun punctual => ⟨punctual.ready, punctual.delayed, punctual.held⟩⟩

variable [Resource α]

/-- An action that neither disturbs the items of a key nor keeps them waiting: the queue stays
open, no notification of the key is passed on, and time passes only as long as nothing of the key
is late. -/
def Undisturbed (plan : Plan α ω) (key : Key) (system : System α ω) : Action α ω → Prop
  | .close => False
  | .passOn => system.booking? plan .passOn ≠ some (key, .accepted)
  | .elapse millis => system.Punctual key (system.now + millis)
  | _ => True

instance (plan : Plan α ω) (key : Key) (system : System α ω) :
    (action : Action α ω) → Decidable (Undisturbed plan key system action)
  | .close => inferInstanceAs (Decidable False)
  | .passOn =>
      inferInstanceAs (Decidable (system.booking? plan .passOn ≠ some (key, Entry.accepted)))
  | .elapse millis => inferInstanceAs (Decidable (system.Punctual key (system.now + millis)))
  | .receive .. | .receiveFailure _ | .enter .. | .enterWith .. | .advance _ | .cancel _
  | .submit _ | .schedule .. | .release _ | .forget _ | .weigh _ | .fire _ | .wakeAll
  | .alter _ => inferInstanceAs (Decidable True)

variable {plan : Plan α ω} {key : Key} {before : System α ω} {action : Action α ω}

theorem Undisturbed.running (undisturbed : Undisturbed plan key before action) :
    action ≠ .close := by
  rintro rfl
  exact undisturbed

theorem booking?_advance_ne (plan : Plan α ω) (system : System α ω) (id : Nat) (key : Key) :
    system.booking? plan (.advance id) ≠ some (key, .accepted) := by
  intro booked
  obtain ⟨other, -, entry⟩ := Option.map_eq_some_iff.mp booked
  cases verdict : (system.limiter.fail plan.backoff other).1 <;>
    simp [verdict, Verdict.entry] at entry

theorem Undisturbed.unannounced (undisturbed : Undisturbed plan key before action) :
    before.booking? plan action ≠ some (key, .accepted) := by
  cases action with
  | passOn => exact undisturbed
  | advance id => exact booking?_advance_ne plan before id key
  | _ => exact nofun

/-- What is seen of an item when its caller goes on. -/
def seen? (plan : Plan α ω) (before after : System α ω) (id : Nat) (work : Work α) :
    Stage α ω → Option (Sighting α ω)
  | .handed => some (.read before.now (before.cache.get? work.key))
  | .looked _ => (shown? (fun _ stage => some stage) after.callers id).map .called
  | .concluded outcome => some (.ended before.now outcome)
  | .weighing _ =>
      some (.ruled before.now (before.limiter.fail plan.backoff work.key).1
        (after.journal.lines.drop before.journal.lines.length))
  | _ => none

/-- What is seen of the items of a key in a step. -/
def sighting? (plan : Plan α ω) (key : Key) (before after : System α ω) :
    Action α ω → Option (Sighting α ω)
  | .advance id =>
      shown? (fun work stage => if work.key = key then seen? plan before after id work stage
        else none) before.callers id
  | _ => none

/-- The runs of a controller in which nothing disturbs the items of a key or keeps them
waiting, with what is seen of them, the newest first. -/
inductive Timely (plan : Plan α ω) (admits : Event α → Prop) (key : Key) (start : System α ω) :
    List (Sighting α ω) → System α ω → Prop
  | start : Timely plan admits key start [] start
  | step {log : List (Sighting α ω)} {before after : System α ω} {action : Action α ω} :
      Timely plan admits key start log before → action.Occurs admits →
      Undisturbed plan key before action → before.act plan action = some after →
      Timely plan admits key start ((before.sighting? plan key after action).toList ++ log) after

/-- What is seen of the items of a key in actions one after another, and the state after them, if
all of them are possible and none disturbs the items or keeps them waiting. -/
def trace (plan : Plan α ω) (key : Key) (log : List (Sighting α ω)) (system : System α ω) :
    List (Action α ω) → Option (List (Sighting α ω) × System α ω)
  | [] => some (log, system)
  | action :: actions =>
      if Undisturbed plan key system action then
        (system.act plan action).bind fun after =>
          trace plan key ((system.sighting? plan key after action).toList ++ log) after actions
      else none

theorem Timely.trace {admits : Event α → Prop} {start after : System α ω}
    {log newer : List (Sighting α ω)} {actions : List (Action α ω)}
    (timely : Timely plan admits key start log before)
    (occur : ∀ action ∈ actions, action.Occurs admits)
    (traced : System.trace plan key log before actions = some (newer, after)) :
    Timely plan admits key start newer after := by
  induction actions generalizing log before with
  | nil =>
      obtain ⟨rfl, rfl⟩ := Prod.mk.inj (Option.some.inj traced)
      exact timely
  | cons action actions ih =>
      rw [System.trace] at traced
      split at traced
      next undisturbed =>
        obtain ⟨next, acted, rest⟩ := Option.bind_eq_some_iff.mp traced
        exact ih (timely.step (occur action (by simp)) undisturbed acted)
          (fun other member => occur other (by simp [member])) rest
      · cases traced

end System

theorem Duration.wait_eq_zero {delay : Duration} (none : delay.nanos = 0) : delay.wait = 0 := by
  simp [wait, seconds, ceilMillis, none]

/-- The timer waits for the delay of every retry, in whole milliseconds. -/
def Backoff.Exact (backoff : Backoff) : Prop :=
  ∀ failures < backoff.retries.toNat,
    (backoff.delay failures).wait = (backoff.delay failures).ceilMillis

/-- Timers are exact as long as the clock can count to the longest delay. -/
theorem Backoff.exact_of_ceiling {backoff : Backoff}
    (short : backoff.ceiling.seconds ≤ clockLimit) : backoff.Exact := by
  intro failures _
  have bounded : (backoff.delay failures).seconds ≤ backoff.ceiling.seconds :=
    Nat.div_le_div_right (backoff.delay_le_ceiling failures)
  rw [Duration.wait, if_neg (by omega)]

theorem Journal.drop_lines_report (journal : Journal) (counter : Counter) (context : String)
    (failure : Failure) :
    ((journal.count counter).report context failure).lines.drop journal.lines.length =
      [⟨.error, context ++ ": " ++ failure.message⟩] :=
  List.drop_left

/-! ## Where an item is on its way -/

/-- How far an item has come that is in the hands of a caller, given the time, the failures
of its key, and the time at which its caller may go on. -/
inductive Stage.Accords (now failures resumes : Nat) : Stage α ω → Standing α → Prop
  | handed : resumes ≤ now → Accords now failures resumes .handed (.due failures now)
  | looked {current : Option α} :
      Accords now failures resumes (.looked current) (.taken failures current)
  | handling {stage : Stage α ω} :
      stage.Handling → Accords now failures resumes stage (.tried failures)
  | concluded {outcome : Outcome} :
      Accords now failures resumes (.concluded outcome) (.tried failures)
  | forgetting : Accords now failures resumes .forgetting .finished
  | releasing : failures = 0 → Accords now failures resumes .releasing .finished
  | yielding {failure : Failure} :
      resumes ≤ now →
      Accords now failures resumes (.yielding failure) (.failed failures now failure)
  | weighing {failure : Failure} :
      resumes ≤ now →
      Accords now failures resumes (.weighing failure) (.failed failures now failure)
  | delaying {failure : Failure} {delay : Duration} :
      resumes ≤ now →
      Accords now failures resumes (.delaying failure delay) (.due failures (now + delay.wait))

/-- No time passes until a caller that may go on does so. -/
theorem Stage.Accords.elapse {now failures resumes millis : Nat} {stage : Stage α ω}
    {standing : Standing α} (accords : stage.Accords now failures resumes standing)
    (late : now + millis ≤ resumes) : stage.Accords (now + millis) failures resumes standing := by
  cases accords with
  | looked => exact .looked
  | handling handling => exact .handling handling
  | concluded => exact .concluded
  | forgetting => exact .forgetting
  | releasing cleared => exact .releasing cleared
  | handed awake | yielding awake | weighing awake | delaying awake =>
      obtain rfl : millis = 0 := by omega
      rw [Nat.add_zero]
      constructor
      exact awake

theorem Stage.handling_opening (plan : Plan α ω) (work : Work α) (current : Option α) :
    (Stage.opening plan work current).Handling := by
  unfold opening
  split
  · exact .adopting _ _
  · exact .syncing _

theorem Stage.settling_of_transient {outcome : Outcome} {failure : Failure}
    (failed : System.failureOf outcome = some failure) (repeats : failure.severity = .transient) :
    (Stage.settling outcome : Stage α ω) = .yielding failure := by
  rw [settling, failed]
  simp only [repeats]

theorem Stage.settling_of_not_transient {outcome : Outcome} (passes : ¬outcome.Transient) :
    (Stage.settling outcome : Stage α ω) = .forgetting := by
  unfold settling
  cases failed : System.failureOf outcome with
  | none => rfl
  | some failure =>
      cases severity : failure.severity with
      | transient => exact (passes ⟨failure, failed, severity⟩).elim
      | notFound | malformed => simp only [severity]

namespace System

/-- The item is the only one of its key, and a caller has it in its hands. -/
structure Held (work : Work α) (system : System α ω) (id : Nat) (caller : Caller α ω)
    (stage : Stage α ω) (standing : Standing α) : Prop where
  docket : system.docket work.key = .heldBy id caller
  point : caller.point = .holding work stage
  accords : stage.Accords system.now (system.limiter.failures work.key) caller.resumes standing

/-- The item is the only one of its key and in nobody's hands, or there is none left. -/
inductive Rests (work : Work α) (system : System α ω) : Standing α → Prop
  | waiting :
      system.docket work.key = .waiting work →
      Rests work system (.due (system.limiter.failures work.key) system.now)
  | postponed {ticket time : Nat} :
      system.docket work.key = .postponed ticket ⟨time, work⟩ → system.now ≤ time →
      Rests work system (.due (system.limiter.failures work.key) time)
  | gone :
      system.docket work.key = {} → system.limiter.failures work.key = 0 →
      Rests work system .finished

/-- Where an item is and how far it has come. -/
inductive Stands (work : Work α) (system : System α ω) (standing : Standing α) : Prop
  | rests : Rests work system standing → Stands work system standing
  | held {id : Nat} {caller : Caller α ω} {stage : Stage α ω} :
      Held work system id caller stage standing → Stands work system standing

variable {work : Work α} {before after : System α ω} {id failures : Nat}
  {caller next : Caller α ω} {stage : Stage α ω} {standing : Standing α}

theorem Held.alone (held : Held work before id caller stage standing) {other : Nat}
    {bearer : Caller α ω} (bears : bearers work.key before.callers other = some bearer) :
    other = id ∧ bearer = caller := by
  obtain ⟨-, bearers, -⟩ := docket_eq_heldBy_iff.mp held.docket
  rw [bearers, Function.update_apply] at bears
  split at bears
  next here => exact ⟨here, (Option.some.inj bears).symm⟩
  · cases bears

theorem Held.own (held : Held work before id caller stage standing) :
    bearers work.key before.callers id = some caller := by
  obtain ⟨-, bearers, -⟩ := docket_eq_heldBy_iff.mp held.docket
  rw [bearers, Function.update_self]

theorem Held.find? (held : Held work before id caller stage standing) :
    before.callers.find? id = some caller :=
  (bearers_eq_some_iff.mp held.own).1

theorem Held.held? (held : Held work before id caller stage standing) :
    caller.point.held? = some (work, stage) := by
  rw [held.point]
  rfl

theorem Rests.unheld (rests : Rests work before standing) :
    bearers work.key before.callers = fun _ => none := by
  cases rests with
  | waiting docket => exact (docket_eq_waiting_iff.mp docket).2.1
  | postponed docket => exact (docket_eq_postponed_iff.mp docket).2.1
  | gone docket => exact (docket_eq_empty_iff.mp docket).2.1

theorem Stands.now_le_due {time : Nat} (stands : Stands work before (.due failures time)) :
    before.now ≤ time := by
  cases stands with
  | rests rests =>
      cases rests with
      | waiting => exact Nat.le_refl _
      | postponed _ early => exact early
  | held held =>
      have accords := held.accords
      cases accords with
      | handed => exact Nat.le_refl _
      | delaying => exact Nat.le_add_right _ _

/-- When it is over with an item and nobody has it in its hands, nothing of its key is left. -/
theorem Stands.gone (stands : Stands work before .finished)
    (unheld : bearers work.key before.callers = fun _ => none) :
    before.docket work.key = {} := by
  cases stands with
  | rests rests =>
      cases rests with
      | gone docket => exact docket
  | held held => cases (congrFun unheld _).symm.trans held.own

theorem Stands.finished_of_gone (stands : Stands work before standing)
    (gone : before.docket work.key = {}) :
    standing = .finished ∧ before.limiter.failures work.key = 0 := by
  obtain ⟨pending, bearers, tickets⟩ := docket_eq_empty_iff.mp gone
  cases stands with
  | rests rests =>
      cases rests with
      | waiting docket => cases pending.symm.trans (docket_eq_waiting_iff.mp docket).1
      | @postponed ticket _ docket =>
          have waits := congrFun (docket_eq_postponed_iff.mp docket).2.2 ticket
          rw [tickets, Function.update_self] at waits
          cases waits
      | gone _ cleared => exact ⟨rfl, cleared⟩
  | held held => cases (congrFun bearers _).symm.trans held.own

/-! ## A step of its caller -/

theorem Held.bearers_insert (held : Held work before id caller stage standing)
    (next : Caller α ω) :
    bearers work.key (before.callers.insert id next) =
      Function.update (fun _ => none) id (if next.bears work.key then some next else none) := by
  obtain ⟨-, bearers, -⟩ := docket_eq_heldBy_iff.mp held.docket
  rw [System.bearers_insert, bearers, Function.update_idem]

theorem Held.moved (held : Held work before id caller stage standing) {nextStage : Stage α ω}
    {nextStanding : Standing α} (callers : after.callers = before.callers.insert id next)
    (same : after.queue.pending = before.queue.pending ∧ after.delayed = before.delayed)
    (point : next.point = .holding work nextStage)
    (carried : nextStage.carried? work = some work.key)
    (accords : nextStage.Accords after.now (after.limiter.failures work.key) next.resumes
      nextStanding) : Held work after id next nextStage nextStanding := by
  obtain ⟨pending, -, tickets⟩ := docket_eq_heldBy_iff.mp held.docket
  refine ⟨docket_eq_heldBy_iff.mpr ⟨?_, ?_, ?_⟩, point, accords⟩
  · rw [same.1, pending]
  · have bears : next.bears work.key = true :=
      (Caller.bears_of_held (point ▸ Point.held?_holding _ _)).mpr carried
    rw [callers, held.bearers_insert, if_pos bears]
  · rw [same.2, tickets]

theorem Held.freed (held : Held work before id caller stage standing)
    (callers : after.callers = before.callers.insert id next)
    (bare : next.bears work.key = false) :
    (bearers work.key after.callers = fun _ => none) := by
  rw [callers, held.bearers_insert, if_neg (by simp [bare])]
  exact Function.update_eq_self id _

variable [Resource α] {plan : Plan α ω}

/-- After a step of its caller the item is where its standing says.  If it is still in the
hands of the caller, it has come to the next stage. -/
inductive Onward (plan : Plan α ω) (work : Work α) (stage : Stage α ω) (after : System α ω)
    (standing : Standing α) : Prop
  | rests : Rests work after standing → Onward plan work stage after standing
  | held {id : Nat} {caller : Caller α ω} {next : Stage α ω} :
      Held work after id caller next standing → next.Follows plan work stage →
      Onward plan work stage after standing

theorem Held.handled (held : Held work before id caller stage (.tried failures))
    (handling : stage.Handling)
    (advanced : before.advanceStage plan id caller work stage = after) :
    Onward plan work stage after (.tried failures) := by
  have failed : failures = before.limiter.failures work.key := by
    have accords := held.accords
    cases accords <;> rfl
  subst failed
  cases handling with
  | adopting object call =>
      rcases stepCall_cases advanced with
        ⟨outcome, rfl, rfl⟩ | ⟨rest, resumes, journal, world, continues, rfl, -⟩
      · cases outcome with
        | succeeded =>
            exact .held (held.moved rfl ⟨rfl, rfl⟩ rfl rfl (.handling (.adopted _)))
              (.handled .adopted)
        | failed | panicked =>
            exact .held (held.moved rfl ⟨rfl, rfl⟩ rfl rfl .concluded)
              (.handled (.unadopted (by simp)))
      · exact .held (held.moved rfl ⟨rfl, rfl⟩ rfl rfl (.handling (.adopting _ _)))
          (.handled (.adopting continues))
  | adopted object =>
      subst advanced
      exact .held (held.moved rfl ⟨rfl, rfl⟩ rfl rfl (.handling (.syncing _))) (.handled .begun)
  | syncing call =>
      rcases stepCall_cases advanced with
        ⟨outcome, rfl, rfl⟩ | ⟨rest, resumes, journal, world, continues, rfl, -⟩
      · exact .held (held.moved rfl ⟨rfl, rfl⟩ rfl rfl .concluded) (.handled .ended)
      · exact .held (held.moved rfl ⟨rfl, rfl⟩ rfl rfl (.handling (.syncing _)))
          (.handled (.syncing continues))

omit [Resource α] in
theorem decide_of_drop {limiter : Limiter} {attempts : Nat} {failure : Failure}
    (weighed : before.limiter.fail plan.backoff work.key = (.drop attempts, limiter))
    (id : Nat) (caller : Caller α ω) :
    before.decide plan id caller work failure =
      { before with
        limiter
        callers := before.callers.insert id { caller with point := caller.rest work }
        journal := (before.journal.count (.dropped work.operation)).report
          (plan.name ++ " controller dropped " ++ work.key.text ++ " after " ++
            toString attempts ++ " attempts") failure } := by
  simp only [decide, weigh, weighed, finishRound_eq]
  rfl

omit [Resource α] in
theorem Held.weighed {time : Nat} {failure : Failure}
    (held : Held work before id caller (.weighing failure) (.failed failures time failure))
    (timers : plan.backoff.Exact) (bounded : failures ≤ plan.backoff.retries.toNat)
    (advanced : before.decide plan id caller work failure = after) :
    ∃ next, (Standing.failed failures time failure).Next plan work
        (.ruled before.now (before.limiter.fail plan.backoff work.key).1
          (after.journal.lines.drop before.journal.lines.length)) next ∧
      Onward plan work (.weighing failure) after next := by
  have accords := held.accords
  obtain ⟨rfl, rfl, awake⟩ : failures = before.limiter.failures work.key ∧ time = before.now ∧
      caller.resumes ≤ before.now := by
    cases accords with
    | weighing awake => exact ⟨rfl, rfl, awake⟩
  obtain ⟨⟨verdict, limiter⟩, weighed⟩ : ∃ result,
      before.limiter.fail plan.backoff work.key = result := ⟨_, rfl⟩
  have decided := Limiter.fail_fst before.limiter plan.backoff work.key
  rw [weighed, Limiter.verdict] at decided
  cases verdict with
  | retry delay =>
      obtain ⟨spare, counted⟩ := Limiter.failures_of_retry weighed
      rw [if_neg (by omega)] at decided
      obtain rfl := Verdict.retry.inj decided
      rw [decide_of_retry failure id caller weighed] at advanced
      subst advanced
      rw [weighed, List.drop_length]
      refine ⟨_, .retried spare, .held (held.moved rfl ⟨rfl, rfl⟩ rfl rfl ?_) .granted⟩
      -- The failure is counted by now, but its delay is the one for the failures before.
      rw [← counted, ← timers _ spare]
      exact .delaying awake
  | drop attempts =>
      obtain ⟨spent, cleared⟩ := Limiter.failures_of_drop weighed
      rw [if_pos spent] at decided
      obtain rfl := Verdict.drop.inj decided
      rw [decide_of_drop weighed] at advanced
      subst advanced
      obtain ⟨pending, -, tickets⟩ := docket_eq_heldBy_iff.mp held.docket
      refine ⟨.finished, ?_,
        .rests (.gone (docket_eq_empty_iff.mpr ⟨pending, ?_, tickets⟩) cleared)⟩
      · rw [weighed, Journal.drop_lines_report]
        exact .dropped (Nat.le_antisymm bounded spent) rfl
      · exact held.freed rfl (Caller.bears_of_bare (Point.held?_rest _ _))

omit [Resource α] in
theorem Held.delayed {failure : Failure} {delay : Duration}
    (held : Held work before id caller (.delaying failure delay) standing)
    (isOpen : before.queue.closed = false)
    (advanced : (before.schedule work delay).putStage id caller work (.noting failure delay) =
      after) : Rests work after standing := by
  have accords := held.accords
  obtain rfl : standing = .due (before.limiter.failures work.key) (before.now + delay.wait) := by
    cases accords with
    | handling handling => cases handling
    | delaying => rfl
  obtain ⟨pending, -, tickets⟩ := docket_eq_heldBy_iff.mp held.docket
  have bare (next : Caller α ω) (notes : next.point = .holding work (.noting failure delay)) :
      next.bears work.key = false := by
    rw [Bool.eq_false_iff, Ne, Caller.bears_of_held (notes ▸ Point.held?_holding _ _)]
    exact nofun
  -- Without a delay the item is not postponed but pending already, while its caller takes notes.
  by_cases now : delay.nanos = 0
  · rw [schedule, if_pos now] at advanced
    subst advanced
    rw [Duration.wait_eq_zero now]
    refine .waiting (docket_eq_waiting_iff.mpr ⟨?_, held.freed rfl (bare _ rfl), tickets⟩)
    refine (Queue.find?_add isOpen ..).trans ((if_pos rfl).trans ?_)
    rw [pending]
    rfl
  · rw [schedule, if_neg now, if_neg (by simp [isOpen])] at advanced
    subst advanced
    have joins : System.tickets work.key
        (before.delayed.insert before.issued ⟨before.now + delay.wait, work⟩) =
          Function.update (fun _ => none) before.issued (some ⟨before.now + delay.wait, work⟩) := by
      rw [tickets_insert, tickets, if_pos rfl]
    exact .postponed (docket_eq_postponed_iff.mpr ⟨pending, held.freed rfl (bare _ rfl), joins⟩)
      (Nat.le_add_right _ _)

omit [Resource α] in
theorem Held.concluded {outcome : Outcome}
    (held : Held work before id caller (.concluded outcome) (.tried failures))
    (awake : caller.resumes ≤ before.now)
    (advanced : before.conclude plan id caller work outcome = after) :
    ∃ next, (Standing.tried failures).Next plan work (.ended before.now outcome) next ∧
      Onward plan work (.concluded outcome) after next := by
  have accords := held.accords
  obtain rfl : failures = before.limiter.failures work.key := by
    cases accords <;> rfl
  obtain ⟨journal, concludes⟩ := exists_conclude_eq plan before id caller work outcome
  rw [concludes] at advanced
  subst advanced
  by_cases transient : outcome.Transient
  · obtain ⟨failure, failed, repeats⟩ := transient
    have yields : (Stage.settling outcome : Stage α ω) = .yielding failure :=
      Stage.settling_of_transient failed repeats
    refine ⟨_, .failed failed repeats, .held (held.moved rfl ⟨rfl, rfl⟩ rfl ?_ ?_) .concluded⟩
    · rw [yields]
      rfl
    · rw [yields]
      exact .yielding awake
  · have forgets : (Stage.settling outcome : Stage α ω) = .forgetting :=
      Stage.settling_of_not_transient transient
    refine ⟨_, .settled transient, .held (held.moved rfl ⟨rfl, rfl⟩ rfl ?_ ?_) .concluded⟩
    · rw [forgets]
      rfl
    · rw [forgets]
      exact .forgetting

omit [Resource α] in
theorem Held.sighting?_eq (held : Held work before id caller stage standing) :
    before.sighting? plan work.key after (.advance id) = seen? plan before after id work stage := by
  rw [sighting?, shown?_of_held held.find? held.held?, if_pos rfl]

/-- A step of the caller that has the item in its hands keeps to the timetable. -/
theorem Held.advance (held : Held work before id caller stage standing)
    (isOpen : before.queue.closed = false) (timers : plan.backoff.Exact)
    {since : Nat} {log : List (Sighting α ω)} (table : Timetable plan work since log standing)
    (acted : before.act plan (.advance id) = some after) :
    ∃ next, standing.Goes plan work (before.sighting? plan work.key after (.advance id)) next ∧
      Onward plan work stage after next := by
  have acted : (if before.now < caller.resumes then none
      else some (before.advanceStage plan id caller work stage)) = some after :=
    (advance_of_holding held.find? held.point).symm.trans acted
  split at acted
  · cases acted
  next awake =>
    have awake : caller.resumes ≤ before.now := Nat.le_of_not_lt awake
    have advanced := Option.some.inj acted
    have accords := held.accords
    rw [held.sighting?_eq]
    cases accords with
    | handed =>
        subst advanced
        exact ⟨_, .next .taken, .held (held.moved rfl ⟨rfl, rfl⟩ rfl rfl .looked) .looked⟩
    | @looked current =>
        rw [advanceStage_looked] at advanced
        subst advanced
        have called : seen? plan before (before.putStage id caller work
            (.opening plan work current)) id work (.looked current) =
              some (.called (.opening plan work current)) := by
          rw [seen?]
          exact congrArg (Option.map Sighting.called) ((shown?_insert ..).trans (if_pos rfl))
        rw [called]
        have handling := Stage.handling_opening plan work current
        exact ⟨_, .next .called, .held (held.moved rfl ⟨rfl, rfl⟩ rfl
          (Stage.carried?_opening plan work current) (.handling handling)) .called⟩
    | handling handling =>
        refine ⟨_, ?_, held.handled handling advanced⟩
        cases handling <;> exact .stays
    | concluded =>
        obtain ⟨next, goes, onward⟩ := held.concluded awake advanced
        exact ⟨next, .next goes, onward⟩
    | forgetting =>
        subst advanced
        refine ⟨_, .stays, .held (held.moved rfl ⟨rfl, rfl⟩ rfl rfl (.releasing ?_)) .forgot⟩
        exact (Limiter.failures_forget ..).trans (if_pos rfl)
    | releasing cleared =>
        rw [advanceStage, finishRound_eq] at advanced
        subst advanced
        obtain ⟨pending, -, tickets⟩ := docket_eq_heldBy_iff.mp held.docket
        refine ⟨_, .stays,
          .rests (.gone (docket_eq_empty_iff.mpr ⟨pending, held.freed rfl ?_, tickets⟩) cleared)⟩
        exact Caller.bears_of_bare (Point.held?_rest caller work)
    | yielding awake =>
        subst advanced
        exact ⟨_, .stays,
          .held (held.moved rfl ⟨rfl, rfl⟩ rfl rfl (.weighing awake)) .yielded⟩
    | weighing =>
        obtain ⟨next, goes, onward⟩ := held.weighed timers table.counts.1 advanced
        exact ⟨next, .next goes, onward⟩
    | delaying => exact ⟨_, .stays, .rests (held.delayed isOpen advanced)⟩

/-! ## Any step -/

theorem now_of_act {admits : Event α → Prop} {action : Action α ω} (occurs : action.Occurs admits)
    (waitless : ∀ millis, action ≠ .elapse millis) (acted : before.act plan action = some after) :
    after.now = before.now := by
  have turn := turn_of_act occurs acted
  cases action with
  | receive order event =>
      simp only [act] at acted
      split at acted
      · rw [← Option.some.inj acted, receive_now]
      · cases acted
  | receiveFailure failure =>
      simp only [act] at acted
      split at acted
      · exact Option.some.inj acted ▸ rfl
      · cases acted
  | passOn => exact turn.now_eq (.inl rfl)
  | advance id => exact turn.now_eq (.inr ⟨id, rfl⟩)
  | enter id role =>
      obtain rfl : role = .worker := occurs
      simp only [act] at acted
      split at acted
      · cases acted
      · exact Option.some.inj acted ▸ rfl
  | cancel id =>
      simp only [act, cancel] at acted
      split at acted
      · cases acted
      · split at acted
        · exact Option.some.inj acted ▸ rfl
        · cases acted
  | fire ticket =>
      simp only [act, System.fire] at acted
      split at acted
      · cases acted
      · split at acted
        · exact Option.some.inj acted ▸ rfl
        · cases acted
  | close | wakeAll | alter => exact Option.some.inj acted ▸ rfl
  | elapse millis => exact (waitless millis rfl).elim
  | _ => exact occurs.elim

theorem resumes_le_of_advance (found : before.callers.find? id = some caller)
    (acted : before.act plan (.advance id) = some after) : caller.resumes ≤ before.now := by
  simp only [act, System.advance, found] at acted
  split at acted
  · cases acted
  · omega

omit [Resource α] in
theorem sighting?_eq_none {key : Key} {action : Action α ω}
    (unmoved : ∀ id, action = .advance id → bearers key before.callers id = none) :
    before.sighting? plan key after action = none := by
  cases action with
  | advance id =>
      rw [Option.eq_none_iff_forall_not_mem]
      intro sighting seen
      obtain ⟨caller, work, stage, found, held, sees⟩ := exists_held_of_shown? seen
      split at sees
      next same =>
        have noting : stage.carried? work ≠ some work.key := by
          intro carried
          exact apart_of_bearers (unmoved id rfl) found held carried same
        cases stage with
        | noting => cases sees
        | _ => exact noting rfl
      · cases sees
  | _ => rfl

omit [Resource α] in
/-- Nobody keeps a key without having an item of it in its hands. -/
theorem bearers_of_keeps {key : Key} (keeps : before.Keeps id key) :
    bearers key before.callers id ≠ none := by
  obtain ⟨caller, work, stage, found, held, kept⟩ := exists_held_of_shown? keeps
  intro unheld
  obtain ⟨keepsKey, own⟩ := Option.ite_none_right_eq_some.mp kept
  refine apart_of_bearers unheld found held ?_ (Option.some.inj own)
  cases stage with
  | noting => cases keepsKey
  | _ => rfl

omit [Resource α] in
/-- An item that is pending while nobody has one of its key is ready. -/
theorem ready_of_waiting {key : Key} (custody : before.Custody)
    (isOpen : before.queue.closed = false) (docket : before.docket key = .waiting work) :
    key ∈ before.queue.ready := by
  obtain ⟨pending, bearers, -⟩ := docket_eq_waiting_iff.mp docket
  rcases custody.sound.placed isOpen pending with ready | flies
  · exact ready
  · obtain ⟨id, keeps⟩ := (custody.inFlight_iff key).mp flies
    exact (bearers_of_keeps keeps (congrFun bearers id)).elim

omit [Resource α] in
/-- If nothing is late, an item stays where it is when time passes. -/
theorem Stands.elapse {millis : Nat} (stands : Stands work before standing)
    (custody : before.Custody) (isOpen : before.queue.closed = false)
    (punctual : before.Punctual work.key (before.now + millis)) :
    Stands work { before with now := before.now + millis } standing := by
  cases stands with
  | rests rests =>
      cases rests with
      | waiting docket => exact (punctual.ready (ready_of_waiting custody isOpen docket)).elim
      | @postponed ticket time docket _ =>
          obtain ⟨-, -, tickets⟩ := docket_eq_postponed_iff.mp docket
          have found : System.tickets work.key before.delayed ticket = some ⟨time, work⟩ := by
            rw [tickets, Function.update_self]
          obtain ⟨found, own⟩ := tickets_eq_some_iff.mp found
          exact .rests
            (.postponed docket (punctual.delayed _ (Table.mem_values_of_find? found) own))
      | gone docket cleared => exact .rests (.gone docket cleared)
  | @held id caller stage held =>
      obtain ⟨found, bears⟩ := bearers_eq_some_iff.mp held.own
      have late := punctual.held caller (Table.mem_values_of_find? found) bears
      exact .held ⟨held.docket, held.point, held.accords.elapse late⟩

theorem Rests.fire {ticket : Nat} {item : Delayed α} (rests : Rests work before standing)
    (isOpen : before.queue.closed = false)
    (found : tickets work.key before.delayed ticket = some item)
    (acted : before.act plan (.fire ticket) = some after) :
    after.docket work.key = .waiting work ∧ Rests work after standing := by
  cases rests with
  | waiting docket =>
      obtain ⟨-, -, tickets⟩ := docket_eq_waiting_iff.mp docket
      cases (congrFun tickets ticket).symm.trans found
  | gone docket =>
      obtain ⟨-, -, tickets⟩ := docket_eq_empty_iff.mp docket
      cases (congrFun tickets ticket).symm.trans found
  | @postponed other time docket early =>
      obtain ⟨pending, bearers, tickets⟩ := docket_eq_postponed_iff.mp docket
      rw [tickets, Function.update_apply] at found
      split at found
      next here =>
        subst here
        obtain rfl := Option.some.inj found
        have finds : before.delayed.find? ticket = some ⟨time, work⟩ :=
          (tickets_eq_some_iff.mp (by rw [tickets, Function.update_self])).1
        simp only [act, System.fire, finds] at acted
        split at acted
        next late =>
          -- It does not go off before that time, and the time has not passed either.
          obtain rfl : time = before.now := Nat.le_antisymm late early
          obtain rfl := Option.some.inj acted
          suffices docket : _ from ⟨docket, .waiting docket⟩
          refine docket_eq_waiting_iff.mpr ⟨?_, bearers, ?_⟩
          · refine (Queue.find?_add isOpen ..).trans ((if_pos rfl).trans ?_)
            rw [pending]
            rfl
          · refine (tickets_erase ..).trans ?_
            rw [tickets, Function.update_idem, Function.update_eq_self]
        · cases acted
      · cases found

omit [Resource α] in
theorem Stands.carry (stands : Stands work before standing)
    (docket : after.docket work.key = before.docket work.key)
    (failures : after.limiter.failures work.key = before.limiter.failures work.key)
    (now : after.now = before.now) : Stands work after standing := by
  cases stands with
  | rests rests =>
      cases rests with
      | waiting waits => exact .rests (failures ▸ now ▸ .waiting (docket.trans waits))
      | postponed waits early =>
          exact .rests (failures ▸ .postponed (docket.trans waits) (now ▸ early))
      | gone empty cleared => exact .rests (.gone (docket.trans empty) (failures.trans cleared))
  | held held =>
      refine .held ⟨docket.trans held.docket, held.point, ?_⟩
      rw [failures, now]
      exact held.accords

omit [Resource α] in
theorem Onward.stands (onward : Onward plan work stage after standing) :
    Stands work after standing := by
  cases onward with
  | rests rests => exact .rests rests
  | held held => exact .held held

omit [Resource α] in
/-- The caller that takes the pending item takes it up at once. -/
theorem Stands.taken (stands : Stands work before standing) {item : Work α}
    (pending : (before.docket work.key).pending = some item)
    (docket : after.docket work.key =
      { before.docket work.key with
        pending := none
        held := Function.update (before.docket work.key).held id
          (some { caller with point := .holding item .handed }) })
    (failures : after.limiter.failures work.key = before.limiter.failures work.key)
    (now : after.now = before.now) (awake : caller.resumes ≤ before.now) :
    Held work after id { caller with point := .holding work .handed } .handed standing := by
  have waits : before.docket work.key = .waiting work ∧
      standing = .due (before.limiter.failures work.key) before.now := by
    cases stands with
    | rests rests =>
        cases rests with
        | waiting docket => exact ⟨docket, rfl⟩
        | postponed docket | gone docket =>
            rw [docket] at pending
            cases pending
    | held held =>
        rw [held.docket] at pending
        cases pending
  obtain ⟨waits, rfl⟩ := waits
  rw [waits] at pending docket
  obtain rfl : work = item := Option.some.inj pending
  refine ⟨docket, rfl, ?_⟩
  rw [failures, now]
  exact .handed awake

/-- Every step that neither disturbs an item nor keeps it waiting keeps to its timetable. -/
theorem Stands.step {admits : Event α → Prop} {action : Action α ω} {since : Nat}
    {log : List (Sighting α ω)} (stands : Stands work before standing)
    (custody : before.Custody) (numbered : before.Numbered) (isOpen : before.queue.closed = false)
    (timers : plan.backoff.Exact) (table : Timetable plan work since log standing)
    (occurs : action.Occurs admits) (undisturbed : Undisturbed plan work.key before action)
    (acted : before.act plan action = some after) :
    ∃ next, standing.Goes plan work (before.sighting? plan work.key after action) next ∧
      Stands work after next := by
  by_cases waits : ∃ millis, action = .elapse millis
  · obtain ⟨millis, rfl⟩ := waits
    obtain rfl := Option.some.inj acted
    exact ⟨standing, .stays, stands.elapse custody isOpen undisturbed⟩
  have now := now_of_act occurs (fun millis same => waits ⟨millis, same⟩) acted
  by_cases moves : ∃ id caller, action = .advance id ∧
      bearers work.key before.callers id = some caller
  · -- Only a caller with the item in its hands moves with it.
    obtain ⟨id, caller, rfl, bears⟩ := moves
    cases stands with
    | rests rests => cases (congrFun rests.unheld id).symm.trans bears
    | held held =>
        obtain ⟨rfl, rfl⟩ := held.alone bears
        obtain ⟨next, goes, onward⟩ := held.advance isOpen timers table acted
        exact ⟨next, goes, onward.stands⟩
  by_cases fires : ∃ ticket item, action = .fire ticket ∧
      tickets work.key before.delayed ticket = some item
  · obtain ⟨ticket, item, rfl, found⟩ := fires
    cases stands with
    | rests rests => exact ⟨standing, .stays, .rests (rests.fire isOpen found acted).2⟩
    | held held =>
        obtain ⟨-, -, tickets⟩ := docket_eq_heldBy_iff.mp held.docket
        cases (congrFun tickets ticket).symm.trans found
  have unmoved : ∀ id, action = .advance id → bearers work.key before.callers id = none := by
    intro id same
    rw [Option.eq_none_iff_forall_not_mem]
    intro caller bears
    exact moves ⟨id, caller, same, bears⟩
  have unfired : ∀ ticket, action = .fire ticket →
      tickets work.key before.delayed ticket = none := by
    intro ticket same
    rw [Option.eq_none_iff_forall_not_mem]
    intro item found
    exact fires ⟨ticket, item, same, found⟩
  have unseen : before.sighting? plan work.key after action = none := sighting?_eq_none unmoved
  rw [unseen]
  obtain ⟨failures, docket | ⟨id, caller, item, rfl, found, pending, docket⟩⟩ :=
    docket_of_turn custody numbered isOpen (turn_of_act occurs acted) undisturbed.unannounced
      unmoved unfired
  · exact ⟨standing, .stays, stands.carry docket failures now⟩
  · have awake := resumes_le_of_advance found acted
    exact ⟨standing, .stays, .held (stands.taken pending docket failures now awake)⟩

end System

end Reconciler
