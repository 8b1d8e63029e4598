import Reconciler.Proofs.Run

/-!
# What a step of a controller changes

This file says once what each step of a run changes, as a relation with one rule for
each kind of step, and shows that every possible step is one of them.  What the steps
write and ring is left open.  Everything that is proved about runs is proved from
these rules.
-/

namespace Reconciler

variable {α ω : Type}

/-- The item that a caller holds, and how far it has come with it. -/
def Point.held? : Point α ω → Option (Work α × Stage α ω)
  | .holding work stage => some (work, stage)
  | _ => none

/-- Where a caller goes that is done with an item. -/
def Caller.rest (caller : Caller α ω) (work : Work α) : Point α ω :=
  match caller.role with
  | .worker => .arriving
  | _ => .left (some work)

/-- The first call of the handler for an item, given what the cache held. -/
def Stage.opening (plan : Plan α ω) (work : Work α) (current : Option α) : Stage α ω :=
  match work.operation, current with
  | .add, some object => .adopting object (plan.handler.adopt work.key object)
  | operation, current => .syncing (plan.handler.sync work.key operation current work.prior)

/-- How an item is settled after an outcome. -/
def Stage.settling (outcome : Outcome) : Stage α ω :=
  match System.failureOf outcome with
  | none => .forgetting
  | some failure =>
      match failure.severity with
      | .transient => .yielding failure
      | _ => .forgetting

/-- The stages in which an item is in the hands of the handler. -/
inductive Stage.Handling : Stage α ω → Prop
  | adopting (current : α) (call : Call ω) : Handling (.adopting current call)
  | adopted (current : α) : Handling (.adopted current)
  | syncing (call : Call ω) : Handling (.syncing call)

/-- What is left of a call after a step that does not end it. -/
inductive Call.Continues : Call ω → Call ω → Prop
  | pause (millis : Nat) (next : Call ω) : Continues (.pause millis next) next
  | say (line : Line) (next : Call ω) : Continues (.say line next) next
  | act (effect : ω → ω) (next : ω → Call ω) (world : ω) :
      Continues (.act effect next) (next world)

/-- How the handler goes on with an item, or ends. -/
inductive Stage.Goes (plan : Plan α ω) (work : Work α) : Stage α ω → Stage α ω → Prop
  | adopting {current : α} {call rest : Call ω} :
      call.Continues rest → Goes plan work (.adopting current call) (.adopting current rest)
  | adopted {current : α} :
      Goes plan work (.adopting current (.finish .succeeded)) (.adopted current)
  | unadopted {current : α} {outcome : Outcome} :
      outcome ≠ .succeeded →
      Goes plan work (.adopting current (.finish outcome)) (.concluded outcome)
  | begun {current : α} :
      Goes plan work (.adopted current)
        (.syncing (plan.handler.sync work.key work.operation (some current) work.prior))
  | syncing {call rest : Call ω} :
      call.Continues rest → Goes plan work (.syncing call) (.syncing rest)
  | ended {outcome : Outcome} :
      Goes plan work (.syncing (.finish outcome)) (.concluded outcome)

theorem Stage.Goes.handling {plan : Plan α ω} {work : Work α} {stage next : Stage α ω}
    (goes : stage.Goes plan work next) : stage.Handling := by
  cases goes with
  | adopting | adopted | unadopted => exact .adopting _ _
  | begun => exact .adopted _
  | syncing | ended => exact .syncing _

theorem Stage.Goes.next {plan : Plan α ω} {work : Work α} {stage next : Stage α ω}
    (goes : stage.Goes plan work next) :
    next.Handling ∨ ∃ outcome, next = .concluded outcome := by
  cases goes with
  | adopting => exact .inl (.adopting _ _)
  | adopted => exact .inl (.adopted _)
  | begun | syncing => exact .inl (.syncing _)
  | unadopted | ended => exact .inr ⟨_, rfl⟩

@[simp]
theorem Point.held?_holding (work : Work α) (stage : Stage α ω) :
    (Point.holding work stage).held? = some (work, stage) :=
  rfl

theorem Point.eq_holding {point : Point α ω} {work : Work α} {stage : Stage α ω}
    (held : point.held? = some (work, stage)) : point = .holding work stage := by
  cases point with
  | holding other otherStage =>
      obtain ⟨rfl, rfl⟩ := Prod.mk.inj (Option.some.inj held)
      rfl
  | _ => cases held

@[simp]
theorem Point.held?_rest (caller : Caller α ω) (work : Work α) :
    (caller.rest work).held? = none := by
  unfold Caller.rest
  split <;> rfl

namespace System

theorem finishRound_eq (system : System α ω) (id : Nat) (caller : Caller α ω) (work : Work α) :
    system.finishRound id caller work = system.put id caller (caller.rest work) := by
  unfold finishRound Caller.rest
  cases caller.role <;> rfl

variable [Resource α]

/-- What a step changes.  Texts, rings, and what becomes of the surroundings are left
open.  The key of a settled item is `released`, that of a failed one is `yielded`, and
the failed item is then `granted` a retry or `dropped`; a retry is `returned` at once,
`delayed`, or `refused` by a closed queue. -/
inductive Turn (plan : Plan α ω) (system : System α ω) :
    Action α ω → Option (Mark α) → System α ω → Prop
  /-- Nothing changes besides the clock, the bell, the journal and the surroundings. -/
  | quiet {action now bell journal world} :
      action ≠ .passOn → (∀ id, action ≠ .advance id) →
      Turn plan system action none { system with now, bell, journal, world }
  /-- An event about a nameless object is only reported. -/
  | ignored {order event journal} :
      system.relay = .idle →
      Turn plan system (.receive order event) (some (.refreshed system.cache))
        { system with journal }
  | received {order event listing} :
      system.relay = .idle →
      (∀ object, event.object? = some object → ∃ key, identify object = .ok key) →
      Turn plan system (.receive order event)
        (some (.refreshed (system.cache.apply order event).1))
        { system with
          cache := (system.cache.apply order event).1
          relay := .passing (system.cache.apply order event).2 0 listing }
  | announced {key change changes enqueued listing work bell} :
      system.relay = .passing ((key, change) :: changes) enqueued listing →
      Work.ofChange? key change = some work →
      Turn plan system .passOn (some (.announced key change))
        { system with
          queue := system.queue.add work
          bell
          relay := .passing changes (enqueued + 1) listing }
  /-- A change that is none is passed over. -/
  | suppressed {key change changes enqueued listing} :
      system.relay = .passing ((key, change) :: changes) enqueued listing →
      Work.ofChange? key change = none →
      Turn plan system .passOn none { system with relay := .passing changes enqueued listing }
  | completed {enqueued listing synced journal} :
      system.relay = .passing [] enqueued listing →
      Turn plan system .passOn none
        { system with relay := .idle, cache := { system.cache with synced }, journal }
  | entered {id journal} :
      system.callers.find? id = none →
      Turn plan system (.enter id .worker) none
        { system with callers := system.callers.insert id { role := .worker }, journal }
  | fired {ticket delayed bell} :
      system.delayed.find? ticket = some delayed →
      Turn plan system (.fire ticket) (some (.returned delayed.work))
        { system with
          delayed := system.delayed.erase ticket
          queue := system.queue.add delayed.work
          bell }
  | closed : Turn plan system .close none { system with queue := system.queue.close }
  | moved {action id caller point bell journal} :
      system.callers.find? id = some caller →
      caller.point.held? = none → point.held? = none →
      action = .advance id ∨ action = .cancel id →
      Turn plan system action none
        { system with bell, callers := system.callers.insert id { caller with point }, journal }
  | waited {id caller queue point} :
      system.callers.find? id = some caller →
      caller.point.held? = none → point.held? = none →
      system.queue.take = (none, queue) →
      Turn plan system (.advance id) none
        { system with queue, callers := system.callers.insert id { caller with point } }
  | took {id caller work queue bell} :
      system.callers.find? id = some caller →
      caller.point.held? = none →
      system.queue.take = (some work, queue) →
      Turn plan system (.advance id) (some (.handed id work))
        { system with
          queue
          bell
          callers := system.callers.insert id { caller with point := .holding work .handed } }
  /-- A caller takes an item away with it. -/
  | carried {id caller work queue bell} :
      system.callers.find? id = some caller → caller.role = .taker →
      system.queue.take = (some work, queue) →
      Turn plan system (.advance id) (some (.handed id work))
        { system with
          queue
          bell
          callers := system.callers.insert id { caller with point := .left (some work) } }
  | looked {id caller work} :
      system.callers.find? id = some caller →
      caller.point.held? = some (work, .handed) →
      Turn plan system (.advance id) (some (.looked id work (system.cache.get? work.key)))
        { system with
          callers := system.callers.insert id
            { caller with point := .holding work (.looked (system.cache.get? work.key)) } }
  | called {id caller work current} :
      system.callers.find? id = some caller →
      caller.point.held? = some (work, .looked current) →
      Turn plan system (.advance id) (some (.called id work))
        { system with
          callers := system.callers.insert id
            { caller with point := .holding work (.opening plan work current) } }
  /-- The handler goes on, or ends. -/
  | handled {id caller work stage next resumes journal world} :
      system.callers.find? id = some caller →
      caller.point.held? = some (work, stage) → stage.Goes plan work next →
      Turn plan system (.advance id) none
        { system with
          callers := system.callers.insert id
            { caller with point := .holding work next, resumes }
          journal
          world }
  | concluded {id caller work outcome journal} :
      system.callers.find? id = some caller →
      caller.point.held? = some (work, .concluded outcome) →
      Turn plan system (.advance id) none
        { system with
          callers := system.callers.insert id
            { caller with point := .holding work (.settling outcome) }
          journal }
  | forgot {id caller work} :
      system.callers.find? id = some caller →
      caller.point.held? = some (work, .forgetting) →
      Turn plan system (.advance id) none
        { system with
          limiter := system.limiter.forget work.key
          callers := system.callers.insert id { caller with point := .holding work .releasing } }
  | released {id caller work bell} :
      system.callers.find? id = some caller →
      caller.point.held? = some (work, .releasing) →
      Turn plan system (.advance id) none
        { system with
          queue := system.queue.release work.key
          bell
          callers := system.callers.insert id { caller with point := caller.rest work } }
  | yielded {id caller work failure bell} :
      system.callers.find? id = some caller →
      caller.point.held? = some (work, .yielding failure) →
      Turn plan system (.advance id) none
        { system with
          queue := system.queue.release work.key
          bell
          callers := system.callers.insert id
            { caller with point := .holding work (.weighing failure) } }
  | granted {id caller work failure delay limiter} :
      system.callers.find? id = some caller →
      caller.point.held? = some (work, .weighing failure) →
      system.limiter.fail plan.backoff work.key = (.retry delay, limiter) →
      Turn plan system (.advance id) none
        { system with
          limiter
          callers := system.callers.insert id
            { caller with point := .holding work (.delaying failure delay) } }
  | dropped {id caller work failure attempts limiter journal} :
      system.callers.find? id = some caller →
      caller.point.held? = some (work, .weighing failure) →
      system.limiter.fail plan.backoff work.key = (.drop attempts, limiter) →
      Turn plan system (.advance id) none
        { system with
          limiter
          callers := system.callers.insert id { caller with point := caller.rest work }
          journal }
  | returned {id caller work failure delay bell} :
      system.callers.find? id = some caller →
      caller.point.held? = some (work, .delaying failure delay) → delay.nanos = 0 →
      Turn plan system (.advance id) (some (.returned work))
        { system with
          queue := system.queue.add work
          bell
          callers := system.callers.insert id
            { caller with point := .holding work (.noting failure delay) } }
  | delayed {id caller work failure delay} :
      system.callers.find? id = some caller →
      caller.point.held? = some (work, .delaying failure delay) → delay.nanos ≠ 0 →
      system.queue.closed = false →
      Turn plan system (.advance id) none
        { system with
          delayed := system.delayed.insert system.issued ⟨system.now + delay.wait, work⟩
          issued := system.issued + 1
          callers := system.callers.insert id
            { caller with point := .holding work (.noting failure delay) } }
  | refused {id caller work failure delay} :
      system.callers.find? id = some caller →
      caller.point.held? = some (work, .delaying failure delay) → delay.nanos ≠ 0 →
      system.queue.closed = true →
      Turn plan system (.advance id) none
        { system with
          callers := system.callers.insert id
            { caller with point := .holding work (.noting failure delay) } }
  | noted {id caller work failure delay journal} :
      system.callers.find? id = some caller →
      caller.point.held? = some (work, .noting failure delay) →
      Turn plan system (.advance id) none
        { system with
          callers := system.callers.insert id { caller with point := caller.rest work }
          journal }

/-! ## Every step is one of them -/

variable {plan : Plan α ω} {system after : System α ω} {id : Nat} {caller : Caller α ω}

theorem turn_receive (order : Enumeration α) (event : Event α) (idle : system.relay = .idle) :
    Turn plan system (.receive order event)
      (some (.refreshed (system.receive plan order event).cache))
      (system.receive plan order event) := by
  unfold receive
  cases about : event.object? with
  | none =>
      refine .received idle ?_
      simp [about]
  | some object =>
      cases identified : identify object with
      | error failure =>
          simp only [identified]
          exact .ignored idle
      | ok key =>
          simp only [identified]
          refine .received idle ?_
          intro other same
          obtain rfl : object = other := Option.some.inj (about.symm.trans same)
          exact ⟨key, identified⟩

theorem turn_passOn (passed : system.passOn plan = some after) :
    Turn plan system .passOn (system.mark? after .passOn) after := by
  unfold passOn at passed
  cases relay : system.relay with
  | idle => simp [relay] at passed
  | passing changes enqueued listing =>
      rw [relay] at passed
      cases changes with
      | cons entry changes =>
          obtain ⟨key, change⟩ := entry
          cases item : Work.ofChange? key change with
          | none =>
              simp only [item, Option.some.injEq] at passed
              rw [← passed, mark?, relay]
              simp only [item, Option.map_none]
              exact .suppressed relay item
          | some work =>
              simp only [item, Option.some.injEq] at passed
              rw [← passed, mark?, relay]
              simp only [item, Option.map_some]
              exact .announced relay item
      | nil =>
          rw [mark?, relay]
          cases listing with
          | true =>
              simp only [Option.some.injEq] at passed
              rw [← passed]
              exact .completed relay
          | false =>
              simp only [Option.some.injEq] at passed
              rw [← passed]
              exact .completed relay

theorem turn_stepCall {work : Work α} {stage : Stage α ω} {going : Call ω → Stage α ω}
    {ended : Outcome → Stage α ω} (call : Call ω)
    (found : system.callers.find? id = some caller)
    (holds : caller.point.held? = some (work, stage))
    (goesOn : ∀ rest, call.Continues rest → stage.Goes plan work (going rest))
    (ends : ∀ outcome, call = .finish outcome → stage.Goes plan work (ended outcome)) :
    Turn plan system (.advance id) none (system.stepCall id caller work going ended call) := by
  cases call with
  | finish outcome => exact .handled found holds (ends outcome rfl)
  | pause millis next =>
      show Turn plan system (.advance id) none
        { system with
          callers := system.callers.insert id
            { caller with
              point := .holding work (going next)
              resumes := system.now + millis } }
      exact .handled found holds (goesOn next (.pause millis next))
  | say line next => exact .handled found holds (goesOn next (.say line next))
  | act effect next => exact .handled found holds (goesOn _ (.act effect next _))

omit [Resource α] in
/-- An outcome goes to the journal, and its item is on its way to be settled. -/
theorem exists_conclude_eq (plan : Plan α ω) (system : System α ω) (id : Nat)
    (caller : Caller α ω) (work : Work α) (outcome : Outcome) :
    ∃ journal, system.conclude plan id caller work outcome =
      { system with
        callers := system.callers.insert id
          { caller with point := .holding work (.settling outcome) }
        journal } := by
  unfold conclude Stage.settling
  cases failureOf outcome with
  | none => cases outcome <;> exact ⟨_, rfl⟩
  | some failure =>
      simp only
      cases failure.severity <;> cases outcome <;> exact ⟨_, rfl⟩

theorem turn_conclude {work : Work α} {outcome : Outcome}
    (found : system.callers.find? id = some caller)
    (holds : caller.point.held? = some (work, .concluded outcome)) :
    Turn plan system (.advance id) none (system.conclude plan id caller work outcome) := by
  obtain ⟨journal, next⟩ := exists_conclude_eq plan system id caller work outcome
  rw [next]
  exact .concluded found holds

omit [Resource α] in
theorem decide_of_retry {limiter : Limiter} {delay : Duration} {work : Work α}
    (failure : Failure) (id : Nat) (caller : Caller α ω)
    (weighed : system.limiter.fail plan.backoff work.key = (.retry delay, limiter)) :
    system.decide plan id caller work failure =
      { system with
        limiter
        callers := system.callers.insert id
          { caller with point := .holding work (.delaying failure delay) } } := by
  simp only [decide, weigh, weighed]
  rfl

omit [Resource α] in
theorem exists_decide_of_drop {limiter : Limiter} {attempts : Nat} {work : Work α}
    (failure : Failure) (id : Nat) (caller : Caller α ω)
    (weighed : system.limiter.fail plan.backoff work.key = (.drop attempts, limiter)) :
    ∃ journal, system.decide plan id caller work failure =
      { system with
        limiter
        callers := system.callers.insert id { caller with point := caller.rest work }
        journal } := by
  simp only [decide, weigh, weighed, finishRound_eq]
  exact ⟨_, rfl⟩

theorem turn_decide {work : Work α} {failure : Failure}
    (found : system.callers.find? id = some caller)
    (holds : caller.point.held? = some (work, .weighing failure)) :
    Turn plan system (.advance id) none (system.decide plan id caller work failure) := by
  obtain ⟨⟨verdict, limiter⟩, weighed⟩ : ∃ result,
      system.limiter.fail plan.backoff work.key = result := ⟨_, rfl⟩
  cases verdict with
  | retry delay =>
      rw [decide_of_retry failure id caller weighed]
      exact .granted found holds weighed
  | drop attempts =>
      obtain ⟨journal, next⟩ := exists_decide_of_drop failure id caller weighed
      rw [next]
      exact .dropped found holds weighed

theorem turn_delay {work : Work α} {failure : Failure} {delay : Duration}
    (found : system.callers.find? id = some caller)
    (holds : caller.point.held? = some (work, .delaying failure delay)) :
    Turn plan system (.advance id) (if delay.nanos = 0 then some (.returned work) else none)
      ((system.schedule work delay).putStage id caller work (.noting failure delay)) := by
  unfold schedule
  by_cases now : delay.nanos = 0
  · rw [if_pos now, if_pos now]
    exact .returned found holds now
  · rw [if_neg now, if_neg now]
    cases closed : system.queue.closed with
    | true => exact .refused found holds now closed
    | false => exact .delayed found holds now closed

theorem advanceStage_looked (work : Work α) (current : Option α) :
    system.advanceStage plan id caller work (.looked current) =
      system.putStage id caller work (.opening plan work current) := by
  unfold advanceStage Stage.opening
  cases work.operation <;> cases current <;> rfl

theorem turn_advanceStage {work : Work α} {stage : Stage α ω}
    (found : system.callers.find? id = some caller)
    (holds : caller.point = .holding work stage) :
    Turn plan system (.advance id) (system.markAt id (.holding work stage))
      (system.advanceStage plan id caller work stage) := by
  have held : caller.point.held? = some (work, stage) := by rw [holds]; rfl
  cases stage with
  | handed => exact .looked found held
  | looked current =>
      rw [advanceStage_looked]
      exact .called found held
  | adopting object call =>
      refine turn_stepCall call found held (fun _ goesOn => .adopting goesOn) ?_
      rintro outcome rfl
      cases outcome with
      | succeeded => exact .adopted
      | failed failure => exact .unadopted (by simp)
      | panicked payload => exact .unadopted (by simp)
  | adopted object => exact .handled found held .begun
  | syncing call =>
      refine turn_stepCall call found held (fun _ goesOn => .syncing goesOn) ?_
      rintro outcome rfl
      exact .ended
  | concluded outcome => exact turn_conclude found held
  | forgetting => exact .forgot found held
  | releasing =>
      simp only [advanceStage, finishRound_eq]
      exact .released found held
  | yielding failure => exact .yielded found held
  | weighing failure => exact turn_decide found held
  | delaying failure delay => exact turn_delay found held
  | noting failure delay =>
      simp only [advanceStage, note, finishRound_eq]
      exact .noted found held

theorem turn_look {held : Bool}
    (found : system.callers.find? id = some caller) (bare : caller.point.held? = none) :
    Turn plan system (.advance id) (system.queue.take.1.map (.handed id))
      (system.look plan id caller held) := by
  unfold look
  by_cases closed : system.queue.closed = true
  · rw [if_pos closed, Queue.take_of_closed closed]
    cases caller.role <;> exact .moved found bare rfl (.inl rfl)
  rw [if_neg closed]
  cases taken : system.queue.take with
  | mk answer queue =>
      cases answer with
      | none => cases held <;> exact .waited found bare rfl taken
      | some work =>
          cases role : caller.role with
          | worker => exact .took found bare taken
          | single => exact .took found bare taken
          | taker => exact .carried found role taken

theorem advance_of_holding {work : Work α} {stage : Stage α ω}
    (found : system.callers.find? id = some caller) (holds : caller.point = .holding work stage) :
    system.advance plan id =
      if system.now < caller.resumes then none
      else some (system.advanceStage plan id caller work stage) := by
  simp only [advance, found, holds]

theorem turn_advance (advanced : system.advance plan id = some after) :
    Turn plan system (.advance id) (system.mark? after (.advance id)) after := by
  unfold advance at advanced
  cases found : system.callers.find? id with
  | none => simp [found] at advanced
  | some caller =>
      have marked : system.mark? after (.advance id) = system.markAt id caller.point := by
        rw [mark?, found]
        rfl
      rw [marked]
      simp only [found] at advanced
      split at advanced
      · simp at advanced
      cases point : caller.point with
      | arriving | returning =>
          simp only [point, Option.some.injEq] at advanced
          rw [← advanced]
          exact .moved found (by rw [point]; rfl) rfl (.inl rfl)
      | checking held =>
          simp only [point, Option.some.injEq] at advanced
          rw [← advanced]
          exact turn_look found (by rw [point]; rfl)
      | asleep =>
          simp only [point] at advanced
          split at advanced
          · simp at advanced
          · simp only [Option.some.injEq] at advanced
            rw [← advanced]
            exact .moved found (by rw [point]; rfl) rfl (.inl rfl)
      | holding work stage =>
          simp only [point, Option.some.injEq] at advanced
          rw [← advanced]
          exact turn_advanceStage found point
      | left work => simp [point] at advanced

theorem turn_cancel (cancelled : system.cancel id = some after) :
    Turn plan system (.cancel id) none after := by
  unfold cancel at cancelled
  split at cancelled
  · simp at cancelled
  next caller found =>
    split at cancelled
    next point =>
      simp only [Option.some.injEq] at cancelled
      rw [← cancelled]
      exact .moved found (by rw [point]; rfl) rfl (.inr rfl)
    · simp at cancelled

theorem turn_fire {ticket : Nat} (fired : system.fire ticket = some after) :
    Turn plan system (.fire ticket) (system.mark? after (.fire ticket)) after := by
  unfold fire at fired
  cases found : system.delayed.find? ticket with
  | none => simp [found] at fired
  | some delayed =>
      simp only [found] at fired
      split at fired
      · simp only [Option.some.injEq] at fired
        rw [← fired, mark?, found]
        exact .fired found
      · simp at fired

/-- Every step that happens while a controller runs is one of the rules. -/
theorem turn_of_act {admits : Event α → Prop} {action : Action α ω}
    (occurs : action.Occurs admits) (acted : system.act plan action = some after) :
    Turn plan system action (system.mark? after action) after := by
  cases action with
  | receive order event =>
      cases idle : system.relay with
      | idle =>
          simp only [act, idle, Option.some.injEq] at acted
          rw [← acted]
          exact turn_receive order event idle
      | passing changes enqueued listing => simp [act, idle] at acted
  | receiveFailure failure =>
      cases idle : system.relay with
      | idle =>
          simp only [act, idle, Option.some.injEq] at acted
          rw [← acted]
          exact .quiet (by simp) (by simp)
      | passing changes enqueued listing => simp [act, idle] at acted
  | passOn => exact turn_passOn acted
  | enter id role =>
      obtain rfl : role = .worker := occurs
      simp only [act] at acted
      split at acted
      · simp at acted
      next absent =>
        simp only [Option.some.injEq] at acted
        rw [← acted]
        exact .entered (by simpa [Table.contains] using absent)
  | advance id => exact turn_advance acted
  | cancel id => exact turn_cancel acted
  | fire ticket => exact turn_fire acted
  | close =>
      obtain rfl := Option.some.inj acted
      exact .closed
  | wakeAll =>
      obtain rfl := Option.some.inj acted
      exact .quiet (by simp) (by simp)
  | alter effect =>
      obtain rfl := Option.some.inj acted
      exact .quiet (by simp) (by simp)
  | elapse millis =>
      obtain rfl := Option.some.inj acted
      exact .quiet (by simp) (by simp)
  | enterWith id work => exact occurs.elim
  | submit work => exact occurs.elim
  | schedule work delay => exact occurs.elim
  | release key => exact occurs.elim
  | forget key => exact occurs.elim
  | weigh key => exact occurs.elim

/-- What holds at the start and is kept by every rule holds in every run. -/
theorem Runs.keeps {admits : Event α → Prop} {history : List (Mark α)} {motive : System α ω → Prop}
    (begins : ∀ world, motive { world })
    (goesOn : ∀ {before action mark after}, motive before → Turn plan before action mark after →
      motive after)
    (run : Runs plan admits history system) : motive system := by
  induction run with
  | start world => exact begins world
  | step run occurs acted ih => exact goesOn ih (turn_of_act occurs acted)

end System

end Reconciler
