import Reconciler.Pod
import Reconciler.Proofs.Course

/-!
# How an item is settled

An item that was handed out is reconciled, and the outcome decides how it is settled: its
failures are forgotten, or it comes back, or it is dropped.  This file follows one caller
with its item while nobody else does anything.  Whatever the handler does, the caller
comes to the end of its item.  Then the key of the item is released, what was parked for
it is ready, the item came back exactly if a retry was decided, and nothing changed for
any other key.

The argument goes from stage to stage.  What is left to call leads to the same outcome at
every stage of the handler, and the books of the controller are those of the start until
the outcome is known.
-/

namespace Reconciler

variable {α ω : Type}

/-! ## What a reconciliation leads to -/

/-- The surroundings after a call that nobody interferes with, and its outcome. -/
def Call.ending (call : Call ω) (world : ω) : ω × Outcome :=
  ((call.runAlone world).1, (call.runAlone world).2.2)

/-- The calls of the handler for an item, given what the cache held.  An object that was
seen for the first time is adopted before it is reconciled. -/
def Plan.reconciliation (plan : Plan α ω) (work : Work α) (current : Option α) : Call ω :=
  let reconcile := plan.handler.sync work.key work.operation current work.prior
  match work.operation, current with
  | .add, some object => (plan.handler.adopt work.key object).andThen reconcile
  | _, _ => reconcile

/-- What is left to call for an item in a stage, if its outcome is not settled yet;
`current` is what the cache holds. -/
def Stage.remaining? (plan : Plan α ω) (work : Work α) (current : Option α) :
    Stage α ω → Option (Call ω)
  | .handed => some (plan.reconciliation work current)
  | .looked found => some (plan.reconciliation work found)
  | .adopting object call =>
      some (call.andThen (plan.handler.sync work.key work.operation (some object) work.prior))
  | .adopted object =>
      some (plan.handler.sync work.key work.operation (some object) work.prior)
  | .syncing call => some call
  | .concluded outcome => some (.finish outcome)
  | _ => none

theorem Stage.remaining?_opening (plan : Plan α ω) (work : Work α) (current found : Option α) :
    (Stage.opening plan work found).remaining? plan work current =
      some (plan.reconciliation work found) := by
  obtain ⟨key, operation, prior⟩ := work
  cases operation <;> cases found <;> rfl

/-- What is decided about an item after an outcome, given the failures in a row of its
key.  Nothing is decided unless the failure may pass. -/
def Backoff.ruling? (backoff : Backoff) (failures : Nat) (outcome : Outcome) : Option Verdict :=
  match System.failureOf outcome with
  | none => none
  | some failure =>
      match failure.severity with
      | .transient => some (Limiter.verdict backoff failures)
      | _ => none

theorem Stage.settling_cases (backoff : Backoff) (failures : Nat) (outcome : Outcome) :
    (Stage.settling outcome = (.forgetting : Stage α ω) ∧
        backoff.ruling? failures outcome = none) ∨
      ∃ failure, Stage.settling outcome = (.yielding failure : Stage α ω) ∧
        backoff.ruling? failures outcome = some (Limiter.verdict backoff failures) := by
  unfold settling Backoff.ruling?
  cases System.failureOf outcome with
  | none => exact .inl ⟨rfl, rfl⟩
  | some failure =>
      cases severity : failure.severity with
      | transient => exact .inr ⟨failure, by simp only [severity], by simp only [severity]⟩
      | notFound | malformed => exact .inl ⟨by simp only [severity], by simp only [severity]⟩

/-! ## The books of a controller -/

/-- What a controller keeps about its items. -/
structure Books (α : Type) where
  queue : Queue α
  limiter : Limiter
  delayed : Table Nat (Delayed α)
  issued : Nat

namespace Books

def release (books : Books α) (key : Key) : Books α :=
  { books with queue := books.queue.release key }

def weigh (books : Books α) (backoff : Backoff) (key : Key) : Books α :=
  { books with limiter := (books.limiter.fail backoff key).2 }

/-- The books after an item comes back, at once or after a delay. -/
def postpone (books : Books α) (work : Work α) (delay : Duration) (now : Nat) : Books α :=
  if delay.nanos = 0 then { books with queue := books.queue.add work }
  else
    { books with
      delayed := books.delayed.insert books.issued ⟨now + delay.wait, work⟩
      issued := books.issued + 1 }

/-- The books after an item is settled as it was decided. -/
def settle (books : Books α) (backoff : Backoff) (work : Work α) (now : Nat) :
    Option Verdict → Books α
  | none => { books with limiter := books.limiter.forget work.key }.release work.key
  | some (.drop _) => (books.release work.key).weigh backoff work.key
  | some (.retry delay) =>
      ((books.release work.key).weigh backoff work.key).postpone work delay now

end Books

namespace System

def books (system : System α ω) : Books α :=
  ⟨system.queue, system.limiter, system.delayed, system.issued⟩

variable [Resource α]

/-- A caller goes on with its item until it has done with it, and nobody else does
anything.  Time passes. -/
inductive Alone (plan : Plan α ω) (id : Nat) (start : System α ω) : System α ω → Prop
  | start : Alone plan id start start
  | advance {system after : System α ω} {caller : Caller α ω} {work : Work α}
      {stage : Stage α ω} :
      Alone plan id start system → system.callers.find? id = some caller →
      caller.point = .holding work stage → system.act plan (.advance id) = some after →
      Alone plan id start after
  | elapse {system after : System α ω} {millis : Nat} :
      Alone plan id start system → system.act plan (.elapse millis) = some after →
      Alone plan id start after

theorem Alone.trans {plan : Plan α ω} {id : Nat} {start system after : System α ω}
    (first : Alone plan id start system) (second : Alone plan id system after) :
    Alone plan id start after := by
  induction second with
  | start => exact first
  | advance _ found holds acted ih => exact ih.advance found holds acted
  | elapse _ acted ih => exact ih.elapse acted

/-! ## From stage to stage -/

/-- How far a caller has come with its item since the start, given what its reconciliation
leads to: where it stands, and what became of the books. -/
inductive Reached (plan : Plan α ω) (caller : Caller α ω) (work : Work α) (start : System α ω)
    (ending : ω × Outcome) (system : System α ω) : Point α ω → Prop
  | handling {stage : Stage α ω} {call : Call ω} :
      stage.remaining? plan work (start.cache.get? work.key) = some call →
      call.ending system.world = ending → system.books = start.books →
      Reached plan caller work start ending system (.holding work stage)
  | forgetting :
      plan.backoff.ruling? (start.limiter.failures work.key) ending.2 = none →
      system.world = ending.1 → system.books = start.books →
      Reached plan caller work start ending system (.holding work .forgetting)
  | releasing :
      plan.backoff.ruling? (start.limiter.failures work.key) ending.2 = none →
      system.world = ending.1 →
      system.books = { start.books with limiter := start.limiter.forget work.key } →
      Reached plan caller work start ending system (.holding work .releasing)
  | yielding {failure : Failure} :
      plan.backoff.ruling? (start.limiter.failures work.key) ending.2 =
        some (start.limiter.fail plan.backoff work.key).1 →
      system.world = ending.1 → system.books = start.books →
      Reached plan caller work start ending system (.holding work (.yielding failure))
  | weighing {failure : Failure} :
      plan.backoff.ruling? (start.limiter.failures work.key) ending.2 =
        some (start.limiter.fail plan.backoff work.key).1 →
      system.world = ending.1 → system.books = start.books.release work.key →
      Reached plan caller work start ending system (.holding work (.weighing failure))
  | delaying {failure : Failure} {delay : Duration} :
      plan.backoff.ruling? (start.limiter.failures work.key) ending.2 = some (.retry delay) →
      system.world = ending.1 →
      system.books = (start.books.release work.key).weigh plan.backoff work.key →
      Reached plan caller work start ending system (.holding work (.delaying failure delay))
  | noting {failure : Failure} {delay : Duration} {time : Nat} :
      plan.backoff.ruling? (start.limiter.failures work.key) ending.2 = some (.retry delay) →
      system.world = ending.1 → start.now ≤ time → time ≤ system.now →
      system.books = start.books.settle plan.backoff work time (some (.retry delay)) →
      Reached plan caller work start ending system (.holding work (.noting failure delay))
  | settled {point : Point α ω} {time : Nat} :
      point = caller.rest work → system.world = ending.1 → start.now ≤ time → time ≤ system.now →
      system.books = start.books.settle plan.backoff work time
        (plan.backoff.ruling? (start.limiter.failures work.key) ending.2) →
      Reached plan caller work start ending system point

/-- What holds while a caller goes on with its item alone. -/
structure Underway (plan : Plan α ω) (id : Nat) (caller : Caller α ω) (work : Work α)
    (start : System α ω) (ending : ω × Outcome) (system : System α ω) : Prop where
  cache : system.cache = start.cache
  relay : system.relay = start.relay
  later : start.now ≤ system.now
  elsewhere : ∀ other, other ≠ id → system.callers.find? other = start.callers.find? other
  stands : ∃ next, system.callers.find? id = some next ∧ next.role = caller.role ∧
    Reached plan caller work start ending system next.point

/-- A caller goes on to a stage that follows, or has done with its item. -/
inductive Proceeds (plan : Plan α ω) (caller : Caller α ω) (work : Work α) (stage : Stage α ω) :
    Point α ω → Prop
  | next {following : Stage α ω} :
      following.Follows plan work stage → Proceeds plan caller work stage (.holding work following)
  | rest : Proceeds plan caller work stage (caller.rest work)

variable {plan : Plan α ω} {id : Nat} {caller next : Caller α ω} {work : Work α}
  {start system after : System α ω} {ending : ω × Outcome} {stage : Stage α ω}

omit [Resource α] in
theorem rest_of_role (same : next.role = caller.role) : next.rest work = caller.rest work := by
  rw [Caller.rest, Caller.rest, same]

omit [Resource α] in
theorem Underway.moved {point : Point α ω} {resumes : Nat}
    (underway : Underway plan id caller work start ending system)
    (role : next.role = caller.role)
    (callers : after.callers = system.callers.insert id { next with point, resumes })
    (same : after.cache = system.cache ∧ after.relay = system.relay ∧ after.now = system.now)
    (proceeds : Proceeds plan caller work stage point)
    (reached : Reached plan caller work start ending after point) :
    Underway plan id caller work start ending after ∧
      ∃ next, after.callers.find? id = some next ∧
        Proceeds plan caller work stage next.point := by
  obtain ⟨cache, relay, now⟩ := same
  have found : after.callers.find? id = some { next with point, resumes } := by
    rw [callers, Table.find?_insert, if_pos rfl]
  refine ⟨⟨cache.trans underway.cache, relay.trans underway.relay, now ▸ underway.later, ?_,
    _, found, role, reached⟩, _, found, proceeds⟩
  intro other apart
  rw [callers, Table.find?_insert, if_neg (Ne.symm apart)]
  exact underway.elsewhere other apart

omit [Resource α] in
/-- A step of a call ends it, or leaves a rest that leads to the same end, also if another
call follows. -/
theorem stepCall_cases {going : Call ω → Stage α ω} {ended : Outcome → Stage α ω} {call : Call ω}
    (stepped : system.stepCall id caller work going ended call = after) :
    (∃ outcome, call = .finish outcome ∧
        after = system.putStage id caller work (ended outcome)) ∨
      ∃ rest resumes journal world, call.Continues rest ∧
        after =
          { system with
            callers := system.callers.insert id
              { caller with point := .holding work (going rest), resumes }
            journal
            world } ∧
        rest.ending world = call.ending system.world ∧
        ∀ following, (rest.andThen following).ending world =
          (call.andThen following).ending system.world := by
  subst stepped
  cases call with
  | finish outcome => exact .inl ⟨outcome, rfl, rfl⟩
  | pause millis next =>
      exact .inr ⟨next, _, _, _, .pause millis next, rfl, rfl, fun _ => rfl⟩
  | say line next =>
      exact .inr ⟨next, caller.resumes, _, _, .say line next, rfl, rfl, fun _ => rfl⟩
  | act effect next =>
      exact .inr ⟨next system.world, caller.resumes, _, _, .act effect next system.world, rfl, rfl,
        fun _ => rfl⟩

/-- The handler goes on with an item towards the same end. -/
theorem Underway.handled {call : Call ω}
    (underway : Underway plan id caller work start ending system)
    (role : next.role = caller.role) (handling : stage.Handling)
    (remains : stage.remaining? plan work (start.cache.get? work.key) = some call)
    (leads : call.ending system.world = ending) (books : system.books = start.books)
    (advanced : system.advanceStage plan id next work stage = after) :
    Underway plan id caller work start ending after ∧
      ∃ next, after.callers.find? id = some next ∧
        Proceeds plan caller work stage next.point := by
  cases handling with
  | adopting object call =>
      obtain rfl := Option.some.inj remains
      rcases stepCall_cases advanced with
        ⟨outcome, rfl, rfl⟩ | ⟨rest, resumes, journal, world, continues, rfl, -, same⟩
      · cases outcome with
        | succeeded =>
            exact underway.moved role rfl ⟨rfl, rfl, rfl⟩ (.next (.handled .adopted))
              (.handling rfl leads books)
        | failed | panicked =>
            exact underway.moved role rfl ⟨rfl, rfl, rfl⟩ (.next (.handled (.unadopted (by simp))))
              (.handling rfl leads books)
      · exact underway.moved role rfl ⟨rfl, rfl, rfl⟩ (.next (.handled (.adopting continues)))
          (.handling rfl ((same _).trans leads) books)
  | adopted object =>
      subst advanced
      exact underway.moved role rfl ⟨rfl, rfl, rfl⟩ (.next (.handled .begun))
        (.handling remains leads books)
  | syncing call =>
      obtain rfl := Option.some.inj remains
      rcases stepCall_cases advanced with
        ⟨outcome, rfl, rfl⟩ | ⟨rest, resumes, journal, world, continues, rfl, same, -⟩
      · exact underway.moved role rfl ⟨rfl, rfl, rfl⟩ (.next (.handled .ended))
          (.handling rfl leads books)
      · exact underway.moved role rfl ⟨rfl, rfl, rfl⟩ (.next (.handled (.syncing continues)))
          (.handling rfl (same.trans leads) books)

omit [Resource α] in
theorem Underway.concluded {outcome : Outcome}
    (underway : Underway plan id caller work start ending system)
    (role : next.role = caller.role) (leads : (system.world, outcome) = ending)
    (books : system.books = start.books) :
    Underway plan id caller work start ending (system.conclude plan id next work outcome) ∧
      ∃ moved, (system.conclude plan id next work outcome).callers.find? id = some moved ∧
        Proceeds plan caller work (.concluded outcome) moved.point := by
  subst leads
  obtain ⟨journal, concludes⟩ := exists_conclude_eq plan system id next work outcome
  rw [concludes]
  refine underway.moved role rfl ⟨rfl, rfl, rfl⟩ (.next .concluded) ?_
  rcases Stage.settling_cases plan.backoff (start.limiter.failures work.key) outcome with
    ⟨settles, rules⟩ | ⟨failure, settles, rules⟩
  · rw [settles]
    exact .forgetting rules rfl books
  · rw [settles]
    rw [← Limiter.fail_fst] at rules
    exact .yielding rules rfl books

omit [Resource α] in
/-- The decision about a failed item is that about the failures at the start. -/
theorem Underway.weighed {failure : Failure}
    (underway : Underway plan id caller work start ending system)
    (role : next.role = caller.role)
    (rules : plan.backoff.ruling? (start.limiter.failures work.key) ending.2 =
      some (start.limiter.fail plan.backoff work.key).1)
    (world : system.world = ending.1) (books : system.books = start.books.release work.key)
    (decided : system.decide plan id next work failure = after) :
    Underway plan id caller work start ending after ∧
      ∃ next, after.callers.find? id = some next ∧
        Proceeds plan caller work (.weighing failure) next.point := by
  have limiter : system.limiter = start.limiter := congrArg Books.limiter books
  obtain ⟨⟨verdict, counted⟩, weighed⟩ : ∃ result,
      system.limiter.fail plan.backoff work.key = result := ⟨_, rfl⟩
  have kept : { system.books with limiter := counted } =
      (start.books.release work.key).weigh plan.backoff work.key := by
    rw [books, Books.weigh]
    change _ = { start.books.release work.key with
      limiter := (start.limiter.fail plan.backoff work.key).2 }
    rw [← limiter, weighed]
  have decision : plan.backoff.ruling? (start.limiter.failures work.key) ending.2 =
      some verdict := by
    rw [rules, ← limiter, weighed]
  cases verdict with
  | retry delay =>
      rw [decide_of_retry failure id next weighed] at decided
      subst decided
      exact underway.moved role rfl ⟨rfl, rfl, rfl⟩ (.next .granted) (.delaying decision world kept)
  | drop attempts =>
      obtain ⟨journal, dropped⟩ := exists_decide_of_drop failure id next weighed
      rw [dropped, rest_of_role role] at decided
      subst decided
      refine underway.moved role rfl ⟨rfl, rfl, rfl⟩ .rest
        (.settled rfl world underway.later (Nat.le_refl _) ?_)
      rw [decision]
      exact kept

omit [Resource α] in
theorem Underway.delayed {failure : Failure} {delay : Duration}
    (isOpen : start.queue.closed = false)
    (underway : Underway plan id caller work start ending system)
    (role : next.role = caller.role)
    (rules : plan.backoff.ruling? (start.limiter.failures work.key) ending.2 = some (.retry delay))
    (world : system.world = ending.1)
    (books : system.books = (start.books.release work.key).weigh plan.backoff work.key)
    (scheduled : (system.schedule work delay).putStage id next work (.noting failure delay) =
      after) :
    Underway plan id caller work start ending after ∧
      ∃ next, after.callers.find? id = some next ∧
        Proceeds plan caller work (.delaying failure delay) next.point := by
  have stillOpen : system.queue.closed = false := by
    have queue : system.queue = start.queue.release work.key := congrArg Books.queue books
    rw [queue]
    exact isOpen
  have comes : (system.schedule work delay).books =
      start.books.settle plan.backoff work system.now (some (.retry delay)) := by
    rw [schedule, Books.settle, ← books, Books.postpone]
    split
    · rfl
    · rw [if_neg (by simp [stillOpen])]
      rfl
  have same : (system.schedule work delay).callers = system.callers ∧
      (system.schedule work delay).cache = system.cache ∧
      (system.schedule work delay).relay = system.relay ∧
      (system.schedule work delay).now = system.now ∧
      (system.schedule work delay).world = system.world := by
    unfold schedule
    repeat' split
    all_goals exact ⟨rfl, rfl, rfl, rfl, rfl⟩
  obtain ⟨callers, cache, relay, now, around⟩ := same
  have goesOn : after.callers = system.callers.insert id
      { next with point := .holding work (.noting failure delay), resumes := next.resumes } := by
    rw [← scheduled, ← callers]
    rfl
  subst scheduled
  exact underway.moved role goesOn ⟨cache, relay, now⟩ (.next .noted)
    (.noting rules (around.trans world) underway.later now.ge comes)

theorem Underway.advance (isOpen : start.queue.closed = false)
    (underway : Underway plan id caller work start ending system)
    (found : system.callers.find? id = some next) (holds : next.point = .holding work stage)
    (acted : system.act plan (.advance id) = some after) :
    Underway plan id caller work start ending after ∧
      ∃ next, after.callers.find? id = some next ∧
        Proceeds plan caller work stage next.point := by
  obtain ⟨stands, finds, role, reached⟩ := underway.stands
  obtain rfl := Option.some.inj (found.symm.trans finds)
  have acted : (if system.now < next.resumes then none
      else some (system.advanceStage plan id next work stage)) = some after := by
    rw [← advance_of_holding found holds]
    exact acted
  split at acted
  · cases acted
  have advanced := Option.some.inj acted
  rw [holds] at reached
  cases reached with
  | handling remains leads books =>
      cases stage with
      | handed =>
          subst advanced
          refine underway.moved role rfl ⟨rfl, rfl, rfl⟩ (.next .looked) (.handling ?_ leads books)
          rw [underway.cache]
          exact remains
      | looked current =>
          rw [advanceStage_looked] at advanced
          subst advanced
          refine underway.moved role rfl ⟨rfl, rfl, rfl⟩ (.next .called) (.handling ?_ leads books)
          rw [Stage.remaining?_opening]
          exact remains
      | adopting object call =>
          exact underway.handled role (.adopting _ _) remains leads books advanced
      | adopted object => exact underway.handled role (.adopted _) remains leads books advanced
      | syncing call => exact underway.handled role (.syncing _) remains leads books advanced
      | concluded outcome =>
          obtain rfl := Option.some.inj remains
          subst advanced
          exact underway.concluded role leads books
      | _ => cases remains
  | forgetting rules world books =>
      subst advanced
      refine underway.moved role rfl ⟨rfl, rfl, rfl⟩ (.next .forgot) (.releasing rules world ?_)
      change { system.books with limiter := system.books.limiter.forget work.key } = _
      rw [books]
      rfl
  | releasing rules world books =>
      simp only [advanceStage, finishRound_eq, rest_of_role role] at advanced
      subst advanced
      refine underway.moved role rfl ⟨rfl, rfl, rfl⟩ .rest
        (.settled rfl world underway.later (Nat.le_refl _) ?_)
      change system.books.release work.key = _
      rw [books, rules]
      rfl
  | yielding rules world books =>
      subst advanced
      refine underway.moved role rfl ⟨rfl, rfl, rfl⟩ (.next .yielded) (.weighing rules world ?_)
      change system.books.release work.key = _
      rw [books]
  | weighing rules world books => exact underway.weighed role rules world books advanced
  | delaying rules world books => exact underway.delayed isOpen role rules world books advanced
  | noting rules world earlier later books =>
      simp only [advanceStage, note, finishRound_eq, rest_of_role role] at advanced
      subst advanced
      refine underway.moved role rfl ⟨rfl, rfl, rfl⟩ .rest (.settled rfl world earlier later ?_)
      rw [rules]
      exact books
  | settled rest =>
      have bare := Point.held?_rest caller work
      rw [← rest] at bare
      cases bare

/-! ## To the end -/

omit [Resource α] in
theorem Reached.later {point : Point α ω}
    (reached : Reached plan caller work start ending system point)
    (world : after.world = system.world) (books : after.books = system.books)
    (now : system.now ≤ after.now) : Reached plan caller work start ending after point := by
  cases reached with
  | handling remains leads kept => exact .handling remains (world ▸ leads) (books.trans kept)
  | forgetting rules around kept => exact .forgetting rules (world.trans around) (books.trans kept)
  | releasing rules around kept => exact .releasing rules (world.trans around) (books.trans kept)
  | yielding rules around kept => exact .yielding rules (world.trans around) (books.trans kept)
  | weighing rules around kept => exact .weighing rules (world.trans around) (books.trans kept)
  | delaying rules around kept => exact .delaying rules (world.trans around) (books.trans kept)
  | noting rules around early late kept =>
      exact .noting rules (world.trans around) early (late.trans now) (books.trans kept)
  | settled rest around early late kept =>
      exact .settled rest (world.trans around) early (late.trans now) (books.trans kept)

omit [Resource α] in
theorem Reached.holding_or_rest {point : Point α ω}
    (reached : Reached plan caller work start ending system point) :
    (∃ stage, point = .holding work stage) ∨ point = caller.rest work := by
  cases reached with
  | settled rest => exact .inr rest
  | _ => exact .inl ⟨_, rfl⟩

theorem Underway.elapse {millis : Nat}
    (underway : Underway plan id caller work start ending system)
    (acted : system.act plan (.elapse millis) = some after) :
    Underway plan id caller work start ending after := by
  obtain ⟨cache, relay, later, elsewhere, next, found, role, reached⟩ := underway
  obtain rfl := Option.some.inj acted
  have passes : system.now ≤ system.now + millis := Nat.le_add_right _ _
  exact ⟨cache, relay, later.trans passes, elsewhere, next, found, role,
    reached.later rfl rfl passes⟩

theorem Alone.underway (isOpen : start.queue.closed = false)
    (begins : Underway plan id caller work start ending start)
    (alone : Alone plan id start system) : Underway plan id caller work start ending system := by
  induction alone with
  | start => exact begins
  | advance _ found holds acted ih =>
      obtain ⟨next, finds, -, reached⟩ := ih.stands
      obtain rfl := Option.some.inj (found.symm.trans finds)
      obtain ⟨stage, holdsOwn⟩ | rest := reached.holding_or_rest
      · exact (ih.advance isOpen found holdsOwn acted).1
      · have bare := Point.held?_rest caller work
        rw [← rest, holds] at bare
        cases bare
  | elapse _ acted ih => exact ih.elapse acted

/-- Whoever holds an item can go on, if need be after a while. -/
theorem exists_elapse_advance (plan : Plan α ω) (found : system.callers.find? id = some next)
    (holds : next.point = .holding work stage) :
    ∃ millis waited after, system.act plan (.elapse millis) = some waited ∧
      waited.callers.find? id = some next ∧ waited.act plan (.advance id) = some after := by
  let waited := { system with now := system.now + (next.resumes - system.now) }
  have finds : waited.callers.find? id = some next := found
  have awake : ¬waited.now < next.resumes := by
    change ¬system.now + (next.resumes - system.now) < next.resumes
    omega
  refine ⟨next.resumes - system.now, waited, waited.advanceStage plan id next work stage, rfl,
    finds, ?_⟩
  exact (advance_of_holding finds holds).trans (if_neg awake)

/-- Whatever the caller has done, it comes to the end of its item. -/
theorem Underway.exists_rest (isOpen : start.queue.closed = false)
    (underway : Underway plan id caller work start ending system) :
    ∃ after next, Alone plan id system after ∧ after.callers.find? id = some next ∧
      next.point = caller.rest work := by
  obtain ⟨next, found, -, reached⟩ := underway.stands
  obtain ⟨stage, holds⟩ | rest := reached.holding_or_rest
  · clear reached
    induction stage.ends plan work generalizing system next with
    | intro stage _ ih =>
        obtain ⟨millis, waited, moved, waits, finds, moves⟩ :=
          exists_elapse_advance plan found holds
        have goesOn : Alone plan id system moved :=
          (Alone.start.elapse waits).advance finds holds moves
        obtain ⟨underway, reached, foundThere, proceeds⟩ :=
          (underway.elapse waits).advance isOpen finds holds moves
        generalize stands : reached.point = point at proceeds
        cases proceeds with
        | next follows =>
            obtain ⟨after, last, rest, ends⟩ := ih _ follows underway reached foundThere stands
            exact ⟨after, last, goesOn.trans rest, ends⟩
        | rest => exact ⟨moved, reached, goesOn, foundThere, stands⟩
  · exact ⟨system, next, .start, found, rest⟩

/-! ## What has become of the books -/

/-- What has become of an item and of what was parked for its key, given what was decided
about the item: nothing more, or it joined what was parked, or it waits for its time. -/
inductive Fate (work : Work α) (before after : System α ω) : Option Verdict → Prop
  | forgotten :
      after.limiter.failures work.key = 0 →
      after.queue.pending.find? work.key = before.queue.pending.find? work.key →
      after.delayed = before.delayed → Fate work before after none
  | dropped {attempts : Nat} :
      after.limiter.failures work.key = 0 →
      after.queue.pending.find? work.key = before.queue.pending.find? work.key →
      after.delayed = before.delayed → Fate work before after (some (.drop attempts))
  | returned {delay : Duration} :
      delay.nanos = 0 →
      after.limiter.failures work.key = before.limiter.failures work.key + 1 →
      after.queue.pending.find? work.key =
        some (work.joining (before.queue.pending.find? work.key)) →
      after.delayed = before.delayed → Fate work before after (some (.retry delay))
  | postponed {delay : Duration} {time : Nat} :
      delay.nanos ≠ 0 →
      after.limiter.failures work.key = before.limiter.failures work.key + 1 →
      after.queue.pending.find? work.key = before.queue.pending.find? work.key →
      before.now ≤ time → time ≤ after.now →
      after.delayed = before.delayed.insert before.issued ⟨time + delay.wait, work⟩ →
      Fate work before after (some (.retry delay))

/-- An item was settled as it was decided, and nothing else has changed. -/
structure Settles (work : Work α) (verdict? : Option Verdict) (before after : System α ω) :
    Prop where
  fate : Fate work before after verdict?
  released : work.key ∉ after.queue.inFlight
  /-- The key is ready again if an item is pending for it. -/
  ready : after.queue.ready = before.queue.ready ++
    if after.queue.pending.contains work.key then [work.key] else []
  inFlight : ∀ key, key ≠ work.key → (key ∈ after.queue.inFlight ↔ key ∈ before.queue.inFlight)
  pending : ∀ key, key ≠ work.key →
    after.queue.pending.find? key = before.queue.pending.find? key
  failures : ∀ key, key ≠ work.key →
    after.limiter.failures key = before.limiter.failures key
  isOpen : after.queue.closed = false
  cache : after.cache = before.cache
  relay : after.relay = before.relay

section

variable {before : System α ω} {time : Nat}

omit [Resource α]

theorem mem_inFlight_release (queue : Queue α) (key other : Key) :
    other ∈ (queue.release key).inFlight ↔ other ∈ queue.inFlight ∧ other ≠ key := by
  simp [Queue.release]

theorem ready_release {queue : Queue α} (isOpen : queue.closed = false) (key : Key) :
    (queue.release key).ready =
      queue.ready ++ if queue.pending.contains key then [key] else [] := by
  simp only [Queue.release, Queue.returns, isOpen, Bool.not_false, Bool.true_and]
  split <;> simp

theorem settles_of_released {verdict? : Option Verdict} (isOpen : before.queue.closed = false)
    (queue : after.queue = before.queue.release work.key) (fate : Fate work before after verdict?)
    (failures : ∀ key, key ≠ work.key →
      after.limiter.failures key = before.limiter.failures key)
    (cache : after.cache = before.cache) (relay : after.relay = before.relay) :
    Settles work verdict? before after where
  fate := fate
  released := by simp [queue, mem_inFlight_release]
  ready := by
    rw [queue]
    exact ready_release isOpen work.key
  inFlight key apart := by simp [queue, mem_inFlight_release, apart]
  pending key _ := by rw [queue]; rfl
  failures := failures
  isOpen := by rw [queue]; exact isOpen
  cache := cache
  relay := relay

theorem settles_of_returned {delay : Duration} (isOpen : before.queue.closed = false)
    (queue : after.queue = (before.queue.release work.key).add work) (now : delay.nanos = 0)
    (failures : ∀ key, after.limiter.failures key =
      if work.key = key then before.limiter.failures key + 1 else before.limiter.failures key)
    (delayed : after.delayed = before.delayed)
    (cache : after.cache = before.cache) (relay : after.relay = before.relay) :
    Settles work (some (.retry delay)) before after := by
  have stillOpen : (before.queue.release work.key).closed = false := isOpen
  have pending (key : Key) : after.queue.pending.find? key =
      if work.key = key then some (work.joining (before.queue.pending.find? work.key))
      else before.queue.pending.find? key := by
    rw [queue]
    exact Queue.find?_add stillOpen work key
  have inFlight (key : Key) :
      key ∈ after.queue.inFlight ↔ key ∈ before.queue.inFlight ∧ key ≠ work.key := by
    rw [queue, Queue.add_inFlight, mem_inFlight_release]
  have own := pending work.key
  rw [if_pos rfl] at own
  refine ⟨.returned now ?_ own delayed, ?_, ?_, ?_, ?_, ?_, ?_, cache, relay⟩
  · rw [failures, if_pos rfl]
  · simp [inFlight]
  · have grounded : work.key ∉ (before.queue.release work.key).inFlight := by
      simp [mem_inFlight_release]
    have contained : after.queue.pending.contains work.key = true := by
      rw [Table.contains, own]
      rfl
    rw [if_pos contained, queue, Queue.ready_add, ready_release isOpen, Table.contains]
    simp only [stillOpen, grounded, not_false_eq_true, and_true, true_and]
    change _ ++ (if before.queue.pending.find? work.key = none then _ else _) = _
    cases before.queue.pending.find? work.key <;> simp
  · intro key apart
    simp [inFlight, apart]
  · intro key apart
    rw [pending, if_neg (Ne.symm apart)]
  · intro key apart
    rw [failures, if_neg (Ne.symm apart)]
  · rw [queue, Queue.add_closed]
    exact isOpen

/-- The books say what has become of an item. -/
theorem settles_of_books {backoff : Backoff} {outcome : Outcome}
    (isOpen : before.queue.closed = false) (early : before.now ≤ time) (late : time ≤ after.now)
    (books : after.books = before.books.settle backoff work time
      (backoff.ruling? (before.limiter.failures work.key) outcome))
    (cache : after.cache = before.cache) (relay : after.relay = before.relay) :
    Settles work (backoff.ruling? (before.limiter.failures work.key) outcome) before after := by
  rcases Stage.settling_cases (α := α) (ω := ω) backoff (before.limiter.failures work.key) outcome
    with ⟨-, rules⟩ | ⟨-, -, rules⟩
  · rw [rules] at books ⊢
    have queue : after.queue = before.queue.release work.key := congrArg Books.queue books
    have limiter : after.limiter = before.limiter.forget work.key := congrArg Books.limiter books
    have delayed : after.delayed = before.delayed := congrArg Books.delayed books
    refine settles_of_released isOpen queue (.forgotten ?_ (by rw [queue]; rfl) delayed) ?_
      cache relay
    · rw [limiter, Limiter.failures_forget, if_pos rfl]
    · intro key apart
      rw [limiter, Limiter.failures_forget, if_neg (Ne.symm apart)]
  · rw [← Limiter.fail_fst] at rules
    rw [rules] at books ⊢
    obtain ⟨⟨verdict, counted⟩, weighed⟩ : ∃ result,
        before.limiter.fail backoff work.key = result := ⟨_, rfl⟩
    rw [weighed] at books ⊢
    have limiter : after.limiter = (before.limiter.fail backoff work.key).2 := by
      have kept := congrArg Books.limiter books
      cases verdict with
      | drop => exact kept
      | retry delay =>
          simp only [Books.settle, Books.postpone] at kept
          split at kept <;> exact kept
    rw [weighed] at limiter
    have elsewhere (key : Key) (apart : key ≠ work.key) :
        after.limiter.failures key = before.limiter.failures key := by
      rw [limiter]
      exact Limiter.failures_elsewhere weighed (Ne.symm apart)
    cases verdict with
    | drop attempts =>
        have queue : after.queue = before.queue.release work.key := congrArg Books.queue books
        have delayed : after.delayed = before.delayed := congrArg Books.delayed books
        refine settles_of_released isOpen queue (.dropped ?_ (by rw [queue]; rfl) delayed)
          elsewhere cache relay
        rw [limiter]
        exact (Limiter.failures_of_drop weighed).2
    | retry delay =>
        have own : after.limiter.failures work.key = before.limiter.failures work.key + 1 := by
          rw [limiter]
          exact (Limiter.failures_of_retry weighed).2
        simp only [Books.settle, Books.postpone] at books
        split at books
        next now =>
          refine settles_of_returned isOpen (congrArg Books.queue books) now ?_
            (congrArg Books.delayed books) cache relay
          intro key
          split
          next same => rw [← same, own]
          next apart => exact elsewhere key (Ne.symm apart)
        next later =>
          have queue : after.queue = before.queue.release work.key := congrArg Books.queue books
          exact settles_of_released isOpen queue
            (.postponed later own (by rw [queue]; rfl) early late (congrArg Books.delayed books))
            elsewhere cache relay

end

/-- Whatever the handler makes of an item, its caller comes to the end of it, and then the
item has been settled as its outcome and the failures of its key before decide. -/
theorem settles_own_key (found : system.callers.find? id = some caller)
    (holds : caller.point = .holding work .handed) (isOpen : system.queue.closed = false) :
    let ending := (plan.reconciliation work (system.cache.get? work.key)).ending system.world
    (∀ reached, Alone plan id system reached → ∃ after next, Alone plan id reached after ∧
        after.callers.find? id = some next ∧ next.point = caller.rest work) ∧
      ∀ after next, Alone plan id system after → after.callers.find? id = some next →
        next.point.held? = none →
        next.point = caller.rest work ∧ after.world = ending.1 ∧
          Settles work (plan.backoff.ruling? (system.limiter.failures work.key) ending.2)
            system after ∧
          ∀ other, other ≠ id → after.callers.find? other = system.callers.find? other := by
  intro ending
  have begins : Underway plan id caller work system ending system := by
    refine ⟨rfl, rfl, Nat.le_refl _, fun _ _ => rfl, caller, found, rfl, ?_⟩
    rw [holds]
    exact .handling rfl rfl rfl
  constructor
  · intro reached alone
    exact (alone.underway isOpen begins).exists_rest isOpen
  · intro after next alone finds bare
    obtain ⟨cache, relay, -, elsewhere, stands, findsSame, -, reached⟩ :=
      alone.underway isOpen begins
    obtain rfl := Option.some.inj (finds.symm.trans findsSame)
    generalize point : next.point = stop at reached bare ⊢
    cases reached with
    | settled rest world early late books =>
        exact ⟨rest, world, settles_of_books isOpen early late books cache relay, elsewhere⟩
    | _ => cases bare

/-- A pod changes while its addition is reconciled, and the handler panics.  The retry has
no delay, so it joins the change that is parked for the pod. -/
theorem settles_own_key_returned :
    let pod (version : String) : Pod :=
      { metadata := { name := some "a", ns := some "ns", resourceVersion := some version } }
    let key : Key := ⟨some "ns", "a"⟩
    let plan : Plan Pod Unit :=
      { name := "pod"
        backoff := { base := Duration.ofMillis 0 }
        handler := { sync := fun _ _ _ _ => .finish (.panicked .unreadable) } }
    let started : List (Action Pod Unit) :=
      [.enter 0 .worker, .receive {} (.applied (pod "1")), .passOn, .passOn, .advance 0,
        .advance 0, .receive {} (.applied (pod "2")), .passOn, .passOn]
    ∃ system after, run plan { world := () } started = some system ∧
      system.callers.find? 0 =
        some { role := .worker, point := .holding ⟨key, .add, none⟩ .handed } ∧
      system.queue.pending.find? key = some ⟨key, .update, some (pod "1")⟩ ∧
      system.queue.ready = [] ∧ Alone plan 0 system after ∧
      (∃ next, after.callers.find? 0 = some next ∧ next.point = .arriving) ∧
      after.queue.pending.find? key = some ⟨key, .add, none⟩ ∧ after.queue.ready = [key] ∧
      key ∉ after.queue.inFlight ∧ after.limiter.failures key = 1 := by
  intro pod key plan started
  obtain ⟨system, ran, found, isOpen, parked, ready, fresh⟩ : ∃ system,
      run plan { world := () } started = some system ∧
        system.callers.find? 0 =
          some { role := .worker, point := .holding ⟨key, .add, none⟩ .handed } ∧
        system.queue.closed = false ∧
        system.queue.pending.find? key = some ⟨key, .update, some (pod "1")⟩ ∧
        system.queue.ready = [] ∧ system.limiter.failures key = 0 :=
    ⟨_, rfl, rfl, rfl, rfl, rfl, rfl⟩
  obtain ⟨goesOn, settles⟩ :
      (∀ reached, Alone plan 0 system reached → _) ∧ _ := settles_own_key found rfl isOpen
  obtain ⟨after, next, alone, finds, rests⟩ := goesOn _ .start
  obtain ⟨-, -, settled, -⟩ := settles after next alone finds (by rw [rests]; rfl)
  have rules : plan.backoff.ruling? (system.limiter.failures key)
      ((plan.reconciliation ⟨key, .add, none⟩ (system.cache.get? key)).ending system.world).2 =
        some (.retry (plan.backoff.delay 0)) := by
    rw [fresh]
    cases system.cache.get? key <;> rfl
  rw [rules] at settled
  obtain ⟨fate, released, readies, -⟩ := settled
  have instant : (plan.backoff.delay 0).nanos = 0 := by decide
  generalize plan.backoff.delay 0 = delay at fate instant
  cases fate with
  | returned _ failures pending _ =>
      rw [parked] at pending
      rw [ready, Table.contains, pending] at readies
      rw [fresh] at failures
      exact ⟨system, after, ran, found, parked, ready, alone, ⟨next, finds, rests⟩, pending,
        readies, released, failures⟩
  | postponed delays => exact absurd instant delays

end System

end Reconciler
