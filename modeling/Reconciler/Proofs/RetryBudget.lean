import Reconciler.Proofs.Custody
import Reconciler.Proofs.Difference
import Reconciler.Proofs.Failing
import Reconciler.Proofs.Ledger

/-!
# The retry budget

A key that always fails costs a bounded amount of work.  Every notification that the
queue takes pays for one round of attempts: the first one and as many retries as the
limit allows.  This is not obvious, since the items of a key share one failure counter,
and retries, parked items and fresh notifications are merged, delayed and dropped in
any order.

The argument counts the items of the key that are still carried: the pending one, those
in the hands of callers, and the delayed ones.  Every step of a controller changes this
number and the failure counter as its entry in the ledger says.
-/

namespace Reconciler

variable {α ω : Type}

/-! ## Items that are still carried -/

/-- The key of an item that was not yet given back to the queue or dropped. -/
def Stage.carried? (work : Work α) : Stage α ω → Option Key
  | .noting _ _ => none
  | _ => some work.key

theorem Stage.carried?_opening (plan : Plan α ω) (work : Work α) (current : Option α) :
    (Stage.opening plan work current).carried? work = some work.key := by
  unfold opening
  split <;> rfl

theorem Stage.carried?_settling (work : Work α) (outcome : Outcome) :
    (Stage.settling outcome : Stage α ω).carried? work = some work.key := by
  unfold settling
  repeat' split
  all_goals rfl

theorem Stage.Goes.carried {plan : Plan α ω} {work : Work α} {stage next : Stage α ω}
    (goes : stage.Goes plan work next) :
    stage.carried? work = some work.key ∧ next.carried? work = some work.key ∧
      stage.weighed? work = none := by
  cases goes <;> exact ⟨rfl, rfl, rfl⟩

namespace System

/-- Whether an item of a key is pending, as a number. -/
def waiting (key : Key) (queue : Queue α) : Nat :=
  if (queue.pending.find? key).isSome then 1 else 0

/-- The number of items of a key in the hands of callers. -/
def borne (key : Key) (callers : Table Nat (Caller α ω)) : Nat :=
  callers.values.countP fun caller => caller.point.shows Stage.carried? = some key

def postponed (key : Key) (delayed : Table Nat (Delayed α)) : Nat :=
  delayed.values.countP fun item => item.work.key = key

/-- The number of items of a key that are pending, in the hands of callers, or delayed. -/
def carried (system : System α ω) (key : Key) : Nat :=
  waiting key system.queue + borne key system.callers + postponed key system.delayed

variable {key : Key}

theorem waiting_le (key : Key) (queue : Queue α) : waiting key queue ≤ 1 := by
  unfold waiting
  split <;> omega

theorem waiting_add {queue : Queue α} (isOpen : queue.closed = false) (work : Work α) :
    waiting key (queue.add work) = if work.key = key then 1 else waiting key queue := by
  unfold waiting
  rw [Queue.find?_add isOpen]
  split <;> rfl

theorem waiting_take (key : Key) {queue after : Queue α} {work : Work α} (sound : queue.Sound)
    (taken : queue.take = (some work, after)) :
    (waiting key after + if work.key = key then 1 else 0) = waiting key queue := by
  obtain ⟨-, -, waits, pending, -⟩ := sound.take_some taken
  unfold waiting
  rw [pending]
  split
  next same => simp [← same, waits]
  · rfl

section Callers

variable {callers : Table Nat (Caller α ω)} {id : Nat} {caller next : Caller α ω} {work : Work α}
  {stage nextStage : Stage α ω}

theorem borne_insert (key : Key) (found : callers.find? id = some caller) (next : Caller α ω) :
    (borne key (callers.insert id next) +
        if caller.point.shows Stage.carried? = some key then 1 else 0) =
      borne key callers + if next.point.shows Stage.carried? = some key then 1 else 0 :=
  showing_insert key found next

theorem borne_move (key : Key) (found : callers.find? id = some caller) {next : Caller α ω}
    (same : next.point.shows Stage.carried? = caller.point.shows Stage.carried?) :
    borne key (callers.insert id next) = borne key callers :=
  showing_move key found same

/-- An item that is carried in both stages is carried on. -/
theorem borne_stage (key : Key) (found : callers.find? id = some caller)
    (held : caller.point.held? = some (work, stage))
    (stillHeld : next.point.held? = some (work, nextStage))
    (carried : stage.carried? work = some work.key)
    (stillCarried : nextStage.carried? work = some work.key) :
    borne key (callers.insert id next) = borne key callers := by
  refine borne_move key found ?_
  rw [Point.shows_of_held held, Point.shows_of_held stillHeld, carried, stillCarried]

theorem borne_taken (key : Key) (found : callers.find? id = some caller)
    (bare : caller.point.held? = none) (work : Work α) :
    borne key (callers.insert id { caller with point := .holding work .handed }) =
      borne key callers + if work.key = key then 1 else 0 := by
  have moved := borne_insert key found { caller with point := .holding work .handed }
  rw [Point.shows_of_bare bare, Point.shows_of_held (Point.held?_holding work _)] at moved
  simpa [Stage.carried?] using moved

theorem borne_freed (key : Key) (found : callers.find? id = some caller)
    (held : caller.point.held? = some (work, stage)) (carried : stage.carried? work = some work.key)
    {point : Point α ω} (freed : point.shows Stage.carried? = none) :
    (borne key (callers.insert id { caller with point }) + if work.key = key then 1 else 0) =
      borne key callers := by
  have moved := borne_insert key found { caller with point }
  rw [Point.shows_of_held held, carried, freed] at moved
  simpa using moved

theorem borne_pos (found : callers.find? id = some caller)
    (held : caller.point.held? = some (work, stage)) (carried : stage.carried? work = some key) :
    0 < borne key callers :=
  (showing_pos_iff key).mpr
    ⟨caller, Table.mem_values_of_find? found, (Point.shows_of_held held).trans carried⟩

theorem borne_entered (absent : callers.find? id = none) (bare : next.point.held? = none) :
    borne key (callers.insert id next) = borne key callers :=
  showing_enter key absent bare

end Callers

theorem postponed_insert (key : Key) {delayed : Table Nat (Delayed α)} {ticket : Nat}
    (fresh : delayed.find? ticket = none) (item : Delayed α) :
    postponed key (delayed.insert ticket item) =
      postponed key delayed + if item.work.key = key then 1 else 0 := by
  have counted := Table.countP_insert_of_none fresh item fun item =>
    Decidable.decide (item.work.key = key)
  simp only [decide_eq_true_eq] at counted
  exact counted

theorem postponed_erase (key : Key) {delayed : Table Nat (Delayed α)} {ticket : Nat}
    {item : Delayed α} (nodup : delayed.keys.Nodup) (found : delayed.find? ticket = some item) :
    (postponed key (delayed.erase ticket) + if item.work.key = key then 1 else 0) =
      postponed key delayed := by
  have counted := Table.countP_erase nodup found fun item =>
    Decidable.decide (item.work.key = key)
  simp only [decide_eq_true_eq] at counted
  exact counted

/-- The numbers of delayed items are distinct, and the next one is not used yet. -/
structure Numbered (system : System α ω) : Prop where
  nodup : system.delayed.keys.Nodup
  issued : ∀ ticket delayed, system.delayed.find? ticket = some delayed → ticket < system.issued

variable [Resource α] {plan : Plan α ω} {admits : Event α → Prop} {before after : System α ω}
  {action : Action α ω} {mark : Option (Mark α)}

omit [Resource α] in
theorem Numbered.fresh {system : System α ω} (numbered : system.Numbered) :
    system.delayed.find? system.issued = none := by
  rw [Option.eq_none_iff_forall_not_mem]
  intro delayed found
  have below := numbered.issued _ _ found
  omega

theorem Numbered.step (numbered : before.Numbered) (turn : Turn plan before action mark after) :
    after.Numbered := by
  cases turn with
  | fired found =>
      refine ⟨Table.nodup_erase numbered.nodup _, ?_⟩
      intro ticket delayed finds
      rw [Table.find?_erase] at finds
      split at finds
      · cases finds
      · exact numbered.issued ticket delayed finds
  | delayed found held =>
      refine ⟨Table.nodup_insert numbered.nodup _ _, ?_⟩
      intro ticket delayed finds
      rw [Table.find?_insert] at finds
      split at finds
      next same => exact same ▸ Nat.lt_succ_self _
      · exact Nat.lt_succ_of_lt (numbered.issued ticket delayed finds)
  | _ => exact ⟨numbered.nodup, numbered.issued⟩

theorem numbered_of_runs {history : List (Mark α)} {system : System α ω}
    (run : Runs plan admits history system) : system.Numbered := by
  refine run.keeps ?_ .step
  intro world
  exact ⟨Table.nodup_empty, fun ticket delayed found => by cases found⟩

end System

/-! ## Every step of a controller is one of these -/

namespace System

def account (system : System α ω) (key : Key) : Account where
  failures := system.limiter.failures key
  carried := system.carried key
  closed := system.queue.closed

variable [Resource α] {plan : Plan α ω} {before after : System α ω} {action : Action α ω}
  {mark : Option (Mark α)} {key : Key} {id : Nat} {caller : Caller α ω} {work : Work α}
  {stage : Stage α ω}

theorem booking?_of_held (found : before.callers.find? id = some caller)
    (held : caller.point.held? = some (work, stage)) :
    before.booking? plan (.advance id) = (stage.weighed? work).map fun key =>
      (key, (before.limiter.fail plan.backoff key).1.entry) := by
  rw [booking?, shown?_of_held found held]

theorem booking?_of_bare (found : before.callers.find? id = some caller)
    (bare : caller.point.held? = none) : before.booking? plan (.advance id) = none := by
  rw [booking?, shown?_of_bare found bare]
  rfl

omit [Resource α] in
theorem account_eq (failures : after.limiter.failures key = before.limiter.failures key)
    (carried : after.carried key = before.carried key)
    (closed : after.queue.closed = before.queue.closed) :
    after.account key = before.account key := by
  rw [account, account, failures, carried, closed]

/-- A step that leaves no entry, and neither adds nor removes an item of the key. -/
theorem step_still (unlisted : before.booking? plan action = none)
    (same : after.account key = before.account key) :
    Account.Step plan.backoff.retries.toNat key (before.account key) (after.account key)
      (before.booking? plan action) :=
  .still (by simp [unlisted]) same

/-- An item that goes back to the queue joins the pending one, or is lost if the queue is
closed. -/
theorem step_given (unlisted : before.booking? plan action = none)
    (limiter : after.limiter = before.limiter) (queue : after.queue = before.queue.add work)
    (freed : (borne key after.callers + postponed key after.delayed +
        if work.key = key then 1 else 0) =
      borne key before.callers + postponed key before.delayed) :
    Account.Step plan.backoff.retries.toNat key (before.account key) (after.account key)
      (before.booking? plan action) := by
  have closed : after.queue.closed = before.queue.closed := by rw [queue, Queue.add_closed]
  have bound : after.carried key ≤ before.carried key ∧
      (before.queue.closed = false → 0 < before.carried key → 0 < after.carried key) := by
    unfold carried
    rw [queue]
    by_cases isClosed : before.queue.closed = true
    · rw [Queue.add_of_closed isClosed]
      refine ⟨by omega, ?_⟩
      intro isOpen
      simp [isClosed] at isOpen
    · rw [waiting_add (by simpa using isClosed)]
      split at freed
      next same =>
        rw [if_pos same]
        exact ⟨by omega, by omega⟩
      next apart =>
        rw [if_neg apart]
        exact ⟨by omega, by omega⟩
  refine .moved (by simp [unlisted]) ?_ bound.1 ?_
  · rw [account, account, limiter]
  · intro isOpen
    have wasOpen : before.queue.closed = false := closed ▸ isOpen
    exact ⟨wasOpen, bound.2 wasOpen⟩

theorem step_announced {change : Change α} {changes : List (Key × Change α)} {other : Key}
    {enqueued : Nat} {listing : Bool} (told : before.relay = .passing ((other, change) :: changes)
      enqueued listing)
    (item : Work.ofChange? other change = some work) (limiter : after.limiter = before.limiter)
    (queue : after.queue = before.queue.add work) (callers : after.callers = before.callers)
    (delayed : after.delayed = before.delayed) :
    Account.Step plan.backoff.retries.toNat key (before.account key) (after.account key)
      (before.booking? plan .passOn) := by
  have same : work.key = other := Work.key_of_ofChange? item
  by_cases isClosed : before.queue.closed = true
  · have unlisted : before.booking? plan .passOn = none := by
      simp only [booking?, told, if_pos isClosed]
    rw [Queue.add_of_closed isClosed] at queue
    refine step_still unlisted (account_eq ?_ ?_ ?_)
    · rw [limiter]
    · rw [carried, carried, queue, callers, delayed]
    · rw [queue]
  · have isOpen : before.queue.closed = false := by simpa using isClosed
    have listed : before.booking? plan .passOn = some (other, .accepted) := by
      simp only [booking?, told, if_neg isClosed, item, Option.map_some]
    have adds : after.carried key = (if work.key = key then 1 else waiting key before.queue) +
        borne key before.callers + postponed key before.delayed := by
      rw [carried, queue, callers, delayed, waiting_add isOpen]
    have bound := waiting_le key before.queue
    have failures : (after.account key).failures = (before.account key).failures := by
      rw [account, account, limiter]
    rw [listed]
    by_cases here : other = key
    · subst here
      rw [if_pos same] at adds
      refine .accepted failures isOpen ?_ ?_
      · change after.carried other ≤ before.carried other + 1
        rw [adds, carried]
        omega
      · change 0 < after.carried other
        omega
    · rw [if_neg (same ▸ here)] at adds
      refine .still (by simp [here]) (account_eq (by rw [limiter]) adds ?_)
      rw [queue, Queue.add_closed]

theorem step_granted {failure : Failure} {delay : Duration}
    (found : before.callers.find? id = some caller)
    (held : caller.point.held? = some (work, .weighing failure))
    (weighed : before.limiter.fail plan.backoff work.key = (.retry delay, after.limiter))
    (queue : after.queue = before.queue) (delayed : after.delayed = before.delayed)
    (bears : borne key after.callers = borne key before.callers) :
    Account.Step plan.backoff.retries.toNat key (before.account key) (after.account key)
      (before.booking? plan (.advance id)) := by
  have listed : before.booking? plan (.advance id) = some (work.key, .granted) := by
    rw [booking?_of_held found held]
    simp [Stage.weighed?, weighed, Verdict.entry]
  have carried : after.carried key = before.carried key := by
    rw [System.carried, System.carried, queue, delayed, bears]
  rw [listed]
  by_cases same : work.key = key
  · subst same
    obtain ⟨spare, counted⟩ := Limiter.failures_of_retry weighed
    have positive : 0 < borne work.key before.callers := borne_pos found held rfl
    refine .granted spare counted ?_ carried (congrArg Queue.closed queue)
    change 0 < waiting work.key before.queue + borne work.key before.callers + _
    omega
  · refine .still (by simp [same]) (account_eq ?_ carried (congrArg Queue.closed queue))
    exact Limiter.failures_elsewhere weighed same

theorem step_dropped {failure : Failure} {attempts : Nat}
    (found : before.callers.find? id = some caller)
    (held : caller.point.held? = some (work, .weighing failure))
    (weighed : before.limiter.fail plan.backoff work.key = (.drop attempts, after.limiter))
    (queue : after.queue = before.queue) (delayed : after.delayed = before.delayed)
    (freed : (borne key after.callers + if work.key = key then 1 else 0) =
      borne key before.callers) :
    Account.Step plan.backoff.retries.toNat key (before.account key) (after.account key)
      (before.booking? plan (.advance id)) := by
  have listed : before.booking? plan (.advance id) = some (work.key, .dropped) := by
    rw [booking?_of_held found held]
    simp [Stage.weighed?, weighed, Verdict.entry]
  have carried : (after.carried key + if work.key = key then 1 else 0) = before.carried key := by
    rw [System.carried, System.carried, queue, delayed]
    omega
  rw [listed]
  by_cases same : work.key = key
  · subst same
    obtain ⟨spent, counted⟩ := Limiter.failures_of_drop weighed
    rw [if_pos rfl] at carried
    exact .dropped spent counted carried
  · rw [if_neg same] at carried
    refine .still (by simp [same]) (account_eq ?_ carried (congrArg Queue.closed queue))
    exact Limiter.failures_elsewhere weighed same

/-- A caller that goes on with its item carries it on. -/
theorem step_carried {next : Caller α ω} {nextStage : Stage α ω}
    (found : before.callers.find? id = some caller)
    (held : caller.point.held? = some (work, stage))
    (stillHeld : next.point.held? = some (work, nextStage))
    (carried : stage.carried? work = some work.key)
    (stillCarried : nextStage.carried? work = some work.key)
    (unweighed : stage.weighed? work = none)
    (callers : after.callers = before.callers.insert id next)
    (failures : after.limiter.failures key = before.limiter.failures key)
    (rest : after.queue.pending = before.queue.pending ∧
      after.queue.closed = before.queue.closed ∧ after.delayed = before.delayed) :
    Account.Step plan.backoff.retries.toNat key (before.account key) (after.account key)
      (before.booking? plan (.advance id)) := by
  obtain ⟨pending, closed, delayed⟩ := rest
  have unlisted : before.booking? plan (.advance id) = none := by
    rw [booking?_of_held found held, unweighed]
    rfl
  refine step_still unlisted (account_eq failures ?_ closed)
  rw [System.carried, System.carried, callers, delayed,
    borne_stage key found held stillHeld carried stillCarried, waiting, waiting, pending]

omit [Resource α] in
theorem shows_rest (caller : Caller α ω) (work : Work α) :
    (caller.rest work).shows Stage.carried? = none :=
  Point.shows_of_bare (Point.held?_rest caller work)

/-- A step of a controller does to the account of a key that always fails what its entry
says. -/
theorem account_step (custody : before.Custody) (numbered : before.Numbered)
    (failing : Failing key before.callers) (turn : Turn plan before action mark after) :
    Account.Step plan.backoff.retries.toNat key (before.account key) (after.account key)
      (before.booking? plan action) := by
  cases turn with
  | quiet notPassed notAdvanced =>
      refine step_still ?_ rfl
      cases action with
      | passOn => exact (notPassed rfl).elim
      | advance id => exact (notAdvanced id rfl).elim
      | _ => rfl
  | ignored | received => exact step_still rfl rfl
  | announced told item => exact step_announced told item rfl rfl rfl rfl
  | suppressed told silent => exact step_still (by simp [booking?, told, silent]) rfl
  | completed told => exact step_still (by simp [booking?, told]) rfl
  | entered absent =>
      refine step_still rfl (account_eq rfl ?_ rfl)
      rw [carried, carried, borne_entered absent rfl]
  | fired found =>
      refine step_given rfl rfl rfl ?_
      have erased := postponed_erase key numbered.nodup found
      dsimp only
      omega
  | closed => exact .moved (by simp [booking?]) rfl le_rfl fun isOpen => by cases isOpen
  | moved found bare next acts =>
      refine step_still ?_ (account_eq rfl ?_ rfl)
      · rcases acts with rfl | rfl
        · exact booking?_of_bare found bare
        · rfl
      · rw [carried, carried, borne_move key found]
        exact (Point.shows_of_bare next).trans (Point.shows_of_bare bare).symm
  | waited found bare next taken =>
      obtain rfl := custody.sound.eq_of_take_none taken
      refine step_still (booking?_of_bare found bare) (account_eq rfl ?_ rfl)
      rw [carried, carried, borne_move key found]
      exact (Point.shows_of_bare next).trans (Point.shows_of_bare bare).symm
  | @took _ _ work _ _ found bare taken =>
      -- The item moves from the queue to its taker.
      obtain ⟨isOpen, stillOpen, -⟩ := custody.sound.take_some taken
      have emptied := waiting_take key custody.sound taken
      have bears := borne_taken key found bare work
      refine step_still (booking?_of_bare found bare)
        (account_eq rfl ?_ (stillOpen.trans isOpen.symm))
      simp only [carried]
      omega
  | carried found taker =>
      have worker := custody.workers _ _ found
      simp [taker] at worker
  | looked found held | yielded found held =>
      exact step_carried found held (Point.held?_holding _ _) rfl rfl rfl rfl rfl ⟨rfl, rfl, rfl⟩
  | called found held =>
      exact step_carried found held (Point.held?_holding _ _) rfl (Stage.carried?_opening _ _ _) rfl
        rfl rfl ⟨rfl, rfl, rfl⟩
  | handled found held goes =>
      obtain ⟨carried, stillCarried, unweighed⟩ := goes.carried
      exact step_carried found held (Point.held?_holding _ _) carried stillCarried unweighed rfl rfl
        ⟨rfl, rfl, rfl⟩
  | concluded found held =>
      exact step_carried found held (Point.held?_holding _ _) rfl (Stage.carried?_settling _ _) rfl
        rfl rfl ⟨rfl, rfl, rfl⟩
  | forgot found held =>
      -- An item of the key is never settled, so these are failures of another key.
      have apart := failing _ _ _ _ found held
      exact step_carried found held (Point.held?_holding _ _) rfl rfl rfl rfl
        ((Limiter.failures_forget _ _ _).trans (if_neg apart)) ⟨rfl, rfl, rfl⟩
  | @released _ caller work _ found held =>
      have apart := failing _ _ _ _ found held
      have freed := borne_freed key found held rfl (shows_rest caller work)
      rw [if_neg apart, Nat.add_zero] at freed
      refine step_still (booking?_of_held found held) (account_eq rfl ?_ rfl)
      simp only [carried, freed]
      rfl
  | granted found held weighed =>
      exact step_granted found held weighed rfl rfl (borne_stage key found held rfl rfl rfl)
  | @dropped _ caller work _ _ _ _ found held weighed =>
      exact step_dropped found held weighed rfl rfl
        (borne_freed key found held rfl (shows_rest caller work))
  | @returned _ _ work failure delay _ found held =>
      have freed : _ = borne key before.callers := borne_freed key found held rfl
        (Point.shows_of_held (Point.held?_holding work (.noting failure delay)))
      refine step_given (booking?_of_held found held) rfl rfl ?_
      dsimp only
      omega
  | @delayed _ _ work failure delay found held =>
      have freed : _ = borne key before.callers := borne_freed key found held rfl
        (Point.shows_of_held (Point.held?_holding work (.noting failure delay)))
      have joined := postponed_insert key numbered.fresh ⟨before.now + delay.wait, work⟩
      refine step_still (booking?_of_held found held) (account_eq rfl ?_ rfl)
      simp only [carried, joined]
      omega
  | @refused _ _ work failure delay found held _ isClosed =>
      have freed : _ = borne key before.callers := borne_freed key found held rfl
        (Point.shows_of_held (Point.held?_holding work (.noting failure delay)))
      -- The item is lost, but only to a closed queue.
      refine .moved (by simp [booking?_of_held found held, Stage.weighed?]) rfl ?_ ?_
      · simp only [account, carried]
        omega
      · intro isOpen
        cases isClosed.symm.trans isOpen
  | @noted _ caller work _ _ _ found held =>
      -- The item was given back before.
      have passed : caller.point.shows Stage.carried? = none := Point.shows_of_held held
      refine step_still (booking?_of_held found held) (account_eq rfl ?_ rfl)
      rw [carried, carried, borne_move key found]
      exact (shows_rest caller work).trans passed.symm

/-! ## Runs -/

theorem sound_of_booked {admits : Event α → Prop} {ledger : List (Key × Entry)}
    {system : System α ω} (fails : plan.handler.Fails key)
    (booked : Booked plan admits ledger system) :
    (system.account key).Sound plan.backoff.retries.toNat key ledger := by
  induction booked with
  | start world =>
      refine ⟨rfl, Nat.zero_le _, le_rfl, ?_, ?_⟩
      · intro failed
        cases failed
      · intro _ failed
        cases failed
  | step booked occurs acted ih =>
      obtain ⟨history, run⟩ := booked.run
      exact ih.step (account_step (custody_of_runs run) (numbered_of_runs run)
        (failing_of_runs fails run) (turn_of_act occurs acted))

/-- No item of a key is pending, in the hands of a caller, or delayed. -/
structure Spent (system : System α ω) (key : Key) : Prop where
  pending : system.queue.pending.find? key = none
  callers : ∀ caller ∈ system.callers.values, caller.point.shows Stage.carried? ≠ some key
  delayed : ∀ item ∈ system.delayed.values, item.work.key ≠ key

instance (system : System α ω) (key : Key) : Decidable (system.Spent key) :=
  decidable_of_iff
    ((system.queue.pending.find? key).isNone ∧
      (∀ caller ∈ system.callers.values, caller.point.shows Stage.carried? ≠ some key) ∧
      ∀ item ∈ system.delayed.values, item.work.key ≠ key)
    ⟨fun ⟨pending, callers, delayed⟩ =>
        ⟨Option.isNone_iff_eq_none.mp pending, callers, delayed⟩,
      fun spent => ⟨Option.isNone_iff_eq_none.mpr spent.pending, spent.callers, spent.delayed⟩⟩

omit [Resource α] in
theorem Spent.carried {system : System α ω} (spent : system.Spent key) :
    system.carried key = 0 := by
  have waits : waiting key system.queue = 0 := by
    rw [waiting, spent.pending]
    rfl
  have bears : borne key system.callers = 0 := by
    rw [borne, List.countP_eq_zero]
    simpa using spent.callers
  have postpones : postponed key system.delayed = 0 := by
    rw [postponed, List.countP_eq_zero]
    simpa using spent.delayed
  rw [System.carried, waits, bears, postpones]

/-- The retry budget of a key of which every reconciliation fails.  Its attempts are the
rounds that ended in a drop and the retries of the round that goes on, and there are
never more rounds than notifications that the queue took.  As long as the queue is open,
no round goes on without an item of the key. -/
theorem attempts_within_budget {admits : Event α → Prop} {ledger : List (Key × Entry)}
    {system : System α ω} (fails : plan.handler.Fails key)
    (booked : Booked plan admits ledger system) :
    let round := plan.backoff.retries.toNat + 1
    attempts key ledger = round * drops key ledger + system.limiter.failures key ∧
      drops key ledger ≤ notifications key ledger ∧
      attempts key ledger ≤ notifications key ledger * round ∧
      (system.queue.closed = false → system.Spent key →
        attempts key ledger = round * drops key ledger ∧ system.limiter.failures key = 0) := by
  intro round
  have sound := sound_of_booked fails booked
  refine ⟨sound.balance, ?_, sound.attempts_le, ?_⟩
  · exact (Nat.le_add_right _ _).trans sound.covered
  · intro isOpen spent
    have forgotten : system.limiter.failures key = 0 := by
      by_contra failed
      have carried : 0 < system.carried key := sound.attended isOpen (Nat.pos_of_ne_zero failed)
      rw [spent.carried] at carried
      exact carried.false
    have balance : attempts key ledger = round * drops key ledger + system.limiter.failures key :=
      sound.balance
    rw [forgotten] at balance
    exact ⟨balance, forgotten⟩

/-- A pod whose reconciliation fails is tried twice and dropped. -/
theorem attempts_within_budget_dropped :
    let pod : Pod := { metadata := { name := some "a", ns := some "ns" } }
    let key : Key := ⟨some "ns", "a"⟩
    let plan : Plan Pod Unit :=
      { name := "pod"
        backoff := { retries := 1 }
        handler := { sync := fun _ _ _ _ => .fail (.other "unavailable") } }
    let actions : List (Action Pod Unit) :=
      [.enter 0 .worker, .receive {} (.applied pod), .passOn, .passOn] ++
        List.replicate 12 (.advance 0) ++ [.elapse 5, .fire 0] ++ List.replicate 10 (.advance 0)
    ∃ ledger system,
      audit plan [] { world := () } actions = some (ledger, system) ∧
        Booked plan (fun _ => True) ledger system ∧ plan.handler.Fails key ∧
        system.queue.closed = false ∧ system.Spent key ∧
        notifications key ledger = 1 ∧ drops key ledger = 1 ∧ attempts key ledger = 2 ∧
        system.limiter.failures key = 0 := by
  intro pod key plan actions
  have fails : plan.handler.Fails key := by
    constructor
    · intro object
      exact .inl rfl
    · intro operation current prior
      exact ⟨_, rfl, rfl⟩
  have occur : ∀ action ∈ actions, action.Occurs fun _ => True := by
    simp [actions, Action.Occurs, Enumeration.fair_default]
  have shows : (audit plan [] { world := () } actions).map (fun result =>
      (result.1, result.2.queue.closed, Decidable.decide (result.2.Spent key))) =
        some ([(key, .dropped), (key, .granted), (key, .accepted)], false, true) := by
    decide
  obtain ⟨⟨ledger, system⟩, audited, shown⟩ := Option.map_eq_some_iff.mp shows
  simp only [Prod.mk.injEq, decide_eq_true_eq] at shown
  obtain ⟨rfl, isOpen, spent⟩ := shown
  have booked := (Observed.start _).transcript occur audited
  obtain ⟨-, -, -, settled⟩ := attempts_within_budget fails booked
  obtain ⟨tried, forgotten⟩ := settled isOpen spent
  exact ⟨_, system, audited, booked, fails, isOpen, spent, rfl, rfl, tried, forgotten⟩

end System

end Reconciler
