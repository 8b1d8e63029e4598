import Reconciler.Proofs.Pipeline
import Reconciler.Proofs.RetryBudget

/-!
# Failures do not outlast the items of their key

A key has failures in a row only as long as one of its items answers for them: one that
is pending or delayed and will be tried again, or one in the hands of a caller that will
weigh it or forget the failures.  A caller that has forgotten them and is only about to
release the key answers for nothing any more.

Callers of one key come in between each other here, since a failed item is weighed after
its key was released.  One caller may forget the failures that another one is just about
to count.  But whoever counts a failure has the failed item still in its hands, and then
gives it back to the queue.
-/

namespace Reconciler

variable {α ω : Type}

/-! ## The counters -/

namespace Limiter

variable {limiter : Limiter}

/-- No key is kept in the table with no failures. -/
def Tidy (limiter : Limiter) : Prop :=
  ∀ key, limiter.counts.find? key ≠ some 0

theorem Tidy.forget (tidy : limiter.Tidy) (key : Key) : (limiter.forget key).Tidy := by
  intro other kept
  rw [Limiter.forget, Table.find?_erase] at kept
  split at kept
  · cases kept
  · exact tidy other kept

theorem Tidy.fail (tidy : limiter.Tidy) (backoff : Backoff) (key : Key) :
    (limiter.fail backoff key).2.Tidy := by
  unfold Limiter.fail
  dsimp only
  split
  · exact tidy.forget key
  · intro other kept
    rw [Table.find?_insert] at kept
    split at kept
    · have counted : limiter.failures key + 1 = 0 := Option.some.inj kept
      omega
    · exact tidy other kept

theorem Tidy.find?_eq_none (tidy : limiter.Tidy) {key : Key} (none : limiter.failures key = 0) :
    limiter.counts.find? key = .none := by
  cases kept : limiter.counts.find? key with
  | none => rfl
  | some count =>
      rw [failures, kept, Option.getD_some] at none
      exact (tidy key (none ▸ kept)).elim

theorem failures_fail_le {backoff : Backoff} {key other : Key}
    (bounded : limiter.failures other ≤ backoff.retries.toNat) :
    (limiter.fail backoff key).2.failures other ≤ backoff.retries.toNat := by
  rw [failures_fail]
  split
  next same =>
    rw [← same] at bounded
    split <;> omega
  · exact bounded

end Limiter

/-! ## What is pending after an item was added -/

namespace Queue

variable {queue : Queue α} {key : Key}

theorem find?_add_isSome (isOpen : queue.closed = false)
    (waits : (queue.pending.find? key).isSome) (work : Work α) :
    ((queue.add work).pending.find? key).isSome := by
  rw [find?_add isOpen]
  split
  · rfl
  · exact waits

theorem find?_add_self (isOpen : queue.closed = false) (work : Work α) :
    ((queue.add work).pending.find? work.key).isSome := by
  rw [find?_add isOpen, if_pos rfl]
  rfl

end Queue

/-! ## Who answers for the failures of a key -/

/-- The key for whose failures an item in this stage answers. -/
def Stage.answers? (work : Work α) : Stage α ω → Option Key
  | .releasing | .noting _ _ => none
  | _ => some work.key

/-- Whatever the stage, an item answers for its own key only. -/
theorem Stage.key_of_answers? {work : Work α} {stage : Stage α ω} {key : Key}
    (answers : stage.answers? work = some key) : work.key = key := by
  cases stage with
  | releasing | noting => cases answers
  | _ => exact Option.some.inj answers

theorem Stage.answers?_opening (plan : Plan α ω) (work : Work α) (current : Option α) :
    (Stage.opening plan work current).answers? work = some work.key := by
  unfold opening
  split <;> rfl

theorem Stage.answers?_settling (work : Work α) (outcome : Outcome) :
    (Stage.settling outcome : Stage α ω).answers? work = some work.key := by
  unfold settling
  repeat' split
  all_goals rfl

theorem Stage.Goes.answers {plan : Plan α ω} {work : Work α} {stage next : Stage α ω}
    (goes : stage.Goes plan work next) :
    next.answers? work = some work.key := by
  cases goes <;> rfl

namespace System

/-- An item is left that answers for the failures of a key. -/
inductive Answered (system : System α ω) (key : Key) : Prop
  | pending : (system.queue.pending.find? key).isSome → Answered system key
  | held (id : Nat) : shown? Stage.answers? system.callers id = some key → Answered system key
  | delayed (ticket : Nat) (item : Delayed α) :
      system.delayed.find? ticket = some item → item.work.key = key → Answered system key

variable {before after : System α ω} {key : Key} {id : Nat} {caller next : Caller α ω}
  {work : Work α} {stage : Stage α ω}

theorem Answered.carry (answered : before.Answered key)
    (pending : (before.queue.pending.find? key).isSome → (after.queue.pending.find? key).isSome)
    (held : ∀ id, shown? Stage.answers? before.callers id = some key → after.Answered key)
    (delayed : ∀ ticket item, before.delayed.find? ticket = some item → item.work.key = key →
      after.Answered key) : after.Answered key := by
  cases answered with
  | pending waits => exact .pending (pending waits)
  | held id answers => exact held id answers
  | delayed ticket item found same => exact delayed ticket item found same

theorem Answered.keep (answered : before.Answered key)
    (pending : (before.queue.pending.find? key).isSome → (after.queue.pending.find? key).isSome)
    (callers : ∀ id, shown? Stage.answers? after.callers id =
      shown? Stage.answers? before.callers id)
    (delayed : after.delayed = before.delayed) : after.Answered key := by
  refine answered.carry pending ?_ ?_
  · intro id answers
    exact .held id ((callers id).trans answers)
  · intro ticket item found same
    exact .delayed ticket item (delayed ▸ found) same

/-- A caller goes on answering for a key if it did before. -/
theorem Answered.moved (answered : before.Answered key)
    (found : before.callers.find? id = some caller)
    (kept : caller.point.shows Stage.answers? = some key →
      next.point.shows Stage.answers? = some key)
    (callers : after.callers = before.callers.insert id next)
    (pending : (before.queue.pending.find? key).isSome → (after.queue.pending.find? key).isSome)
    (delayed : ∀ ticket item, before.delayed.find? ticket = some item →
      after.delayed.find? ticket = some item) : after.Answered key := by
  refine answered.carry pending ?_ ?_
  · intro other answers
    refine .held other ?_
    rw [callers, shown?_insert]
    split
    next here =>
      rw [← here, shown?_of_find found] at answers
      exact kept answers
    · exact answers
  · intro ticket item finds same
    exact .delayed ticket item (delayed ticket item finds) same

/-- A caller that answered for nothing may do what it likes. -/
theorem Answered.freed (answered : before.Answered key)
    (found : before.callers.find? id = some caller)
    (silent : caller.point.shows Stage.answers? = none)
    (callers : after.callers = before.callers.insert id next)
    (pending : (before.queue.pending.find? key).isSome → (after.queue.pending.find? key).isSome)
    (delayed : after.delayed = before.delayed) : after.Answered key := by
  refine answered.moved found ?_ callers pending fun _ _ finds => delayed ▸ finds
  intro answers
  rw [silent] at answers
  cases answers

/-- An item goes on to a stage in which it still answers for its key. -/
theorem Answered.staged {goal : Stage α ω} (answered : before.Answered key)
    (found : before.callers.find? id = some caller)
    (held : caller.point.held? = some (work, stage)) (goesTo : next.point = .holding work goal)
    (answers : goal.answers? work = some work.key)
    (callers : after.callers = before.callers.insert id next)
    (pending : (before.queue.pending.find? key).isSome → (after.queue.pending.find? key).isSome)
    (delayed : after.delayed = before.delayed) : after.Answered key := by
  refine answered.moved found ?_ callers pending fun _ _ finds => delayed ▸ finds
  intro answered
  rw [Point.shows_of_held held] at answered
  rw [goesTo, Point.shows_of_held (Point.held?_holding _ _), answers,
    Stage.key_of_answers? answered]

/-- A caller with an item of another key may do with it what it likes. -/
theorem Answered.passed (answered : before.Answered key)
    (found : before.callers.find? id = some caller)
    (held : caller.point.held? = some (work, stage)) (apart : work.key ≠ key)
    (callers : after.callers = before.callers.insert id next)
    (pending : (before.queue.pending.find? key).isSome → (after.queue.pending.find? key).isSome)
    (delayed : ∀ ticket item, before.delayed.find? ticket = some item →
      after.delayed.find? ticket = some item) : after.Answered key := by
  refine answered.moved found ?_ callers pending delayed
  intro answers
  rw [Point.shows_of_held held] at answers
  exact (apart (Stage.key_of_answers? answers)).elim

variable [Resource α] {plan : Plan α ω} {admits : Event α → Prop} {action : Action α ω}
  {mark : Option (Mark α)}

/-- As long as a key has failures, a step of an open controller leaves an item that
answers for them. -/
theorem Answered.step (custody : before.Custody) (numbered : before.Numbered)
    (answered : before.Answered key) (turn : Turn plan before action mark after)
    (isOpen : after.queue.closed = false) (failed : 0 < after.limiter.failures key) :
    after.Answered key := by
  cases turn with
  | quiet | ignored | received | suppressed | completed =>
      exact answered.keep id (fun _ => rfl) rfl
  | @announced _ _ _ _ _ work =>
      rw [Queue.add_closed] at isOpen
      exact answered.keep (Queue.find?_add_isSome isOpen · work) (fun _ => rfl) rfl
  | entered absent => exact answered.keep id (shown?_enter absent rfl) rfl
  | @fired ticket delayed _ found =>
      rw [Queue.add_closed] at isOpen
      refine answered.carry (Queue.find?_add_isSome isOpen · delayed.work)
        (fun other answers => .held other answers) ?_
      intro other item finds same
      by_cases here : ticket = other
      · rw [← here, found, Option.some.injEq] at finds
        rw [← same, ← finds]
        exact .pending (Queue.find?_add_self isOpen delayed.work)
      · refine .delayed other item ?_ same
        rw [Table.find?_erase, if_neg here]
        exact finds
  | closed => cases isOpen
  | moved found bare next => exact answered.freed found (Point.shows_of_bare bare) rfl id rfl
  | waited found bare next taken =>
      obtain rfl := custody.sound.eq_of_take_none taken
      exact answered.freed found (Point.shows_of_bare bare) rfl id rfl
  | @took taker _ work _ _ found bare taken =>
      obtain ⟨-, -, -, pending, -⟩ := custody.sound.take_some taken
      by_cases same : work.key = key
      · refine .held taker ?_
        rw [shown?_insert, if_pos rfl, Point.shows_of_held (Point.held?_holding _ _)]
        exact congrArg some same
      · refine answered.freed found (Point.shows_of_bare bare) rfl ?_ rfl
        intro waits
        rw [pending, if_neg same]
        exact waits
  | carried found taker =>
      have worker := custody.workers _ _ found
      simp [taker] at worker
  | looked found held | yielded found held | granted found held =>
      exact answered.staged found held rfl rfl rfl id rfl
  | called found held =>
      exact answered.staged found held rfl (Stage.answers?_opening plan _ _) rfl id rfl
  | handled found held goes => exact answered.staged found held rfl goes.answers rfl id rfl
  | concluded found held =>
      exact answered.staged found held rfl (Stage.answers?_settling _ _) rfl id rfl
  | @forgot _ _ work found held =>
      -- The failures of the key of this item are gone.
      have apart : work.key ≠ key := by
        intro same
        rw [Limiter.failures_forget, if_pos same] at failed
        exact failed.false
      exact answered.passed found held apart rfl id fun _ _ => id
  | released found held | noted found held =>
      exact answered.freed found (Point.shows_of_held held) rfl id rfl
  | @dropped _ _ work _ _ _ _ found held weighed =>
      have apart : work.key ≠ key := by
        rintro rfl
        have cleared := (Limiter.failures_of_drop weighed).2
        dsimp only at failed
        omega
      exact answered.passed found held apart rfl id fun _ _ => id
  | @returned _ _ work _ _ _ found held =>
      rw [Queue.add_closed] at isOpen
      by_cases same : work.key = key
      · rw [← same]
        exact .pending (Queue.find?_add_self isOpen work)
      · exact answered.passed found held same rfl (Queue.find?_add_isSome isOpen · work)
          fun _ _ => id
  | @delayed _ _ work _ delay found held =>
      by_cases same : work.key = key
      · refine .delayed before.issued ⟨before.now + delay.wait, work⟩ ?_ same
        rw [Table.find?_insert, if_pos rfl]
      · refine answered.passed found held same rfl id ?_
        intro ticket item finds
        have older : before.issued ≠ ticket := by
          have below := numbered.issued ticket item finds
          omega
        rw [Table.find?_insert, if_neg older]
        exact finds
  | refused found held _ isClosed => cases isClosed.symm.trans isOpen

/-- Whoever counts a failure still has the item that failed. -/
theorem answered_of_raised (turn : Turn plan before action mark after)
    (raised : before.limiter.failures key < after.limiter.failures key) : after.Answered key := by
  cases turn with
  | @granted counter _ work _ _ _ found held weighed =>
      by_cases same : work.key = key
      · refine .held counter ?_
        rw [shown?_insert, if_pos rfl, Point.shows_of_held (Point.held?_holding _ _)]
        exact congrArg some same
      · have kept := Limiter.failures_elsewhere weighed same
        dsimp only at raised
        omega
  | @dropped _ _ work _ _ _ _ _ _ weighed =>
      dsimp only at raised
      by_cases same : work.key = key
      · have cleared := (Limiter.failures_of_drop weighed).2
        rw [same] at cleared
        omega
      · have kept := Limiter.failures_elsewhere weighed same
        omega
  | forgot =>
      rw [Limiter.failures_forget] at raised
      split at raised <;> omega
  | _ => exact (Nat.lt_irrefl _ raised).elim

theorem answered_of_runs {history : List (Mark α)} {system : System α ω}
    (run : Runs plan admits history system) (isOpen : system.queue.closed = false)
    (failed : 0 < system.limiter.failures key) : system.Answered key := by
  induction run with
  | start world => cases failed
  | @step history before after action run occurs acted ih =>
      have turn := turn_of_act occurs acted
      rcases Nat.eq_zero_or_pos (before.limiter.failures key) with none | failing
      · exact answered_of_raised turn (none ▸ failed)
      · have wasOpen := (step_of_turn (custody_of_runs run) (provenance_of_runs run) occurs
          turn).wasOpen isOpen
        exact (ih wasOpen failing).step (custody_of_runs run) (numbered_of_runs run) turn isOpen
          failed

/-- A step leaves the failure counters alone, forgets those of a key, or counts one more. -/
theorem limiter_of_turn (turn : Turn plan before action mark after) :
    after.limiter = before.limiter ∨ ∃ key,
      after.limiter = before.limiter.forget key ∨
        after.limiter = (before.limiter.fail plan.backoff key).2 := by
  cases turn with
  | forgot => exact .inr ⟨_, .inl rfl⟩
  | granted _ _ weighed | dropped _ _ weighed =>
      exact .inr ⟨_, .inr (congrArg Prod.snd weighed).symm⟩
  | _ => exact .inl rfl

theorem tidy_of_runs {history : List (Mark α)} {system : System α ω}
    (run : Runs plan admits history system) : system.limiter.Tidy := by
  refine run.keeps (motive := fun system => system.limiter.Tidy) ?_ ?_
  · intro world key kept
    cases kept
  · intro before action mark after tidy turn
    rcases limiter_of_turn turn with same | ⟨key, same | same⟩ <;> rw [same]
    · exact tidy
    · exact tidy.forget key
    · exact tidy.fail plan.backoff key

theorem failures_le_of_runs {history : List (Mark α)} {system : System α ω}
    (run : Runs plan admits history system) (key : Key) :
    system.limiter.failures key ≤ plan.backoff.retries.toNat := by
  refine run.keeps (motive := fun system =>
    system.limiter.failures key ≤ plan.backoff.retries.toNat) ?_ ?_
  · intro world
    exact Nat.zero_le _
  · intro before action mark after bounded turn
    rcases limiter_of_turn turn with same | ⟨other, same | same⟩ <;> rw [same]
    · exact bounded
    · rw [Limiter.failures_forget]
      split <;> omega
    · exact Limiter.failures_fail_le bounded

omit [Resource α] in
theorem Spent.not_answered {system : System α ω} (spent : system.Spent key) :
    ¬system.Answered key := by
  intro answered
  cases answered with
  | pending waits => simp [spent.pending] at waits
  | held id answers =>
      obtain ⟨caller, work, stage, found, held, own⟩ := exists_held_of_shown? answers
      refine spent.callers caller (Table.mem_values_of_find? found) ?_
      rw [Point.shows_of_held held, ← own]
      cases stage with
      | releasing | noting => cases own
      | _ => rfl
  | delayed ticket item found same =>
      exact spent.delayed item (Table.mem_values_of_find? found) same

/-- Failures do not outlast the items of their key: in every run, no key has more
failures in a row than retries are granted, and as long as the queue is open, a key of
which no item is pending, in the hands of a caller or delayed has none, and no entry in
the table of failures. -/
theorem failures_end_with_items {history : List (Mark α)} {system : System α ω}
    (run : Runs plan admits history system) :
    (∀ key, system.limiter.failures key ≤ plan.backoff.retries.toNat) ∧
      (system.queue.closed = false → ∀ key, system.Spent key →
        system.limiter.failures key = 0 ∧ system.limiter.counts.contains key = false) := by
  refine ⟨failures_le_of_runs run, ?_⟩
  intro isOpen key spent
  have cleared : system.limiter.failures key = 0 := by
    by_contra failed
    exact spent.not_answered (answered_of_runs run isOpen (Nat.pos_of_ne_zero failed))
  refine ⟨cleared, ?_⟩
  rw [Table.contains, (tidy_of_runs run).find?_eq_none cleared]
  rfl

/-- A pod changes while its first reconciliation fails.  A second worker takes it up at
once and forgets the failure that the first one counts meanwhile.  The retry joins the
line all the same, and then no failure is left. -/
theorem failures_end_with_items_forgotten :
    let pod (version : String) : Pod :=
      { metadata := { name := some "a", ns := some "ns", resourceVersion := some version } }
    let key : Key := ⟨some "ns", "a"⟩
    let plan : Plan Pod Bool :=
      { name := "pod"
        backoff := {}
        handler := { sync := fun _ _ _ _ => .act (fun _ => true) fun tried =>
          if tried then .done else .fail (.other "unavailable") } }
    let counted : List (Action Pod Bool) :=
      [.enter 0 .worker, .enter 1 .worker, .receive {} (.applied (pod "1")), .passOn, .passOn] ++
        List.replicate 7 (.advance 0) ++ [.receive {} (.applied (pod "2")), .passOn, .passOn] ++
        List.replicate 3 (.advance 0) ++ List.replicate 3 (.advance 1) ++ [.advance 0]
    let settled : List (Action Pod Bool) :=
      List.replicate 5 (.advance 1) ++ [.advance 0, .advance 0, .elapse 5, .fire 0] ++
        List.replicate 12 (.advance 1)
    ∃ history system,
      (replay plan [] { world := false } counted).map (·.2.limiter.failures key) = some 1 ∧
        replay plan [] { world := false } (counted ++ settled) = some (history, system) ∧
        Runs plan (fun _ => True) history system ∧ system.queue.closed = false ∧
        system.Spent key ∧ system.limiter.failures key = 0 := by
  intro pod key plan counted settled
  have occur : ∀ action ∈ counted ++ settled, action.Occurs fun _ => True := by
    simp [counted, settled, Action.Occurs, Enumeration.fair_default]
  have counts : (replay plan [] { world := false } counted).map (·.2.limiter.failures key) =
      some 1 := by
    decide
  have shows : (replay plan [] { world := false } (counted ++ settled)).map (fun result =>
      (result.2.queue.closed, Decidable.decide (result.2.Spent key))) = some (false, true) := by
    decide
  obtain ⟨⟨history, system⟩, replayed, shown⟩ := Option.map_eq_some_iff.mp shows
  simp only [Prod.mk.injEq, decide_eq_true_eq] at shown
  obtain ⟨isOpen, spent⟩ := shown
  have run := (Runs.start false).replay occur replayed
  obtain ⟨-, settles⟩ := failures_end_with_items run
  exact ⟨history, system, counts, replayed, run, isOpen, spent, (settles isOpen key spent).1⟩

end System

end Reconciler
