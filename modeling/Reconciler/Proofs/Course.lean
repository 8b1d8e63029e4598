import Mathlib.Data.Nat.Find
import Mathlib.Data.Nat.Pairing
import Reconciler.Proofs.Conduct

/-!
# The course of a service

A course of a service goes on for ever.  It is fair if its clock comes to every time and
no caller that can go on is passed over for ever.  Every service has a fair course.

On a fair course whoever holds an item comes to the end of it: an item goes from stage
to stage, no other step takes it back, and there are only finitely many stages to go,
because every call of a handler ends.
-/

namespace Reconciler

variable {α ω : Type}

/-! ## The stages of an item -/

theorem Call.acc_continues (call : Call ω) :
    Acc (fun rest before : Call ω => before.Continues rest) call := by
  induction call with
  | finish outcome =>
      constructor
      intro rest continues
      cases continues
  | pause millis next ih =>
      constructor
      intro rest continues
      cases continues
      exact ih
  | say line next ih =>
      constructor
      intro rest continues
      cases continues
      exact ih
  | act effect next ih =>
      constructor
      intro rest continues
      cases continues with
      | act effect next world => exact ih world

namespace Stage

/-- The stage that a caller comes to from another one with the same item. -/
inductive Follows (plan : Plan α ω) (work : Work α) : Stage α ω → Stage α ω → Prop
  | looked {current : Option α} : Follows plan work (.looked current) .handed
  | called {current : Option α} : Follows plan work (.opening plan work current) (.looked current)
  | handled {stage next : Stage α ω} : stage.Goes plan work next → Follows plan work next stage
  | concluded {outcome : Outcome} : Follows plan work (.settling outcome) (.concluded outcome)
  | forgot : Follows plan work .releasing .forgetting
  | yielded {failure : Failure} : Follows plan work (.weighing failure) (.yielding failure)
  | granted {failure : Failure} {delay : Duration} :
      Follows plan work (.delaying failure delay) (.weighing failure)
  | noted {failure : Failure} {delay : Duration} :
      Follows plan work (.noting failure delay) (.delaying failure delay)

variable {plan : Plan α ω} {work : Work α}

/-- Only finitely many stages follow. -/
def Ends (plan : Plan α ω) (work : Work α) (stage : Stage α ω) : Prop :=
  Acc (Follows plan work) stage

theorem ends_noting (failure : Failure) (delay : Duration) :
    Ends plan work (.noting failure delay) := by
  constructor
  intro next follows
  cases follows with
  | handled goes => cases goes

theorem ends_delaying (failure : Failure) (delay : Duration) :
    Ends plan work (.delaying failure delay) := by
  constructor
  intro next follows
  cases follows with
  | handled goes => cases goes
  | noted => exact ends_noting failure delay

theorem ends_weighing (failure : Failure) : Ends plan work (.weighing failure) := by
  constructor
  intro next follows
  cases follows with
  | handled goes => cases goes
  | granted => exact ends_delaying failure _

theorem ends_yielding (failure : Failure) : Ends plan work (.yielding failure) := by
  constructor
  intro next follows
  cases follows with
  | handled goes => cases goes
  | yielded => exact ends_weighing failure

theorem ends_releasing : Ends plan work .releasing := by
  constructor
  intro next follows
  cases follows with
  | handled goes => cases goes

theorem ends_forgetting : Ends plan work .forgetting := by
  constructor
  intro next follows
  cases follows with
  | handled goes => cases goes
  | forgot => exact ends_releasing

theorem ends_settling (outcome : Outcome) : Ends plan work (.settling outcome) := by
  unfold settling
  split
  · exact ends_forgetting
  · split
    · exact ends_yielding _
    · exact ends_forgetting

theorem ends_concluded (outcome : Outcome) : Ends plan work (.concluded outcome) := by
  constructor
  intro next follows
  cases follows with
  | handled goes => cases goes
  | concluded => exact ends_settling outcome

theorem ends_syncing (call : Call ω) : Ends plan work (.syncing call) := by
  induction call.acc_continues with
  | intro call _ ih =>
      constructor
      intro next follows
      cases follows with
      | handled goes =>
          cases goes with
          | syncing continues => exact ih _ continues
          | ended => exact ends_concluded _

theorem ends_adopted (current : α) : Ends plan work (.adopted current) := by
  constructor
  intro next follows
  cases follows with
  | handled goes =>
      cases goes with
      | begun => exact ends_syncing _

theorem ends_adopting (current : α) (call : Call ω) : Ends plan work (.adopting current call) := by
  induction call.acc_continues with
  | intro call _ ih =>
      constructor
      intro next follows
      cases follows with
      | handled goes =>
          cases goes with
          | adopting continues => exact ih _ continues
          | adopted => exact ends_adopted current
          | unadopted => exact ends_concluded _

theorem ends_looked (current : Option α) : Ends plan work (.looked current) := by
  constructor
  intro next follows
  cases follows with
  | handled goes => cases goes
  | called =>
      unfold opening
      split
      · exact ends_adopting _ _
      · exact ends_syncing _

/-- Every item comes to an end. -/
theorem ends (plan : Plan α ω) (work : Work α) (stage : Stage α ω) : Ends plan work stage := by
  cases stage with
  | handed =>
      constructor
      intro next follows
      cases follows with
      | handled goes => cases goes
      | looked => exact ends_looked _
  | looked current => exact ends_looked current
  | adopting current call => exact ends_adopting current call
  | adopted current => exact ends_adopted current
  | syncing call => exact ends_syncing call
  | concluded outcome => exact ends_concluded outcome
  | forgetting => exact ends_forgetting
  | releasing => exact ends_releasing
  | yielding failure => exact ends_yielding failure
  | weighing failure => exact ends_weighing failure
  | delaying failure delay => exact ends_delaying failure delay
  | noting failure delay => exact ends_noting failure delay

end Stage

namespace System

variable [Resource α] {plan : Plan α ω} {before after : System α ω} {action : Action α ω}
  {mark : Option (Mark α)} {id : Nat} {caller : Caller α ω} {work : Work α} {stage : Stage α ω}

/-- Whoever holds an item and goes on comes to the next stage, or has done with it. -/
theorem Turn.follows (turn : Turn plan before (.advance id) mark after)
    (found : before.callers.find? id = some caller)
    (held : caller.point.held? = some (work, stage))
    (closed : before.queue.closed = true) :
    ∃ next, after.callers.find? id = some next ∧ (next.point.held? = none ∨
      ∃ nextStage, next.point.held? = some (work, nextStage) ∧
        nextStage.Follows plan work stage) := by
  have goesOn {other next : Caller α ω} {otherWork : Work α} {otherStage nextStage : Stage α ω}
      (finds : before.callers.find? id = some other)
      (holds : other.point.held? = some (otherWork, otherStage))
      (stillHolds : next.point.held? = some (otherWork, nextStage))
      (follows : nextStage.Follows plan otherWork otherStage) :
      ∃ next', (before.callers.insert id next).find? id = some next' ∧
        (next'.point.held? = none ∨ ∃ nextStage, next'.point.held? = some (work, nextStage) ∧
          nextStage.Follows plan work stage) := by
    obtain rfl := Option.some.inj (found.symm.trans finds)
    obtain ⟨rfl, rfl⟩ := Prod.mk.inj (Option.some.inj (held.symm.trans holds))
    exact ⟨next, by rw [Table.find?_insert, if_pos rfl], .inr ⟨nextStage, stillHolds, follows⟩⟩
  have ends {next : Caller α ω} (bare : next.point.held? = none) :
      ∃ next', (before.callers.insert id next).find? id = some next' ∧
        (next'.point.held? = none ∨ ∃ nextStage, next'.point.held? = some (work, nextStage) ∧
          nextStage.Follows plan work stage) :=
    ⟨next, by rw [Table.find?_insert, if_pos rfl], .inl bare⟩
  cases turn with
  | quiet _ noAdvance => exact (noAdvance id rfl).elim
  | moved finds bare next reason =>
      rcases reason with same | same <;> cases same
      exact ends next
  | waited _ _ next => exact ends next
  | took _ _ taken | carried _ _ taken =>
      rw [Queue.take_of_closed closed] at taken
      cases taken
  | looked finds holds => exact goesOn finds holds rfl .looked
  | called finds holds => exact goesOn finds holds rfl .called
  | handled finds holds goes => exact goesOn finds holds rfl (.handled goes)
  | concluded finds holds => exact goesOn finds holds rfl .concluded
  | forgot finds holds => exact goesOn finds holds rfl .forgot
  | yielded finds holds => exact goesOn finds holds rfl .yielded
  | granted finds holds => exact goesOn finds holds rfl .granted
  | returned finds holds | delayed finds holds | refused finds holds =>
      exact goesOn finds holds rfl .noted
  | released | dropped | noted => exact ends (Point.held?_rest _ _)

theorem Turn.now_eq (turn : Turn plan before action mark after)
    (moves : action = .passOn ∨ ∃ id, action = .advance id) : after.now = before.now := by
  cases turn with
  | quiet noPass noAdvance =>
      rcases moves with passes | ⟨id, advances⟩
      · exact (noPass passes).elim
      · exact (noAdvance id advances).elim
  | _ => rfl

theorem receive_now (plan : Plan α ω) (system : System α ω) (order : Enumeration α)
    (event : Event α) : (system.receive plan order event).now = system.now := by
  unfold receive
  split
  · split <;> rfl
  · rfl

end System

namespace Service

variable [Resource α] {plan : Plan α ω} {settings : Settings}

/-- Time does not run backwards. -/
theorem now_le {control : Control} {before after : System α ω} {action : Action α ω}
    (permitted : permits control action = true) (acted : before.act plan action = some after) :
    before.now ≤ after.now := by
  obtain ⟨mark, turn⟩ := turn_of_permitted permitted acted
  cases action with
  | receive order event =>
      simp only [System.act] at acted
      split at acted
      · rw [← Option.some.inj acted, System.receive_now]
      · cases acted
  | receiveFailure failure =>
      simp only [System.act] at acted
      split at acted
      · exact Option.some.inj acted ▸ le_refl _
      · cases acted
  | passOn => exact (turn.now_eq (.inl rfl)).ge
  | advance id => exact (turn.now_eq (.inr ⟨id, rfl⟩)).ge
  | fire ticket =>
      simp only [System.act, System.fire] at acted
      split at acted
      · cases acted
      · split at acted
        · exact Option.some.inj acted ▸ le_refl _
        · cases acted
  | alter effect =>
      obtain rfl := Option.some.inj acted
      exact le_refl _
  | elapse millis =>
      obtain rfl := Option.some.inj acted
      exact Nat.le_add_right _ _
  | _ => cases permitted

theorem Turn.now_le {service after : Service α ω} {move : Move α ω}
    (turn : Turn plan service move after) : service.system.now ≤ after.system.now := by
  cases turn with
  | acted permitted acted => exact Service.now_le permitted acted
  | _ => exact le_refl _

/-- A service that goes on for ever. -/
structure Course (plan : Plan α ω) where
  state : Nat → Service α ω
  move : Nat → Move α ω
  goes : ∀ n, (state n).act plan (move n) = some (state (n + 1))

namespace Course

variable {course : Course plan}

/-- The clock comes to every time, and no caller that can go on is passed over for ever. -/
structure Fair (course : Course plan) : Prop where
  clock : ∀ time n, ∃ m, n ≤ m ∧ time ≤ (course.state m).system.now
  callers : ∀ id n, ∃ m, n ≤ m ∧ (course.move m = .act (.advance id) ∨
    (course.state m).act plan (.act (.advance id)) = none)

theorem turn (course : Course plan) (n : Nat) :
    Service.Turn plan (course.state n) (course.move n) (course.state (n + 1)) :=
  turn_of_act (course.goes n)

theorem orderly (begins : (course.state 0).Orderly plan settings) (n : Nat) :
    (course.state n).Orderly plan settings := by
  induction n with
  | zero => exact begins
  | succ n ih => exact ih.step (course.turn n)

theorem now_mono (course : Course plan) {n m : Nat} (later : n ≤ m) :
    (course.state n).system.now ≤ (course.state m).system.now := by
  induction m, later using Nat.le_induction with
  | base => exact le_refl _
  | succ m _ ih => exact ih.trans (course.turn m).now_le

theorem closed (begins : (course.state 0).system.queue.closed = true) (n : Nat) :
    (course.state n).system.queue.closed = true := by
  induction n with
  | zero => exact begins
  | succ n ih => exact (course.turn n).staysClosed ih

/-! ## Whoever holds an item -/

section Holding

variable (begins : (course.state 0).Orderly plan settings)
  (closed : (course.state 0).system.queue.closed = true) {id : Nat} {caller : Caller α ω}
  {work : Work α} {stage : Stage α ω}

include begins in
theorem find?_stays {n m : Nat} (found : (course.state n).system.callers.find? id = some caller)
    (later : n ≤ m) (rests : ∀ k, n ≤ k → k < m → course.move k ≠ .act (.advance id)) :
    (course.state m).system.callers.find? id = some caller := by
  induction m, later using Nat.le_induction with
  | base => exact found
  | succ m later ih =>
      have before := ih fun k first last => rests k first (by omega)
      obtain ⟨action, mark, turn, noCancel, advances⟩ :=
        (course.turn m).system (orderly begins m).absent_new
      have noAdvance : action ≠ .advance id := by
        intro same
        exact rests m later (by omega) ((advances id).mp same)
      rw [turn.find?_eq noAdvance (noCancel id) fun _ _ => by simp [before]]
      exact before

include begins in
/-- Whoever holds an item goes on at some time. -/
theorem exists_advance (fair : course.Fair) {n : Nat}
    (found : (course.state n).system.callers.find? id = some caller)
    (held : caller.point.held? = some (work, stage)) :
    ∃ m, n ≤ m ∧ (course.state m).system.callers.find? id = some caller ∧
      course.move m = .act (.advance id) := by
  obtain ⟨due, afterwards, rested⟩ := fair.clock caller.resumes n
  obtain ⟨m, later, fairly⟩ := fair.callers id due
  by_cases sooner : ∃ k, n ≤ k ∧ k < m ∧ course.move k = .act (.advance id)
  · -- The caller rests until its first step.
    classical
    obtain ⟨first, last, moves⟩ := Nat.find_spec sooner
    refine ⟨Nat.find sooner, first, find?_stays begins found first ?_, moves⟩
    intro k after before same
    exact Nat.find_min sooner before ⟨after, by omega, same⟩
  · have found : (course.state m).system.callers.find? id = some caller := by
      apply find?_stays begins found (by omega)
      intro k after before same
      exact sooner ⟨k, after, before, same⟩
    refine ⟨m, by omega, found, ?_⟩
    rcases fairly with moves | stuck
    · exact moves
    · have awake : ¬(course.state m).system.now < caller.resumes := by
        have := course.now_mono later
        omega
      have point := Point.eq_holding held
      simp [Service.act, permits, System.act, System.advance_of_holding found point, awake]
        at stuck

include begins closed in
/-- Whoever holds an item has done with it at some time. -/
theorem exists_bare (fair : course.Fair) {n : Nat}
    (found : (course.state n).system.callers.find? id = some caller)
    (held : caller.point.held? = some (work, stage)) :
    ∃ m, n ≤ m ∧ ∃ next, (course.state m).system.callers.find? id = some next ∧
      next.point.held? = none := by
  induction stage.ends plan work generalizing n caller with
  | intro stage _ ih =>
      obtain ⟨m, later, found, moves⟩ := exists_advance begins fair found held
      obtain ⟨action, mark, turn, -, advances⟩ :=
        (course.turn m).system (orderly begins m).absent_new
      obtain rfl := (advances id).mpr moves
      obtain ⟨next, finds, bare | ⟨nextStage, holds, follows⟩⟩ :=
        turn.follows found held (Course.closed closed m)
      · exact ⟨m + 1, by omega, next, finds, bare⟩
      · obtain ⟨k, laterStill, last, findsLast, bare⟩ := ih nextStage follows finds holds
        exact ⟨k, by omega, last, findsLast, bare⟩

end Holding

/-! ## A fair course -/

/-- The service a millisecond later. -/
def wait (service : Service α ω) : Service α ω :=
  { service with system := { service.system with now := service.system.now + 1 } }

/-- The service after moves that are made if they are possible; otherwise time passes. -/
def attempt (plan : Plan α ω) (first : Service α ω) (wish : Nat → Move α ω) : Nat → Service α ω
  | 0 => first
  | n + 1 =>
      let before := attempt plan first wish n
      (before.act plan (wish n)).getD (wait before)

/-- The course of a service that attempts moves. -/
def ofWish (plan : Plan α ω) (first : Service α ω) (wish : Nat → Move α ω) : Course plan where
  state := attempt plan first wish
  move n := if ((attempt plan first wish n).act plan (wish n)).isSome then wish n
    else .act (.elapse 1)
  goes n := by
    cases acted : (attempt plan first wish n).act plan (wish n) with
    | some after =>
        rw [if_pos Option.isSome_some, attempt, acted, Option.getD_some]
    | none =>
        rw [if_neg (by simp), attempt, acted, Option.getD_none]
        rfl

/-- Every other move waits, and the others go through all callers again and again. -/
def turnByTurn (n : Nat) : Move α ω :=
  if n % 2 = 0 then .act (.elapse 1) else .act (.advance (Nat.unpair (n / 2)).1)

theorem now_turnByTurn (first : Service α ω) (n : Nat) :
    n ≤ ((ofWish plan first turnByTurn).state (2 * n)).system.now := by
  induction n with
  | zero => exact Nat.zero_le _
  | succ n ih =>
      have even : 2 * n % 2 = 0 := by omega
      have waited : (ofWish plan first turnByTurn).state (2 * n + 1) =
          wait ((ofWish plan first turnByTurn).state (2 * n)) := by
        show (((ofWish plan first turnByTurn).state (2 * n)).act plan
          (turnByTurn (2 * n))).getD _ = _
        rw [turnByTurn, if_pos even]
        rfl
      have later := now_mono (ofWish plan first turnByTurn) (Nat.le_add_right (2 * n + 1) 1)
      rw [waited] at later
      have step : (wait ((ofWish plan first turnByTurn).state (2 * n))).system.now =
          ((ofWish plan first turnByTurn).state (2 * n)).system.now + 1 := rfl
      show n + 1 ≤ ((ofWish plan first turnByTurn).state (2 * n + 1 + 1)).system.now
      omega

/-- Every service has a fair course. -/
theorem exists_fair (plan : Plan α ω) (first : Service α ω) :
    ∃ course : Course plan, course.state 0 = first ∧ course.Fair := by
  refine ⟨ofWish plan first turnByTurn, rfl, ?_, ?_⟩
  · intro time n
    refine ⟨2 * max time n, by omega, ?_⟩
    exact (Nat.le_max_left time n).trans (now_turnByTurn first (max time n))
  · intro id n
    let m := 2 * Nat.pair id n + 1
    have late : n ≤ m := by
      have := Nat.right_le_pair id n
      omega
    have wish : (turnByTurn m : Move α ω) = .act (.advance id) := by
      have odd : m % 2 ≠ 0 := by omega
      have half : m / 2 = Nat.pair id n := by omega
      rw [turnByTurn, if_neg odd, half, Nat.unpair_pair]
    refine ⟨m, late, ?_⟩
    cases acted : ((ofWish plan first turnByTurn).state m).act plan (.act (.advance id)) with
    | none => exact .inr rfl
    | some after =>
        left
        show (if (((ofWish plan first turnByTurn).state m).act plan (turnByTurn m)).isSome
          then turnByTurn m else _) = _
        rw [wish, acted]
        rfl

end Course

end Service

end Reconciler
