import Reconciler.Proofs.Failing

/-!
# The timetable of an item

Consider an item that nothing else happens to but its own attempts.  What becomes of it is
settled in advance, except for the outcomes of its attempts and the time that they take.  It
is attempted at once.  After a failure that may pass it is attempted again, as soon as the
delay for this failure is over, until it failed once more often than it is retried.  Then it
is dropped, which is reported.  After any other outcome it is never attempted again.

This file gives this timetable as rules about what is seen of the item on its way.
-/

namespace Reconciler

variable {α ω : Type}

instance (outcome : Outcome) : Decidable outcome.Transient :=
  decidable_of_iff
    ((System.failureOf outcome).any fun failure => failure.severity = .transient) <| by
      simp [Outcome.Transient, Option.any_eq_true]

/-- What is seen of an item on its way. -/
inductive Sighting (α ω : Type)
  /-- It was taken up, and the cache was read for it. -/
  | read (time : Nat) (current : Option α)
  /-- The handler was called for it. -/
  | called (call : Stage α ω)
  /-- An attempt has ended. -/
  | ended (time : Nat) (outcome : Outcome)
  /-- Its failure was counted and decided about, and this was written to the log. -/
  | ruled (time : Nat) (verdict : Verdict) (lines : List Line)

namespace Sighting

def isAttempt : Sighting α ω → Bool
  | .read .. => true
  | _ => false

/-- Whether an attempt failed in a way that may pass. -/
def isFailure : Sighting α ω → Bool
  | .ended _ outcome => outcome.Transient
  | _ => false

def isDrop : Sighting α ω → Bool
  | .ruled _ (.drop _) _ => true
  | _ => false

end Sighting

/-- How far an item has come, after a number of failed attempts. -/
inductive Standing (α : Type)
  /-- It is to be attempted at a time. -/
  | due (failures time : Nat)
  /-- It was taken up, and this was found in the cache. -/
  | taken (failures : Nat) (current : Option α)
  /-- It is being attempted. -/
  | tried (failures : Nat)
  /-- One more attempt has failed, at a time. -/
  | failed (failures time : Nat) (failure : Failure)
  /-- It is never attempted again. -/
  | finished

/-- How an item goes on, and what is seen of it.  The handler is called for the item as it
was, with what the cache held when the item was taken up, and a decision is made when the
attempt ends. -/
inductive Standing.Next (plan : Plan α ω) (work : Work α) :
    Standing α → Sighting α ω → Standing α → Prop
  | taken {failures time : Nat} {current : Option α} :
      Next plan work (.due failures time) (.read time current) (.taken failures current)
  | called {failures : Nat} {current : Option α} :
      Next plan work (.taken failures current) (.called (.opening plan work current))
        (.tried failures)
  | settled {failures time : Nat} {outcome : Outcome} :
      ¬outcome.Transient → Next plan work (.tried failures) (.ended time outcome) .finished
  | failed {failures time : Nat} {outcome : Outcome} {failure : Failure} :
      System.failureOf outcome = some failure → failure.severity = .transient →
      Next plan work (.tried failures) (.ended time outcome) (.failed failures time failure)
  /-- The next attempt is due when the delay is over, in whole milliseconds. -/
  | retried {failures time : Nat} {failure : Failure} :
      failures < plan.backoff.retries.toNat →
      Next plan work (.failed failures time failure)
        (.ruled time (.retry (plan.backoff.delay failures)) [])
        (.due (failures + 1) (time + (plan.backoff.delay failures).ceilMillis))
  | dropped {failures time attempts : Nat} {failure : Failure} :
      failures = plan.backoff.retries.toNat → attempts = min (failures + 1) countLimit →
      Next plan work (.failed failures time failure)
        (.ruled time (.drop attempts)
          [⟨.error, plan.name ++ " controller dropped " ++ work.key.text ++ " after " ++
            toString attempts ++ " attempts" ++ ": " ++ failure.message⟩])
        .finished

/-- How an item goes on or stays, given what is seen of it. -/
inductive Standing.Goes (plan : Plan α ω) (work : Work α) (standing : Standing α) :
    Option (Sighting α ω) → Standing α → Prop
  | stays : Goes plan work standing none standing
  | next {sighting : Sighting α ω} {after : Standing α} :
      standing.Next plan work sighting after → Goes plan work standing (some sighting) after

/-- What may have been seen of an item that is due since a time, the newest first, and how
far it has come. -/
inductive Timetable (plan : Plan α ω) (work : Work α) (since : Nat) :
    List (Sighting α ω) → Standing α → Prop
  | start : Timetable plan work since [] (.due 0 since)
  | next {log : List (Sighting α ω)} {standing after : Standing α} {sighting : Sighting α ω} :
      Timetable plan work since log standing → standing.Next plan work sighting after →
      Timetable plan work since (sighting :: log) after

theorem Timetable.goes {plan : Plan α ω} {work : Work α} {since : Nat}
    {log : List (Sighting α ω)} {standing after : Standing α} {sighting? : Option (Sighting α ω)}
    (table : Timetable plan work since log standing)
    (goes : standing.Goes plan work sighting? after) :
    Timetable plan work since (sighting?.toList ++ log) after := by
  cases goes with
  | stays => exact table
  | next next => exact table.next next

/-! ## How often an item is attempted -/

/-- The attempts, failures and drops that were seen of an item by the time it has come so
far, if it is retried so many times at most. -/
def Standing.Counts (retries attempts failed dropped : Nat) : Standing α → Prop
  | .due failures _ => failures ≤ retries ∧ attempts = failures ∧ failed = failures ∧ dropped = 0
  | .taken failures _ | .tried failures =>
      failures ≤ retries ∧ attempts = failures + 1 ∧ failed = failures ∧ dropped = 0
  | .failed failures _ _ =>
      failures ≤ retries ∧ attempts = failures + 1 ∧ failed = failures + 1 ∧ dropped = 0
  | .finished =>
      attempts ≤ retries + 1 ∧ failed ≤ attempts ∧
        dropped = if failed = retries + 1 then 1 else 0

theorem Standing.Counts.attempts_le {standing : Standing α} {retries attempts failed dropped : Nat}
    (counts : standing.Counts retries attempts failed dropped) : attempts ≤ retries + 1 := by
  cases standing <;> simp only [Counts] at counts <;> omega

namespace Timetable

variable {plan : Plan α ω} {work : Work α} {since : Nat} {log : List (Sighting α ω)}
  {standing : Standing α}

theorem counts (table : Timetable plan work since log standing) :
    standing.Counts plan.backoff.retries.toNat (log.countP Sighting.isAttempt)
      (log.countP Sighting.isFailure) (log.countP Sighting.isDrop) := by
  induction table with
  | start => exact ⟨Nat.zero_le _, rfl, rfl, rfl⟩
  | next table next ih =>
      simp only [List.countP_cons]
      cases next with
      | taken | called | retried =>
          simp only [Standing.Counts, Sighting.isAttempt, Sighting.isFailure, Sighting.isDrop,
            Bool.false_eq_true, if_true, if_false] at ih ⊢
          omega
      | settled passes =>
          simp only [Standing.Counts, Sighting.isAttempt, Sighting.isFailure, Sighting.isDrop,
            passes, decide_false, Bool.false_eq_true, if_false] at ih ⊢
          rw [if_neg (by omega)]
          omega
      | @failed _ _ outcome failure fails repeats =>
          have transient : outcome.Transient := ⟨failure, fails, repeats⟩
          simp only [Standing.Counts, Sighting.isAttempt, Sighting.isFailure, Sighting.isDrop,
            transient, decide_true, Bool.false_eq_true, if_true, if_false] at ih ⊢
          omega
      | dropped spent =>
          simp only [Standing.Counts, Sighting.isAttempt, Sighting.isFailure, Sighting.isDrop,
            Bool.false_eq_true, if_true, if_false] at ih ⊢
          rw [if_pos (by omega)]
          omega

end Timetable

end Reconciler
