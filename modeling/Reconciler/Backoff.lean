import Reconciler.Duration
import Reconciler.Key
import Reconciler.Table

/-!
# Retries with growing delays

Every key has a counter of failures in a row.  A failure below the limit asks for
a retry after a delay that doubles with every further failure up to a ceiling; a
failure at the limit drops the item and starts the counter anew.

Powers of two stop at `2 ^ 32 - 1` and delays at the longest duration, so the
delay is exact as long as neither bound is met.
-/

namespace Reconciler

/-- The retry policy of a controller. -/
structure Backoff where
  /-- The delay of the first retry. -/
  base : Duration := Duration.ofMillis 5
  /-- The longest delay of a retry. -/
  ceiling : Duration := Duration.ofSeconds 1000
  /-- The number of retries after which an item is dropped. -/
  retries : UInt32 := 15
deriving DecidableEq, Repr

/-- The largest count that a failure counter or a factor can take. -/
def countLimit : Nat :=
  Nat.pow 2 32 - 1

/-- Two to the number of failures so far, cut at the largest count. -/
def doubling (failures : Nat) : Nat :=
  if 32 ≤ failures then countLimit else Nat.pow 2 failures

/-- The delay of the retry after `failures` earlier failures in a row. -/
def Backoff.delay (backoff : Backoff) (failures : Nat) : Duration :=
  (backoff.base.scale (doubling failures)).shorter backoff.ceiling

/-- What becomes of a failed item. -/
inductive Verdict
  /-- It is tried again after a delay. -/
  | retry (delay : Duration)
  /-- It is dropped; all its failed attempts are counted. -/
  | drop (attempts : Nat)
deriving DecidableEq, Repr

/-- The failures in a row of every key. -/
structure Limiter where
  counts : Table Key Nat := Table.empty
deriving DecidableEq, Repr

namespace Limiter

/-- The number of retries that a key has been granted in a row. -/
def failures (limiter : Limiter) (key : Key) : Nat :=
  (limiter.counts.find? key).getD 0

/-- Forgets the failures of a key. -/
def forget (limiter : Limiter) (key : Key) : Limiter :=
  ⟨limiter.counts.erase key⟩

/-- What becomes of an item that failed with these failures of its key before. -/
def verdict (backoff : Backoff) (failures : Nat) : Verdict :=
  if backoff.retries.toNat ≤ failures then .drop (min (failures + 1) countLimit)
  else .retry (backoff.delay failures)

/-- Counts a failure of a key and decides about its item. -/
def fail (limiter : Limiter) (backoff : Backoff) (key : Key) : Verdict × Limiter :=
  let failures := limiter.failures key
  if backoff.retries.toNat ≤ failures then (verdict backoff failures, limiter.forget key)
  else (verdict backoff failures, ⟨limiter.counts.insert key (failures + 1)⟩)

/-- Forgetting starts the counter of the one key anew. -/
theorem failures_forget (limiter : Limiter) (key other : Key) :
    (limiter.forget key).failures other = if key = other then 0 else limiter.failures other := by
  unfold failures forget
  rw [Table.find?_erase]
  split <;> rfl

/-- A failure changes the counter of its key only. -/
theorem failures_fail (limiter : Limiter) (backoff : Backoff) (key other : Key) :
    (limiter.fail backoff key).2.failures other =
      if key = other then
        if backoff.retries.toNat ≤ limiter.failures key then 0 else limiter.failures key + 1
      else limiter.failures other := by
  unfold fail
  by_cases spent : backoff.retries.toNat ≤ limiter.failures key
  · simp [spent, failures_forget]
  · simp only [spent, if_false]
    unfold failures
    rw [Table.find?_insert]
    split <;> rfl

theorem fail_fst (limiter : Limiter) (backoff : Backoff) (key : Key) :
    (limiter.fail backoff key).1 = verdict backoff (limiter.failures key) := by
  simp only [fail]
  split <;> rfl

variable {limiter after : Limiter} {backoff : Backoff} {key : Key}

/-- A retry is granted below the limit only. -/
theorem failures_of_retry {delay : Duration}
    (failed : limiter.fail backoff key = (.retry delay, after)) :
    limiter.failures key < backoff.retries.toNat ∧
      after.failures key = limiter.failures key + 1 := by
  have spare : ¬backoff.retries.toNat ≤ limiter.failures key := by
    intro spent
    have verdict := fail_fst limiter backoff key
    rw [failed, Limiter.verdict, if_pos spent] at verdict
    cases verdict
  have counted := failures_fail limiter backoff key key
  rw [failed, if_pos rfl, if_neg spare] at counted
  exact ⟨by omega, counted⟩

theorem failures_of_drop {attempts : Nat}
    (failed : limiter.fail backoff key = (.drop attempts, after)) :
    backoff.retries.toNat ≤ limiter.failures key ∧ after.failures key = 0 := by
  have spent : backoff.retries.toNat ≤ limiter.failures key := by
    apply Decidable.byContradiction
    intro spare
    have verdict := fail_fst limiter backoff key
    rw [failed, Limiter.verdict, if_neg spare] at verdict
    cases verdict
  have counted := failures_fail limiter backoff key key
  rw [failed, if_pos rfl, if_pos spent] at counted
  exact ⟨spent, counted⟩

theorem failures_elsewhere {verdict : Verdict} {other : Key}
    (failed : limiter.fail backoff other = (verdict, after)) (apart : other ≠ key) :
    after.failures key = limiter.failures key := by
  have counted := failures_fail limiter backoff other key
  rwa [failed, if_neg apart] at counted

end Limiter

end Reconciler
