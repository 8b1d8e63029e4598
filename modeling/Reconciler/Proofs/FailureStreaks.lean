import Mathlib.Algebra.Group.Nat.Defs
import Reconciler.Backoff

/-!
# Failures in a row

A limiter keeps one counter for every key.  This file compares the counters with the
records of what was asked of the limiter and what it decided: the counter of a key is the
length of its streak, the number of its failures since it was last forgotten or dropped.
Requests about other keys do not matter.

A streak ends with a drop as soon as it is as long as the number of retries.  Until then
its delays grow.  They double with every failure as long as the doubling can be counted,
and from there on they stay what they are, even short of the ceiling.
-/

namespace Reconciler

/-! ## The growth of delays -/

theorem doubling_eq (failures : Nat) : doubling failures = min (2 ^ failures) countLimit := by
  have limit : countLimit = 2 ^ 32 - 1 := rfl
  unfold doubling
  split
  next far =>
    have large : 2 ^ 32 ≤ 2 ^ failures := Nat.pow_le_pow_right (by omega) far
    omega
  next near =>
    have small : 2 ^ failures ≤ 2 ^ 31 := Nat.pow_le_pow_right (by omega) (by omega)
    have same : Nat.pow 2 failures = 2 ^ failures := rfl
    omega

theorem doubling_mono {fewer more : Nat} (le : fewer ≤ more) : doubling fewer ≤ doubling more := by
  have power : 2 ^ fewer ≤ 2 ^ more := Nat.pow_le_pow_right (by omega) le
  rw [doubling_eq, doubling_eq]
  omega

namespace Backoff

variable (backoff : Backoff)

/-- A delay is exact but for the limit of the factor.  A product that is cut at the longest
duration is cut at the ceiling anyway. -/
theorem delay_nanos (failures : Nat) :
    (backoff.delay failures).nanos =
      min (backoff.base.nanos * doubling failures) backoff.ceiling.nanos := by
  have bounded := backoff.ceiling.nanos_le
  rw [delay, Duration.shorter_nanos, Duration.scale_nanos]
  omega

theorem delay_le_ceiling (failures : Nat) :
    (backoff.delay failures).nanos ≤ backoff.ceiling.nanos := by
  rw [delay_nanos]
  exact Nat.min_le_right _ _

theorem delay_mono {fewer more : Nat} (le : fewer ≤ more) :
    (backoff.delay fewer).nanos ≤ (backoff.delay more).nanos := by
  have product := Nat.mul_le_mul_left backoff.base.nanos (doubling_mono le)
  rw [delay_nanos, delay_nanos]
  omega

/-- A delay is the exact power exactly if the factor can be counted, or if it does not
matter what the factor is. -/
theorem delay_exact_iff (failures : Nat) :
    (backoff.delay failures).nanos =
        min (backoff.base.nanos * 2 ^ failures) backoff.ceiling.nanos ↔
      failures < 32 ∨ backoff.base.nanos = 0 ∨
        backoff.ceiling.nanos ≤ backoff.base.nanos * countLimit := by
  rw [delay_nanos, doubling_eq]
  have limit : countLimit = 2 ^ 32 - 1 := rfl
  by_cases near : failures < 32
  · have small : 2 ^ failures ≤ 2 ^ 31 := Nat.pow_le_pow_right (by omega) (by omega)
    have counted : min (2 ^ failures) countLimit = 2 ^ failures := Nat.min_eq_left (by omega)
    simp [counted, near]
  · have large : countLimit < 2 ^ failures := by
      have grown : 2 ^ 32 ≤ 2 ^ failures := Nat.pow_le_pow_right (by omega) (by omega)
      omega
    rw [Nat.min_eq_right (Nat.le_of_lt large)]
    by_cases still : backoff.base.nanos = 0
    · simp [still]
    · have longer : backoff.base.nanos * countLimit < backoff.base.nanos * 2 ^ failures :=
        Nat.mul_lt_mul_of_pos_left large (Nat.pos_of_ne_zero still)
      simp only [near, still, false_or]
      omega

end Backoff

namespace Limiter

/-! ## Requests and records -/

/-- What is asked of a limiter. -/
inductive Request
  | fail (key : Key)
  | forget (key : Key)
deriving DecidableEq, Repr

/-- What was asked of a limiter, with its decision. -/
inductive Record
  | failed (key : Key) (verdict : Verdict)
  | forgot (key : Key)
deriving DecidableEq, Repr

def Request.key : Request → Key
  | .fail key => key
  | .forget key => key

namespace Record

def key : Record → Key
  | failed key _ => key
  | forgot key => key

def isFailure : Record → Bool
  | failed _ _ => true
  | forgot _ => false

/-- Whether the failures in a row of the key end here. -/
def isRestart : Record → Bool
  | failed _ (.drop _) => true
  | failed _ (.retry _) => false
  | forgot _ => true

/-- The failures in a row of a key after a record, given those before. -/
def count (record : Record) (key : Key) (failures : Nat) : Nat :=
  if record.key = key then
    if record.isRestart then 0
    else failures + if record.isFailure then 1 else 0
  else failures

end Record

/-- The failures of a key since it was last forgotten or dropped, given the records with
the newest first. -/
def streak (key : Key) (records : List Record) : Nat :=
  ((records.filter fun record => record.key = key).takeWhile fun record =>
    !record.isRestart).countP Record.isFailure

def serve (backoff : Backoff) (limiter : Limiter) : Request → Record × Limiter
  | .fail key =>
      let (verdict, after) := limiter.fail backoff key
      (.failed key verdict, after)
  | .forget key => (.forgot key, limiter.forget key)

/-- The records of the requests to a new limiter, and the limiter after them; the newest
requests and records come first. -/
def serveAll (backoff : Backoff) : List Request → List Record × Limiter
  | [] => ([], {})
  | request :: earlier =>
      let (records, limiter) := serveAll backoff earlier
      let (record, after) := limiter.serve backoff request
      (record :: records, after)

variable {backoff : Backoff} {limiter : Limiter} {key : Key}

theorem streak_cons (key : Key) (record : Record) (records : List Record) :
    streak key (record :: records) = record.count key (streak key records) := by
  unfold streak Record.count
  by_cases own : record.key = key
  · cases restart : record.isRestart <;> simp [own, restart, List.countP_cons]
  · simp [own]

theorem isRestart_failed (key : Key) (failures : Nat) :
    (Record.failed key (verdict backoff failures)).isRestart =
      decide (backoff.retries.toNat ≤ failures) := by
  unfold verdict
  split
  next spent => simp [Record.isRestart, spent]
  next spare => simp [Record.isRestart, spare]

theorem verdict_eq_retry_iff {failures : Nat} {delay : Duration} :
    verdict backoff failures = .retry delay ↔
      failures < backoff.retries.toNat ∧ delay = backoff.delay failures := by
  unfold verdict
  split
  next spent => simp [Nat.not_lt.mpr spent]
  next spare => simp [Nat.not_le.mp spare, eq_comm]

theorem verdict_eq_drop_iff {failures attempts : Nat} :
    verdict backoff failures = .drop attempts ↔
      backoff.retries.toNat ≤ failures ∧ attempts = min (failures + 1) countLimit := by
  unfold verdict
  split
  next spent => simp [spent, eq_comm]
  next spare => simp [spare]

/-! ## Counters and streaks -/

theorem serve_fst_fail (limiter : Limiter) (key : Key) :
    (limiter.serve backoff (.fail key)).1 =
      .failed key (verdict backoff (limiter.failures key)) := by
  rw [← fail_fst]
  rfl

/-- A failure at the limit ends the streak of its key, and any other one is part of it. -/
theorem count_failed (key other : Key) (failures : Nat) :
    (Record.failed key (verdict backoff failures)).count other failures =
      if key = other then if backoff.retries.toNat ≤ failures then 0 else failures + 1
      else failures := by
  simp only [Record.count, isRestart_failed, decide_eq_true_eq]
  rfl

theorem failures_serve (backoff : Backoff) (limiter : Limiter) (request : Request) (key : Key) :
    (limiter.serve backoff request).2.failures key =
      (limiter.serve backoff request).1.count key (limiter.failures key) := by
  cases request with
  | forget other => exact limiter.failures_forget other key
  | fail other =>
      refine (limiter.failures_fail backoff other key).trans ?_
      rw [serve_fst_fail]
      by_cases own : other = key
      · subst own
        rw [count_failed]
      · simp [Record.count, Record.key, own]

/-- The counter of a key is the length of its streak. -/
theorem failures_serveAll (backoff : Backoff) (requests : List Request) (key : Key) :
    (serveAll backoff requests).2.failures key = streak key (serveAll backoff requests).1 := by
  induction requests with
  | nil => rfl
  | cons request earlier ih =>
      have counted := failures_serve backoff (serveAll backoff earlier).2 request key
      rw [ih] at counted
      exact counted.trans (streak_cons key _ _).symm

theorem failures_serve_le {limiter : Limiter} {key : Key}
    (bounded : limiter.failures key ≤ backoff.retries.toNat) (request : Request) :
    (limiter.serve backoff request).2.failures key ≤ backoff.retries.toNat := by
  cases request with
  | forget other =>
      change (limiter.forget other).failures key ≤ _
      rw [failures_forget]
      split <;> omega
  | fail other =>
      change (limiter.fail backoff other).2.failures key ≤ _
      rw [failures_fail]
      split
      next own =>
        subst own
        split <;> omega
      · exact bounded

/-- No streak is longer than the number of retries. -/
theorem streak_le_retries (backoff : Backoff) (requests : List Request) (key : Key) :
    streak key (serveAll backoff requests).1 ≤ backoff.retries.toNat := by
  rw [← failures_serveAll]
  induction requests with
  | nil => exact Nat.zero_le _
  | cons request earlier ih => exact failures_serve_le ih request

/-! ## One key among others -/

theorem key_serve (backoff : Backoff) (limiter : Limiter) (request : Request) :
    (limiter.serve backoff request).1.key = request.key := by
  cases request <;> rfl

theorem serve_fst_congr (backoff : Backoff) {first second : Limiter} {request : Request}
    (same : first.failures request.key = second.failures request.key) :
    (first.serve backoff request).1 = (second.serve backoff request).1 := by
  cases request with
  | fail key =>
      change first.failures key = second.failures key at same
      rw [serve_fst_fail, serve_fst_fail, same]
  | forget key => rfl

/-- What becomes of a key depends on the requests about this key only. -/
theorem serveAll_filter (backoff : Backoff) (requests : List Request) (key : Key) :
    (serveAll backoff (requests.filter fun request => request.key = key)).1 =
        ((serveAll backoff requests).1.filter fun record => record.key = key) ∧
      (serveAll backoff (requests.filter fun request => request.key = key)).2.failures key =
        (serveAll backoff requests).2.failures key := by
  induction requests with
  | nil => exact ⟨rfl, rfl⟩
  | cons request earlier ih =>
      obtain ⟨records, failures⟩ := ih
      have served : (serveAll backoff (request :: earlier)).1 =
          ((serveAll backoff earlier).2.serve backoff request).1 :: (serveAll backoff earlier).1 :=
        rfl
      have counted := failures_serve backoff (serveAll backoff earlier).2 request key
      rw [served, List.filter_cons, List.filter_cons, key_serve]
      by_cases own : request.key = key
      · subst own
        simp only [decide_true, if_true]
        have record := serve_fst_congr backoff failures
        refine ⟨List.cons_eq_cons.mpr ⟨record, records⟩, ?_⟩
        refine (failures_serve backoff _ request request.key).trans ?_
        rw [record, failures]
        exact counted.symm
      · simp only [own, decide_false, Bool.false_eq_true, if_false]
        refine ⟨records, failures.trans ?_⟩
        refine Eq.trans ?_ counted.symm
        rw [Record.count, key_serve, if_neg own]

/-! ## Delays between two restarts -/

/-- A failure was decided by the streak of its key before. -/
theorem verdict_of_record {requests : List Request} {later earlier : List Record}
    {verdict : Verdict}
    (split : (serveAll backoff requests).1 = later ++ .failed key verdict :: earlier) :
    verdict = Limiter.verdict backoff (streak key earlier) := by
  induction requests generalizing later with
  | nil => simp [serveAll] at split
  | cons request former ih =>
      change ((serveAll backoff former).2.serve backoff request).1 :: (serveAll backoff former).1 =
        later ++ .failed key verdict :: earlier at split
      cases later with
      | cons record later => exact ih (List.cons.inj split).2
      | nil =>
          obtain ⟨here, rfl⟩ := List.cons.inj split
          cases request with
          | forget other => cases here
          | fail other =>
              rw [serve_fst_fail, failures_serveAll] at here
              obtain ⟨rfl, rfl⟩ := Record.failed.inj here
              rfl

/-- A streak that does not end only grows. -/
theorem streak_le_append {between earlier : List Record}
    (goesOn : ∀ record ∈ between, record.key = key → record.isRestart = false) :
    streak key earlier ≤ streak key (between ++ earlier) := by
  induction between with
  | nil => exact Nat.le_refl _
  | cons record between ih =>
      have rest := ih fun other member => goesOn other (List.mem_cons_of_mem _ member)
      rw [List.cons_append, streak_cons, Record.count]
      split
      next own =>
        rw [goesOn record List.mem_cons_self own]
        simp only [Bool.false_eq_true, if_false]
        omega
      · exact rest

/-- Every key of a limiter has a counter of its own. -/
structure Counts (backoff : Backoff) (requests : List Request) (key : Key) : Prop where
  /-- The counter is the number of failures since the key was last forgotten or dropped. -/
  counter : (serveAll backoff requests).2.failures key = streak key (serveAll backoff requests).1
  /-- Without the requests about other keys it would be the same, and so would be what was
  decided about the key. -/
  alone :
    let own := serveAll backoff (requests.filter fun request => request.key = key)
    own.2.failures key = (serveAll backoff requests).2.failures key ∧
      own.1 = (serveAll backoff requests).1.filter fun record => record.key = key
  drops_iff : ∀ attempts,
    ((serveAll backoff requests).2.fail backoff key).1 = .drop attempts ↔
      streak key (serveAll backoff requests).1 = backoff.retries.toNat ∧
        attempts = min (backoff.retries.toNat + 1) countLimit
  restarts : ∀ attempts after,
    (serveAll backoff requests).2.fail backoff key = (.drop attempts, after) →
      after.failures key = 0
  /-- A failure that is retried is counted, and there is room for it. -/
  counted : ∀ delay after,
    (serveAll backoff requests).2.fail backoff key = (.retry delay, after) →
      after.failures key = streak key (serveAll backoff requests).1 + 1 ∧
        after.failures key ≤ countLimit
  bounded : ∀ delay, .failed key (.retry delay) ∈ (serveAll backoff requests).1 →
    delay.nanos ≤ backoff.ceiling.nanos
  grows : ∀ newer between older longer shorter,
    (serveAll backoff requests).1 = newer ++ .failed key (.retry longer) ::
        (between ++ .failed key (.retry shorter) :: older) →
      (∀ record ∈ between, record.key = key → record.isRestart = false) →
      shorter.nanos ≤ longer.nanos

/-- Whatever is asked of a limiter, in whatever order, its keys do not get into each other's
way, and every one of them has its own count of failures and its own growing delays. -/
theorem keys_count_apart (backoff : Backoff) (requests : List Request) (key : Key) :
    Counts backoff requests key where
  counter := failures_serveAll backoff requests key
  alone := (serveAll_filter backoff requests key).symm
  drops_iff attempts := by
    have bounded := streak_le_retries backoff requests key
    rw [fail_fst, failures_serveAll, verdict_eq_drop_iff]
    constructor
    · rintro ⟨spent, rfl⟩
      have full := Nat.le_antisymm bounded spent
      exact ⟨full, by rw [full]⟩
    · rintro ⟨full, rfl⟩
      exact ⟨Nat.le_of_eq full.symm, by rw [full]⟩
  restarts attempts after failed := (failures_of_drop failed).2
  counted delay after failed := by
    obtain ⟨spare, counted⟩ := failures_of_retry failed
    have limit : countLimit = 2 ^ 32 - 1 := rfl
    have width := backoff.retries.toNat_lt
    rw [failures_serveAll] at spare counted
    exact ⟨counted, by omega⟩
  bounded delay member := by
    obtain ⟨later, earlier, split⟩ := List.append_of_mem member
    obtain ⟨-, rfl⟩ := verdict_eq_retry_iff.mp (verdict_of_record split).symm
    exact backoff.delay_le_ceiling _
  grows newer between older longer shorter split goesOn := by
    have rest : (serveAll backoff requests).1 =
        (newer ++ .failed key (.retry longer) :: between) ++
          .failed key (.retry shorter) :: older := by
      rw [split, List.append_assoc, List.cons_append]
    obtain ⟨-, longerEq⟩ := verdict_eq_retry_iff.mp (verdict_of_record split).symm
    obtain ⟨-, shorterEq⟩ := verdict_eq_retry_iff.mp (verdict_of_record rest).symm
    have grown : streak key older ≤
        streak key (between ++ .failed key (.retry shorter) :: older) := by
      refine Nat.le_trans ?_ (streak_le_append goesOn)
      rw [streak_cons, Record.count]
      simp [Record.isRestart, Record.key]
    calc shorter.nanos = (backoff.delay (streak key older)).nanos := congrArg _ shorterEq
      _ ≤ (backoff.delay (streak key (between ++ .failed key (.retry shorter) :: older))).nanos :=
        backoff.delay_mono grown
      _ = longer.nanos := congrArg _ longerEq.symm

/-- Two keys fail in turn, the first one has two retries and is dropped, and then it begins
again. -/
theorem keys_count_apart_in_turn :
    let backoff : Backoff := { base := Duration.ofMillis 10, retries := 2 }
    let first : Key := ⟨some "ns", "a"⟩
    let second : Key := ⟨none, "a"⟩
    let requests : List Request :=
      [.fail first, .fail first, .fail second, .fail first, .forget second, .fail second,
        .fail first]
    let records := (serveAll backoff requests).1
    records =
        [.failed first (.retry (Duration.ofMillis 10)), .failed first (.drop 3),
          .failed second (.retry (Duration.ofMillis 10)),
          .failed first (.retry (Duration.ofMillis 20)), .forgot second,
          .failed second (.retry (Duration.ofMillis 10)),
          .failed first (.retry (Duration.ofMillis 10))] ∧
      streak first records = 1 ∧
      (serveAll backoff requests).2.failures first = 1 ∧
      (Duration.ofMillis 10).nanos ≤ (Duration.ofMillis 20).nanos := by
  intro backoff first second requests records
  have inRow : streak first records = 1 := by decide
  have counts := keys_count_apart backoff requests first
  suffices listed : records = _ from
    ⟨listed, inRow, counts.counter.trans inRow,
      counts.grows [_, _, _] [_, _] [] _ _ listed (by decide)⟩
  decide

/-! ## Doubling -/

/-- The retry after a streak waits for the first delay doubled with every failure of the
streak, cut at the ceiling, as long as the doubling can be counted.  The factor is exact
for the first thirty-two failures and stays the largest count from there on. -/
theorem delay_doubles_while_counted {backoff : Backoff} {requests : List Request} {key : Key}
    {failures : Nat} (inRow : streak key (serveAll backoff requests).1 = failures)
    (spare : failures < backoff.retries.toNat) :
    ∃ delay after, (serveAll backoff requests).2.fail backoff key = (.retry delay, after) ∧
      delay.nanos =
        min (backoff.base.nanos * min (2 ^ failures) countLimit) backoff.ceiling.nanos ∧
      (delay.nanos = min (backoff.base.nanos * 2 ^ failures) backoff.ceiling.nanos ↔
        failures < 32 ∨ backoff.base.nanos = 0 ∨
          backoff.ceiling.nanos ≤ backoff.base.nanos * countLimit) := by
  have decided : ((serveAll backoff requests).2.fail backoff key).1 =
      .retry (backoff.delay failures) := by
    rw [fail_fst, failures_serveAll, inRow]
    exact verdict_eq_retry_iff.mpr ⟨spare, rfl⟩
  refine ⟨backoff.delay failures, _, Prod.ext decided rfl, ?_, backoff.delay_exact_iff failures⟩
  rw [← doubling_eq, backoff.delay_nanos]

/-- Five failures of a key with another one in between.  The next delay is thirty-two times
the first one. -/
theorem delay_doubles_while_counted_fivefold :
    let backoff : Backoff := {}
    let key : Key := ⟨some "ns", "a"⟩
    let requests : List Request :=
      .fail key :: .fail key :: .fail ⟨none, "b"⟩ :: List.replicate 3 (.fail key)
    streak key (serveAll backoff requests).1 = 5 ∧ 5 < backoff.retries.toNat ∧
      ∃ delay after, (serveAll backoff requests).2.fail backoff key = (.retry delay, after) ∧
        delay.nanos = 160000000 := by
  intro backoff key requests
  have inRow : streak key (serveAll backoff requests).1 = 5 := by decide +kernel
  obtain ⟨delay, after, failed, -, exact⟩ :=
    delay_doubles_while_counted inRow (by decide : 5 < backoff.retries.toNat)
  exact ⟨inRow, by decide, delay, after, failed, (exact.mpr (.inl (by decide))).trans (by decide)⟩

/-- The thirty-third delay is one millisecond short of the double of the one before, though
the ceiling is far away. -/
theorem doubling_stops_below_ceiling :
    let backoff : Backoff :=
      { base := Duration.ofMillis 1, ceiling := Duration.ofSeconds 5000000, retries := 40 }
    let key : Key := ⟨some "ns", "a"⟩
    let requests : List Request := List.replicate 32 (.fail key)
    streak key (serveAll backoff requests).1 = 32 ∧ 32 < backoff.retries.toNat ∧
      ((serveAll backoff requests).2.fail backoff key).1 =
        .retry (Duration.ofMillis 4294967295) ∧
      min (backoff.base.nanos * 2 ^ 32) backoff.ceiling.nanos =
        (Duration.ofMillis 4294967296).nanos ∧
      Duration.ofMillis 4294967295 ≠ Duration.ofMillis 4294967296 := by
  decide

end Limiter

end Reconciler
