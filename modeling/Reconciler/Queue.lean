import Reconciler.Table
import Reconciler.Work

/-!
# The work queue

The queue hands out every key to at most one worker at a time.  Keys wait in the
order in which they became ready.  A notification of a key that already waits is
merged into its item; one of a key that is in flight is parked until the key is
released, and then becomes ready at the end of the line.  A closed queue takes
and hands out nothing more.
-/

namespace Reconciler

/-- Keys to reconcile, with the item pending for each of them. -/
structure Queue (α : Type) where
  /-- The keys ready to be handed out, first come first served. -/
  ready : List Key := []
  /-- The pending item of every ready key and of every key parked in flight. -/
  pending : Table Key (Work α) := Table.empty
  /-- The keys handed out and not yet released. -/
  inFlight : List Key := []
  closed : Bool := false
deriving DecidableEq, Repr

namespace Queue

variable {α : Type}

/-- Whether adding an item makes its key ready. -/
def announces (queue : Queue α) (work : Work α) : Bool :=
  !queue.closed && !queue.pending.contains work.key && !queue.inFlight.contains work.key

/-- Adds an item: it is merged into a pending one, parked while its key is in
flight, or made ready. -/
def add (queue : Queue α) (work : Work α) : Queue α :=
  if queue.closed then queue
  else
    match queue.pending.find? work.key with
    | some pending => { queue with pending := queue.pending.insert work.key (pending.merge work) }
    | none =>
        let pending := queue.pending.insert work.key work
        if queue.inFlight.contains work.key then { queue with pending }
        else { queue with pending, ready := queue.ready ++ [work.key] }

/-- Drops ready keys up to the first one with a pending item. -/
def firstReady (pending : Table Key (Work α)) : List Key → Option (Work α × Key × List Key)
  | [] => none
  | key :: keys =>
      match pending.find? key with
      | some work => some (work, key, keys)
      | none => firstReady pending keys

/-- Hands out the item of the first ready key.  A closed queue hands out nothing. -/
def take (queue : Queue α) : Option (Work α) × Queue α :=
  if queue.closed then (none, queue)
  else
    match firstReady queue.pending queue.ready with
    | none => (none, { queue with ready := [] })
    | some (work, key, ready) =>
        (some work,
          { queue with
            ready
            pending := queue.pending.erase key
            inFlight :=
              if queue.inFlight.contains key then queue.inFlight else queue.inFlight ++ [key] })

/-- Whether releasing a key makes it ready again. -/
def returns (queue : Queue α) (key : Key) : Bool :=
  !queue.closed && queue.pending.contains key

/-- Releases a key; an item parked for it becomes ready. -/
def release (queue : Queue α) (key : Key) : Queue α :=
  { queue with
    inFlight := queue.inFlight.filter fun other => other ≠ key
    ready := if queue.returns key then queue.ready ++ [key] else queue.ready }

/-- Closes the queue for good. -/
def close (queue : Queue α) : Queue α :=
  { queue with closed := true }

/-- The number of ready keys. -/
def size (queue : Queue α) : Nat :=
  queue.ready.length

theorem add_of_closed {queue : Queue α} (closed : queue.closed) (work : Work α) :
    queue.add work = queue := by
  simp [add, closed]

theorem take_of_closed {queue : Queue α} (closed : queue.closed) :
    queue.take = (none, queue) := by
  simp [take, closed]

/-- Adding an item never changes which keys are in flight. -/
@[simp]
theorem add_inFlight (queue : Queue α) (work : Work α) :
    (queue.add work).inFlight = queue.inFlight := by
  unfold add
  split
  · rfl
  · split
    · rfl
    · simp only
      split <;> rfl

end Queue

end Reconciler
