import Reconciler.Simulation.Rehearsal

/-!
# A controller on the bench

On the bench the parts of a controller are driven by hand: events are fed to it,
items are added to its queue, taken from it and reconciled one at a time, and the
clock moves only in the operations that wait.
-/

namespace Reconciler

/-- A controller driven by hand. -/
structure Bench (α : Type) where
  schedule : Schedule α (Rehearsal α)
  /-- The number of callers so far; it names the next one. -/
  callers : Nat := 0
  /-- The items taken and not yet reconciled, the oldest first. -/
  taken : List (Work α) := []

/-- What taking an item came to. -/
inductive Taken (α : Type)
  | item (work : Work α)
  /-- There was none in time. -/
  | empty
  /-- The queue is closed. -/
  | closed

namespace Bench

variable {α : Type} [Resource α]

/-- A new controller on the bench. -/
def new (plan : Plan α (Rehearsal α)) (script : Script) : Bench α :=
  { schedule := { plan, system := { world := { script := script } } } }

/-- The state of the controller. -/
def system (bench : Bench α) : System α (Rehearsal α) :=
  bench.schedule.system

/-- Does everything that can be done without waiting. -/
def settle (bench : Bench α) : Bench α :=
  { bench with schedule := bench.schedule.settle Schedule.fuel }

/-- Performs an action and everything that follows from it. -/
def act (bench : Bench α) (action : Action α (Rehearsal α)) : Bench α :=
  { bench with schedule := bench.schedule.attempt action }.settle

/-- Feeds an event. -/
def receive (bench : Bench α) (event : Event α) : Bench α :=
  { bench with schedule := bench.schedule.receive Schedule.fuel event }.settle

/-- Adds an item as a failed one; says what becomes of it. -/
def requeue (bench : Bench α) (work : Work α) : Verdict × Bench α :=
  let verdict :=
    (bench.system.weigh bench.schedule.plan.backoff work.key).1
  let weighed := bench.act (.weigh work.key)
  match verdict with
  | .retry delay => (verdict, weighed.act (.schedule work delay))
  | .drop _ => (verdict, weighed)

/-- Lets a new caller come. -/
def comeAs (bench : Bench α) (role : Role) : Nat × Bench α :=
  let id := bench.callers
  let entered := bench.schedule.attempt (.enter id role)
  (id, { bench with
    schedule := entered.enqueue (.caller id)
    callers := id + 1 }.settle)

/-- Waits until a caller has left. -/
def await (bench : Bench α) (id : Nat) : Bench α :=
  { bench with schedule := bench.schedule.passUntilLeft Schedule.fuel id }

/-- Lets a new caller come who gives up after milliseconds of waiting, and waits
until it has left. -/
def comeAndAwait (bench : Bench α) (role : Role) (millis : Nat) : Nat × Bench α :=
  let (id, arrived) := bench.comeAs role
  let schedule :=
    if millis = 0 then arrived.schedule.enqueue (.giveUp id)
    else arrived.schedule.setAlarm (arrived.system.now + millis) (.giveUp id)
  (id, { arrived with schedule }.settle.await id)

/-- What a caller left with. -/
def takenBy (bench : Bench α) (id : Nat) : Taken α :=
  match (bench.system.callers.find? id).map Caller.point with
  | some (.left (some work)) => .item work
  | _ => if bench.system.queue.closed then .closed else .empty

/-- Takes an item and remembers it. -/
def get (bench : Bench α) (millis : Nat) : Taken α × Bench α :=
  let (id, after) := bench.comeAndAwait .taker millis
  match after.takenBy id with
  | .item work => (.item work, { after with taken := after.taken ++ [work] })
  | other => (other, after)

/-- Takes an item and reconciles it. -/
def process (bench : Bench α) (millis : Nat) : Taken α × Bench α :=
  let (id, after) := bench.comeAndAwait .single millis
  (after.takenBy id, after)

/-- Reconciles an item that was taken. -/
def reconcile (bench : Bench α) (work : Work α) : Bench α :=
  let id := bench.callers
  let entered := bench.schedule.attempt (.enterWith id work)
  { bench with
    schedule := entered.enqueue (.caller id)
    callers := id + 1 }.settle.await id

/-- Reconciles the oldest item that was taken and not yet reconciled. -/
def processTaken (bench : Bench α) : Option (Work α) × Bench α :=
  match bench.taken with
  | [] => (none, bench)
  | work :: taken => (some work, { bench with taken }.reconcile work)

/-- Takes items as long as keys are ready. -/
def takeAll : Nat → Bench α → List (Work α) → List (Work α) × Bench α
  | 0, bench, works => (works, bench)
  | count + 1, bench, works =>
      if bench.system.queue.size = 0 then (works, bench)
      else
        let (id, after) := bench.comeAndAwait .taker 0
        match after.takenBy id with
        | .item work => takeAll count after (works ++ [work])
        | _ => (works, after)

/-- Takes all items that are ready and reconciles them in the order of their keys. -/
def drain (bench : Bench α) : List (Work α) × Bench α :=
  let (works, after) := takeAll Schedule.fuel bench []
  let sorted := works.mergeSort fun first second => first.key.atMost second.key
  (sorted, sorted.foldl reconcile after)

/-- Closes the queue and wakes those who wait. -/
def shutDown (bench : Bench α) : Bench α :=
  (bench.act .close).act .wakeAll

/-- Lets time pass. -/
def sleep (bench : Bench α) (millis : Nat) : Bench α :=
  { bench with schedule := bench.schedule.passUntil Schedule.fuel (bench.system.now + millis) }

/-- Delivers the pending alerts; says how many there were. -/
def deliver (bench : Bench α) (age : Alert → String) : Nat × Bench α :=
  let alerts := bench.system.world.alerts
  let (after, lines, _) := (AlertStore.deliver age).runAlone alerts
  let system := bench.system
  (alerts.pending.length,
    { bench with
      schedule :=
        { bench.schedule with
          system :=
            { system with
              journal := system.journal.writeAll lines
              world := { system.world with alerts := after } } } })

/-- The bench with the records of what happened so far taken out. -/
def clearRecords (bench : Bench α) : Bench α :=
  { bench with schedule := bench.schedule.clearRecords }

end Bench

end Reconciler
