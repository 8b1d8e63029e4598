import Reconciler.Backoff
import Reconciler.Bell
import Reconciler.Cache
import Reconciler.Handler
import Reconciler.Queue

/-!
# The state of a controller

A controller follows the events of a watch, passes the changes on to its queue,
and has callers that take items from the queue and reconcile them.  Its state says
where the watching side and every caller stand.  The operations here are those of
its parts: the queue with its bell, the failure counters, the timers of delayed
items, and the journal.
-/

namespace Reconciler

/-- What a controller is made of. -/
structure Plan (α ω : Type) where
  name : String
  backoff : Backoff
  handler : Handler α ω

/-- What a caller of the queue is there for. -/
inductive Role
  /-- Reconciles item after item until the queue is closed. -/
  | worker
  /-- Reconciles one item and leaves. -/
  | single
  /-- Takes one item and leaves with it. -/
  | taker
deriving DecidableEq, Repr

/-- How far the reconciliation of an item has come. -/
inductive Stage (α ω : Type)
  /-- The item was handed out. -/
  | handed
  /-- The cache was read. -/
  | looked (current : Option α)
  /-- The object is being adopted. -/
  | adopting (current : α) (call : Call ω)
  /-- The object was adopted. -/
  | adopted (current : α)
  /-- The object is being reconciled. -/
  | syncing (call : Call ω)
  /-- The handler has ended. -/
  | concluded (outcome : Outcome)
  /-- The item is settled; its failures are about to be forgotten. -/
  | forgetting
  /-- The item is settled; its key is about to be released. -/
  | releasing
  /-- The item failed; its key is about to be released. -/
  | yielding (failure : Failure)
  /-- The item failed; its failure is about to be counted. -/
  | weighing (failure : Failure)
  /-- The item is about to be added again after a delay. -/
  | delaying (failure : Failure) (delay : Duration)
  /-- The retry is about to be logged. -/
  | noting (failure : Failure) (delay : Duration)

/-- Where a caller stands. -/
inductive Point (α ω : Type)
  /-- About to come to the bell. -/
  | arriving
  /-- Was woken and is about to come to the bell again. -/
  | returning
  /-- About to look into the queue; `held` says that a remembered ring was taken. -/
  | checking (held : Bool)
  /-- Waits to be woken. -/
  | asleep
  /-- Works on an item. -/
  | holding (work : Work α) (stage : Stage α ω)
  /-- Has left for good, possibly after or with an item. -/
  | left (work : Option (Work α))

/-- A caller of the queue. -/
structure Caller (α ω : Type) where
  role : Role
  point : Point α ω := .arriving
  /-- Pauses until this time. -/
  resumes : Nat := 0

/-- Whether a caller has left. -/
def Caller.hasLeft {α ω : Type} (caller : Caller α ω) : Bool :=
  match caller.point with
  | .left _ => true
  | _ => false

/-- Whether a caller waits to be woken. -/
def Caller.isAsleep {α ω : Type} (caller : Caller α ω) : Bool :=
  match caller.point with
  | .asleep => true
  | _ => false

/-- An item that will be added to the queue at a time. -/
structure Delayed (α : Type) where
  due : Nat
  work : Work α
deriving DecidableEq, Repr

/-- What the watching side is doing. -/
inductive Relay (α : Type)
  | idle
  /-- Passes changes on to the queue; `listing` says that they complete a listing. -/
  | passing (changes : List (Key × Change α)) (enqueued : Nat) (listing : Bool)
deriving DecidableEq, Repr

/-- The state of a controller, with its surroundings of type `ω`. -/
structure System (α ω : Type) where
  /-- The time in milliseconds. -/
  now : Nat := 0
  cache : Cache α := {}
  relay : Relay α := .idle
  queue : Queue α := {}
  bell : Bell := {}
  limiter : Limiter := {}
  delayed : Table Nat (Delayed α) := Table.empty
  /-- The number of delayed items so far; it numbers the next one. -/
  issued : Nat := 0
  callers : Table Nat (Caller α ω) := Table.empty
  journal : Journal := {}
  world : ω

/-- The longest wait that the clock can count to, in seconds. -/
def clockLimit : Nat :=
  Nat.pow 2 63 - 1

/-- The wait that stands for one the clock cannot count to: thirty years. -/
def farOff : Nat :=
  30 * 365 * 86400 * 1000

/-- The whole milliseconds to wait for a delay, rounded up. -/
def Duration.wait (delay : Duration) : Nat :=
  if clockLimit < delay.seconds then farOff else delay.ceilMillis

namespace System

variable {α ω : Type}

/-! ## Operations on the queue -/

/-- Adds an item and rings if its key became ready. -/
def submit (system : System α ω) (work : Work α) : System α ω :=
  { system with
    queue := system.queue.add work
    bell := if system.queue.announces work then system.bell.ring else system.bell }

/-- Releases a key and rings if it became ready again. -/
def release (system : System α ω) (key : Key) : System α ω :=
  { system with
    queue := system.queue.release key
    bell := if system.queue.returns key then system.bell.ring else system.bell }

/-- Adds an item after a delay; without a delay at once.  A closed queue takes none. -/
def schedule (system : System α ω) (work : Work α) (delay : Duration) : System α ω :=
  if delay.nanos = 0 then system.submit work
  else if system.queue.closed then system
  else
    { system with
      delayed := system.delayed.insert system.issued ⟨system.now + delay.wait, work⟩
      issued := system.issued + 1 }

/-- Adds a delayed item that is due. -/
def fire (system : System α ω) (ticket : Nat) : Option (System α ω) :=
  match system.delayed.find? ticket with
  | none => none
  | some delayed =>
      if delayed.due ≤ system.now then
        some ({ system with delayed := system.delayed.erase ticket }.submit delayed.work)
      else none

/-- Counts a failure of a key and decides about its item. -/
def weigh (system : System α ω) (backoff : Backoff) (key : Key) : Verdict × System α ω :=
  let (verdict, limiter) := system.limiter.fail backoff key
  (verdict, { system with limiter })

/-- Forgets the failures of a key. -/
def forget (system : System α ω) (key : Key) : System α ω :=
  { system with limiter := system.limiter.forget key }

/-- Closes the queue. -/
def close (system : System α ω) : System α ω :=
  { system with queue := system.queue.close }

/-- Wakes everybody who waits for an item. -/
def wakeAll (system : System α ω) : System α ω :=
  { system with bell := system.bell.wakeAll }

/-! ## The journal -/

/-- Writes a line. -/
def write (system : System α ω) (level : Level) (text : String) : System α ω :=
  { system with journal := system.journal.write level text }

/-- Reports a failure for good. -/
def report (system : System α ω) (context : String) (failure : Failure) : System α ω :=
  { system with journal := system.journal.report context failure }

/-! ## Callers -/

/-- Puts a caller to a point. -/
def put (system : System α ω) (id : Nat) (caller : Caller α ω) (point : Point α ω) :
    System α ω :=
  { system with callers := system.callers.insert id { caller with point } }

/-- Whether a caller has left, or never came. -/
def hasLeft (system : System α ω) (id : Nat) : Bool :=
  match system.callers.find? id with
  | some caller => caller.hasLeft
  | none => true

/-- Whether a caller waits to be woken. -/
def isAsleep (system : System α ω) (id : Nat) : Bool :=
  match system.callers.find? id with
  | some caller => caller.isAsleep
  | none => false

/-- Whether nobody is left of those who ever came. -/
def isDeserted (system : System α ω) : Bool :=
  system.callers.values.all Caller.hasLeft

end System

end Reconciler
