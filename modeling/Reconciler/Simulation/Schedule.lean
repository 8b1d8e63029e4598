import Reconciler.System.Action

/-!
# Running a controller on a virtual clock

Time stands still while anything can be done and then jumps to the next alarm.
What can be done is kept in an agenda, first come first served: callers that were
woken or have paused long enough, delayed items whose alarm is to be set, delayed
items that are due, and callers that give up waiting.  Alarms go off in the order
of their times, and those of one time in the order in which they were set.

Every change of the controller is one of its actions, so a schedule is one of the
possible orders of its steps.
-/

namespace Reconciler

/-- Something that can be done now. -/
inductive Task
  /-- A caller goes on as far as it can. -/
  | caller (id : Nat)
  /-- The alarm of a delayed item is set. -/
  | arm (ticket : Nat)
  /-- A delayed item is added. -/
  | fire (ticket : Nat)
  /-- A caller that waits looks once more and then gives up. -/
  | giveUp (id : Nat)
deriving DecidableEq, Repr

/-- A task for later. -/
structure Alarm where
  due : Nat
  task : Task
deriving DecidableEq, Repr

/-- A controller on a virtual clock. -/
structure Schedule (α ω : Type) where
  plan : Plan α ω
  system : System α ω
  agenda : List Task := []
  /-- In the order in which they were set. -/
  alarms : List Alarm := []
  /-- The callers that have left, in the order of leaving. -/
  departed : List Nat := []

namespace Schedule

variable {α ω : Type}

/-- A bound on the steps of one operation. -/
def fuel : Nat :=
  1000000

/-- The earliest time of some alarms. -/
def earliest : List Alarm → Option Nat
  | [] => none
  | alarm :: alarms =>
      match earliest alarms with
      | none => some alarm.due
      | some due => some (min alarm.due due)

/-- Puts a task at the end of the agenda. -/
def enqueue (schedule : Schedule α ω) (task : Task) : Schedule α ω :=
  { schedule with agenda := schedule.agenda ++ [task] }

/-- Sets an alarm. -/
def setAlarm (schedule : Schedule α ω) (due : Nat) (task : Task) : Schedule α ω :=
  { schedule with alarms := schedule.alarms ++ [⟨due, task⟩] }

/-- The callers woken in `after` that were not in `before`, in the order of waking. -/
def newlyWoken (before after : Bell) : List Nat :=
  (after.woken.filter fun entry => (before.wokenBy? entry.1).isNone).map Prod.fst

/-- Takes over the state after an action: callers that were woken and items that
were delayed go on the agenda. -/
def adoptState (schedule : Schedule α ω) (after : System α ω) : Schedule α ω :=
  let before := schedule.system
  let woken := (newlyWoken before.bell after.bell).map Task.caller
  let delayed := (List.range (after.issued - before.issued)).map fun index =>
    Task.arm (before.issued + index)
  { schedule with system := after, agenda := schedule.agenda ++ woken ++ delayed }

variable [Resource α]

/-- Performs an action if it is possible. -/
def perform (schedule : Schedule α ω) (action : Action α ω) : Option (Schedule α ω) :=
  (schedule.system.act schedule.plan action).map schedule.adoptState

/-- Performs an action, or leaves everything as it is. -/
def attempt (schedule : Schedule α ω) (action : Action α ω) : Schedule α ω :=
  (schedule.perform action).getD schedule

/-- The time until which a caller pauses, if it pauses now. -/
def pausesUntil? (system : System α ω) (id : Nat) : Option Nat :=
  (system.callers.find? id).bind fun caller =>
    if system.now < caller.resumes then some caller.resumes else none

/-- Lets a caller go on as far as it can.  A caller that pauses gets an alarm, one
that leaves is written down. -/
def runCaller : Nat → Nat → Schedule α ω → Schedule α ω
  | 0, _, schedule => schedule
  | fuel + 1, id, schedule =>
      match schedule.perform (.advance id) with
      | none =>
          match pausesUntil? schedule.system id with
          | some due => schedule.setAlarm due (.caller id)
          | none => schedule
      | some next =>
          if next.system.hasLeft id then { next with departed := next.departed ++ [id] }
          else runCaller fuel id next

/-- Does a task. -/
def runTask (fuel : Nat) (schedule : Schedule α ω) : Task → Schedule α ω
  | .caller id => runCaller fuel id schedule
  | .arm ticket =>
      match schedule.system.delayed.find? ticket with
      | some delayed => schedule.setAlarm delayed.due (.fire ticket)
      | none => schedule
  | .fire ticket => schedule.attempt (.fire ticket)
  | .giveUp id =>
      if schedule.system.isAsleep id then
        let tried := runCaller fuel id schedule
        match tried.perform (.cancel id) with
        | some gone => { gone with departed := gone.departed ++ [id] }
        | none => tried
      else schedule

/-- Works off the agenda. -/
def settle : Nat → Schedule α ω → Schedule α ω
  | 0, schedule => schedule
  | fuel + 1, schedule =>
      match schedule.agenda with
      | [] => schedule
      | task :: agenda => settle fuel (runTask fuel { schedule with agenda } task)

/-- Passes the changes of an event on to the queue. -/
def passOn : Nat → Schedule α ω → Schedule α ω
  | 0, schedule => schedule
  | fuel + 1, schedule =>
      match schedule.perform .passOn with
      | some next => passOn fuel next
      | none => schedule

/-- Takes an event and passes its changes on. -/
def receive (fuel : Nat) (schedule : Schedule α ω) (event : Event α) : Schedule α ω :=
  passOn fuel (schedule.attempt (.receive {} event))

/-- Sets the clock to a time that is not in the past, and lets the alarms of that
time go off. -/
def reach (time : Nat) (schedule : Schedule α ω) : Schedule α ω :=
  let moved := schedule.attempt (.elapse (time - schedule.system.now))
  let (due, later) := moved.alarms.partition fun alarm => alarm.due ≤ time
  { moved with alarms := later, agenda := moved.agenda ++ due.map Alarm.task }

/-- The time of the next alarm. -/
def nextAlarm? (schedule : Schedule α ω) : Option Nat :=
  (earliest schedule.alarms).map fun due => max due schedule.system.now

/-- Lets time pass up to a given time, including everything that happens then. -/
def passUntil : Nat → Nat → Schedule α ω → Schedule α ω
  | 0, _, schedule => schedule
  | fuel + 1, time, schedule =>
      match schedule.nextAlarm? with
      | some due =>
          if due ≤ time then passUntil fuel time (settle fuel (schedule.reach due))
          else schedule.attempt (.elapse (time - schedule.system.now))
      | none => schedule.attempt (.elapse (time - schedule.system.now))

/-- Lets time pass until a caller has left. -/
def passUntilLeft : Nat → Nat → Schedule α ω → Schedule α ω
  | 0, _, schedule => schedule
  | fuel + 1, id, schedule =>
      if schedule.system.hasLeft id then schedule
      else
        match schedule.nextAlarm? with
        | some due => passUntilLeft fuel id (settle fuel (schedule.reach due))
        | none => schedule

end Schedule

end Reconciler
