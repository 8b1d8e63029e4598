import Reconciler.Service
import Reconciler.Simulation.Rehearsal

/-!
# A service on trial

On trial a service runs on a virtual clock, with a watch that is fed by hand.  After
everything that is done to it, it makes all the moves it can make without waiting.
-/

namespace Reconciler

/-- A service on a virtual clock. -/
structure Trial (α : Type) where
  schedule : Schedule α (Rehearsal α)
  control : Service.Control

namespace Trial

variable {α : Type} [Resource α]

/-- The state of the service. -/
def service (trial : Trial α) : Service α (Rehearsal α) :=
  ⟨trial.schedule.system, trial.control⟩

/-- Makes a move if it is possible. -/
def perform (trial : Trial α) (move : Service.Move α (Rehearsal α)) : Option (Trial α) :=
  (trial.service.act trial.schedule.plan move).map fun after =>
    { schedule := trial.schedule.adoptState after.system, control := after.control }

/-- Makes a move, or leaves everything as it is. -/
def attempt (trial : Trial α) (move : Service.Move α (Rehearsal α)) : Trial α :=
  (trial.perform move).getD trial

/-- Lets the next worker come and go on as far as it can. -/
def callWorker (trial : Trial α) : Option (Trial α) :=
  match trial.control.absent with
  | [] => none
  | id :: _ =>
      (trial.perform .callWorker).map fun after =>
        { after with schedule := after.schedule.enqueue (.caller id) }

/-- A move that the service makes by itself. -/
def ownMove (trial : Trial α) : Option (Trial α) :=
  (trial.perform (.notice .synced)).or
    ((trial.perform (.notice .abandoned)).or
      ((trial.perform (.notice .expired)).or
        ((trial.perform (.notice .stopped)).or
          (trial.callWorker.or ((trial.perform .leaveWatch).or (trial.perform .proceed))))))

/-- Makes all moves that can be made without waiting. -/
def settle : Nat → Trial α → Trial α
  | 0, trial => trial
  | fuel + 1, trial =>
      let settled := { trial with schedule := trial.schedule.settle fuel }
      match settled.ownMove with
      | none => settled
      | some next => settle fuel next

/-- A service on trial that starts now. -/
def start (plan : Plan α (Rehearsal α)) (settings : Settings) (script : Script) (stopping : Bool) :
    Trial α :=
  let started := Service.start plan settings { world := { script := script } }
  settle Schedule.fuel
    { schedule := { plan, system := started.system }
      control := { started.control with stopping } }

/-- Makes a move and everything that follows from it. -/
def move (trial : Trial α) (move : Service.Move α (Rehearsal α)) : Trial α :=
  (trial.attempt move).settle Schedule.fuel

/-- Passes the changes of an event on to the queue. -/
def passOn : Nat → Trial α → Trial α
  | 0, trial => trial
  | fuel + 1, trial =>
      match trial.perform (.act .passOn) with
      | some next => passOn fuel next
      | none => trial

/-- Feeds an event to the watch. -/
def receive (trial : Trial α) (event : Event α) : Trial α :=
  ((trial.attempt (.act (.receive {} event))).passOn Schedule.fuel).settle Schedule.fuel

/-- The time at which something happens next. -/
def nextTime? (trial : Trial α) : Option Nat :=
  let deadline :=
    match trial.control.progress with
    | .waiting => some trial.control.deadline
    | _ => none
  match trial.schedule.nextAlarm?, deadline with
  | some alarm, some deadline => some (min alarm deadline)
  | alarm, deadline => alarm.or deadline

/-- Lets time pass up to a given time, including everything that happens then. -/
def passUntil : Nat → Nat → Trial α → Trial α
  | 0, _, trial => trial
  | fuel + 1, time, trial =>
      let next := trial.nextTime?.filter fun next => next ≤ time
      let reached := { trial with schedule := trial.schedule.reach (next.getD time) }
      match next with
      | none => reached
      | some _ => passUntil fuel time (reached.settle fuel)

/-- Lets time pass. -/
def sleep (trial : Trial α) (millis : Nat) : Trial α :=
  trial.passUntil Schedule.fuel (trial.schedule.system.now + millis)

/-- The trial with the records of what happened so far taken out. -/
def clearRecords (trial : Trial α) : Trial α :=
  { trial with schedule := trial.schedule.clearRecords }

end Trial

end Reconciler
