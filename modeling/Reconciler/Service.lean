import Reconciler.Settings
import Reconciler.System.Action

/-!
# The service of a controller

A service runs a controller from its start to its end.  It first waits until the
cache is synced, and gives up if that takes too long, if nobody is left to feed the
cache, or if it is told to stop.  Then its workers reconcile until it is told to
stop.  The queue is closed, everybody who waits is woken, and when the last worker
has left the service is over.

The watch is followed from the start, until it ends, until the service is told to
stop, or until the service is over.
-/

namespace Reconciler

namespace Service

/-- How far a service has come. -/
inductive Progress
  /-- It waits for the cache. -/
  | waiting
  /-- Its workers reconcile. -/
  | serving
  /-- It is about to close the queue. -/
  | closing
  /-- It is about to wake those who wait. -/
  | waking
  /-- It waits for its workers to leave. -/
  | leaving
  /-- Its result is known; the watch is still to be left. -/
  | parting (result : Except Failure Unit)
  /-- It is over. -/
  | ended (result : Except Failure Unit)

/-- Whether a service is over. -/
def Progress.isOver : Progress → Bool
  | .ended _ => true
  | _ => false

/-- The result of a service that is over. -/
def Progress.result? : Progress → Option (Except Failure Unit)
  | .ended result => some result
  | _ => none

/-- The line about the result of a service, if nobody waits for the result. -/
def resultLine? : Except Failure Unit → Option Line
  | .ok () => none
  | .error failure => some ⟨.error, failure.message⟩

/-- What a service knows besides the state of its controller. -/
structure Control where
  settings : Settings
  /-- The time at which it no longer waits for the cache. -/
  deadline : Nat
  progress : Progress := .waiting
  /-- The workers that are still to come. -/
  absent : List Nat := []
  /-- Whether the watch is followed. -/
  following : Bool := true
  /-- Whether the service was told to stop. -/
  stopping : Bool := false

/-- The number of workers of a service; there is at least one. -/
def Control.workers (control : Control) : Nat :=
  max control.settings.workers 1

/-- What a service may notice while it waits for the cache. -/
inductive Cue
  | synced
  | abandoned
  | expired
  | stopped
deriving DecidableEq, Repr

end Service

/-- A controller and its service. -/
structure Service (α ω : Type) where
  system : System α ω
  control : Service.Control

namespace Service

/-- Everything that can happen to a service in one step. -/
inductive Move (α ω : Type)
  /-- A step of the controller. -/
  | act (action : Action α ω)
  /-- The watch ends. -/
  | endWatch
  /-- The watching side sees that the service was told to stop. -/
  | leaveWatch
  /-- The service is told to stop. -/
  | stop
  /-- The service notices something while it waits for the cache. -/
  | notice (cue : Cue)
  /-- The next worker comes. -/
  | callWorker
  /-- The service goes on with what is left to do. -/
  | proceed

variable {α ω : Type}

/-- Which steps of the controller a service leaves to come by themselves. -/
def permits (control : Control) : Action α ω → Bool
  | .receive .. => control.following
  | .receiveFailure _ => control.following
  | .passOn => control.following
  | .advance _ => true
  | .fire _ => true
  | .alter _ => true
  | .elapse _ => true
  | _ => false

/-- A service that starts now. -/
def start (plan : Plan α ω) (settings : Settings) (system : System α ω) : Service α ω :=
  { system := system.write .info ("start " ++ plan.name ++ " controller")
    control := { settings, deadline := system.now + settings.syncTimeout.wait } }

/-- How far the cache has come. -/
def cacheProgress (service : Service α ω) : Cache.Progress :=
  service.system.cache.progress service.control.following

/-- The service at another point. -/
def become (service : Service α ω) (progress : Progress) : Service α ω :=
  { service with control := { service.control with progress } }

/-- The service with a line written. -/
def say (service : Service α ω) (text : String) : Service α ω :=
  { service with system := service.system.write .info text }

/-- Whether a service may notice a cue. -/
def shows (service : Service α ω) : Cue → Bool
  | .synced => service.cacheProgress == .synced
  | .abandoned => service.cacheProgress == .abandoned
  | .expired =>
      service.cacheProgress == .pending && service.control.deadline ≤ service.system.now
  | .stopped => service.control.stopping

/-- Sends for the workers. -/
def openUp (plan : Plan α ω) (service : Service α ω) : Service α ω :=
  let workers := service.control.workers
  let said := service.say (plan.name ++ " controller cache synced, starting " ++
    toString workers ++ " workers")
  { said with
    control := { service.control with progress := .serving, absent := List.range workers } }

/-- Answers a cue: goes on if the cache is synced, and fails otherwise. -/
def answer (plan : Plan α ω) (service : Service α ω) : Cue → Service α ω
  | .synced => service.openUp plan
  | .abandoned => service.become (.parting (.error (.stopped plan.name)))
  | .expired =>
      service.become
        (.parting (.error (.syncTimeout plan.name service.control.settings.syncTimeout)))
  | .stopped => service.become (.parting (.error (.stopped plan.name)))

/-- Goes on with what is left to do, if its time has come. -/
def proceed (plan : Plan α ω) (service : Service α ω) : Option (Service α ω) :=
  match service.control.progress with
  | .waiting => none
  | .serving =>
      if service.control.stopping then
        some ((service.say ("stopping " ++ plan.name ++ " controller")).become .closing)
      else none
  | .closing => some ({ service with system := service.system.close }.become .waking)
  | .waking => some ({ service with system := service.system.wakeAll }.become .leaving)
  | .leaving =>
      if service.control.absent.isEmpty && service.system.isDeserted then
        some ((service.say (plan.name ++ " controller stopped")).become (.parting (.ok ())))
      else none
  | .parting result =>
      some { service with
        control := { service.control with progress := .ended result, following := false } }
  | .ended _ => none

/-- Whether the watching side is between two events. -/
def isBetweenEvents (service : Service α ω) : Bool :=
  match service.system.relay with
  | .idle => service.control.following
  | .passing .. => false

/-- The service after the watch was left. -/
def unfollow (service : Service α ω) : Service α ω :=
  { service with control := { service.control with following := false } }

/-- The state after a move, if the move is possible. -/
def act [Resource α] (plan : Plan α ω) (service : Service α ω) :
    Move α ω → Option (Service α ω)
  | .act action =>
      if permits service.control action then
        (service.system.act plan action).map fun system => { service with system }
      else none
  | .endWatch =>
      if service.isBetweenEvents then
        some { service.unfollow with
          system := service.system.write .warn (plan.name ++ " controller watch stream ended") }
      else none
  | .leaveWatch =>
      if service.isBetweenEvents && service.control.stopping then
        some { service.unfollow with
          system := service.system.write .debug (plan.name ++ " controller stops watching") }
      else none
  | .stop => some { service with control := { service.control with stopping := true } }
  | .notice cue =>
      match service.control.progress with
      | .waiting => if service.shows cue then some (service.answer plan cue) else none
      | _ => none
  | .callWorker =>
      match service.control.absent with
      | [] => none
      | id :: absent =>
          some { service with
            system := service.system.enter plan id .worker
            control := { service.control with absent } }
  | .proceed => service.proceed plan

/-- The state after a sequence of moves, if all of them are possible. -/
def run [Resource α] (plan : Plan α ω) (service : Service α ω) (moves : List (Move α ω)) :
    Option (Service α ω) :=
  moves.foldlM (act plan) service

end Service

end Reconciler
