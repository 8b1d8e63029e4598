import Reconciler.System.Relay
import Reconciler.System.Round

/-!
# The atomic steps of a controller

Everything happens in atomic steps: one operation of the queue or of the failure
counters, one look into the cache, the start of a handler call, one of its steps,
its end.  Between two steps of one caller any other step may come, so the steps say
nothing about an order among callers; `System.act` gives the state after one of
them, if it is possible.
-/

namespace Reconciler

/-- Everything that can happen to a controller in one step. -/
inductive Action (α ω : Type)
  | receive (order : Enumeration α) (event : Event α)
  | receiveFailure (failure : WatchFailure)
  | passOn
  | enter (id : Nat) (role : Role)
  | enterWith (id : Nat) (work : Work α)
  | advance (id : Nat)
  | cancel (id : Nat)
  | submit (work : Work α)
  | schedule (work : Work α) (delay : Duration)
  | release (key : Key)
  | forget (key : Key)
  | weigh (key : Key)
  | fire (ticket : Nat)
  | close
  | wakeAll
  /-- Somebody else changes the surroundings. -/
  | alter (effect : ω → ω)
  | elapse (millis : Nat)

namespace System

variable {α ω : Type} [Resource α]

/-- The state after an action, if the action is possible.  The next event is taken
only after all changes of the one before are passed on. -/
def act (plan : Plan α ω) (system : System α ω) : Action α ω → Option (System α ω)
  | .receive order event =>
      match system.relay with
      | .idle => some (system.receive plan order event)
      | .passing .. => none
  | .receiveFailure failure =>
      match system.relay with
      | .idle => some (system.receiveFailure plan failure)
      | .passing .. => none
  | .passOn => system.passOn plan
  | .enter id role => if system.callers.contains id then none else some (system.enter plan id role)
  | .enterWith id work =>
      if system.callers.contains id then none else some (system.enterWith id work)
  | .advance id => system.advance plan id
  | .cancel id => system.cancel id
  | .submit work => some (system.submit work)
  | .schedule work delay => some (system.schedule work delay)
  | .release key => some (system.release key)
  | .forget key => some (system.forget key)
  | .weigh key => some (system.weigh plan.backoff key).2
  | .fire ticket => system.fire ticket
  | .close => some system.close
  | .wakeAll => some system.wakeAll
  | .alter effect => some { system with world := effect system.world }
  | .elapse millis => some { system with now := system.now + millis }

/-- The state after a sequence of actions, if all of them are possible. -/
def run (plan : Plan α ω) (system : System α ω) (actions : List (Action α ω)) :
    Option (System α ω) :=
  actions.foldlM (act plan) system

end System

end Reconciler