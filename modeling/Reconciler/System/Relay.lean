import Reconciler.System.Basic

/-!
# The watching side of a controller

Every event of the watch is applied to the cache, and its changes are passed on to
the queue one by one.  An event about an object without a name is reported and has
no other effect, and so is a failure of the watch, which goes on by itself.
-/

namespace Reconciler

namespace System

variable {α ω : Type}

/-- Takes an event from the watch.  An event about an object without a name is
reported and has no other effect. -/
def receive [Resource α] (plan : Plan α ω) (system : System α ω) (order : Enumeration α)
    (event : Event α) : System α ω :=
  match event.object? with
  | some object =>
      match identify object with
      | .ok _ =>
          let (cache, changes) := system.cache.apply order event
          { system with cache, relay := .passing changes 0 false }
      | .error failure =>
          system.report (plan.name ++ " controller dropped notification") failure
  | none =>
      let (cache, changes) := system.cache.apply order event
      let listing :=
        match event with
        | .listingDone => true
        | _ => false
      { system with cache, relay := .passing changes 0 listing }

/-- Takes a failure from the watch, which goes on by itself. -/
def receiveFailure (plan : Plan α ω) (system : System α ω) (failure : WatchFailure) :
    System α ω :=
  system.report (plan.name ++ " controller watch failed") (.watch failure)

/-- Passes one change on to the queue, or ends passing changes on.  The cache counts
as synced only after all changes of the listing are in the queue. -/
def passOn [Resource α] (plan : Plan α ω) (system : System α ω) : Option (System α ω) :=
  match system.relay with
  | .idle => none
  | .passing (change :: changes) enqueued listing =>
      match Work.ofChange? change.1 change.2 with
      | some work =>
          some { system.submit work with relay := .passing changes (enqueued + 1) listing }
      | none => some { system with relay := .passing changes enqueued listing }
  | .passing [] enqueued true =>
      let said := system.write .debug (plan.name ++ " controller listing complete, enqueued " ++
        toString enqueued ++ " items")
      some { said with relay := .idle, cache := system.cache.markSynced }
  | .passing [] _ false => some { system with relay := .idle }

end System

end Reconciler
