import Reconciler.System.Action

/-!
# Runs of a controller

A run of a controller is made of the steps of its watch, its workers, its timers and
its surroundings, in any order in which they are possible.  Some of these steps are of
interest to others: the cache was refreshed, a change was announced to the queue, an
item came back, was handed out, had the cache read for it, or was given to the handler.
Such a step leaves a mark, and the marks of a run are its history.
-/

namespace Reconciler

variable {α ω : Type}

/-- The steps that happen while a controller runs, given the events that its watch may
bring.  The remaining actions drive the parts of a controller by hand. -/
def Action.Occurs (admits : Event α → Prop) : Action α ω → Prop
  | .receive order event => order.Fair ∧ admits event
  | .enter _ role => role = .worker
  | .receiveFailure _ | .passOn | .advance _ | .cancel _ | .fire _ | .close | .wakeAll
  | .alter _ | .elapse _ => True
  | _ => False

/-- What a step lets others know. -/
inductive Mark (α : Type)
  /-- The cache after an event. -/
  | refreshed (cache : Cache α)
  /-- A change was passed on to the queue as an item. -/
  | announced (key : Key) (change : Change α)
  /-- A failed item came back to the queue. -/
  | returned (work : Work α)
  /-- An item was handed out to a caller. -/
  | handed (id : Nat) (work : Work α)
  /-- The cache was read for an item. -/
  | looked (id : Nat) (work : Work α) (current : Option α)
  /-- The handler was called for an item. -/
  | called (id : Nat) (work : Work α)
deriving DecidableEq, Repr

namespace System

variable [Resource α]

/-- The mark that a caller leaves with its next step. -/
def markAt (system : System α ω) (id : Nat) : Point α ω → Option (Mark α)
  | .checking _ => system.queue.take.1.map (.handed id)
  | .holding work .handed => some (.looked id work (system.cache.get? work.key))
  | .holding work (.looked _) => some (.called id work)
  | .holding work (.delaying _ delay) => if delay.nanos = 0 then some (.returned work) else none
  | _ => none

/-- The mark that a step leaves. -/
def mark? (before after : System α ω) : Action α ω → Option (Mark α)
  | .receive _ _ => some (.refreshed after.cache)
  | .passOn =>
      match before.relay with
      | .passing ((key, change) :: _) _ _ =>
          (Work.ofChange? key change).map fun _ => .announced key change
      | _ => none
  | .fire ticket => (before.delayed.find? ticket).map fun delayed => .returned delayed.work
  | .advance id =>
      (before.callers.find? id).bind fun caller => before.markAt id caller.point
  | _ => none

/-- The runs of a controller from its start, with the marks they leave, the newest
first. -/
inductive Runs (plan : Plan α ω) (admits : Event α → Prop) : List (Mark α) → System α ω → Prop
  | start (world : ω) : Runs plan admits [] { world }
  | step {history : List (Mark α)} {before after : System α ω} {action : Action α ω} :
      Runs plan admits history before → action.Occurs admits →
      before.act plan action = some after →
      Runs plan admits ((before.mark? after action).toList ++ history) after

/-- The history and the state after actions one after another, if all of them are
possible. -/
def replay (plan : Plan α ω) (history : List (Mark α)) (system : System α ω) :
    List (Action α ω) → Option (List (Mark α) × System α ω)
  | [] => some (history, system)
  | action :: actions =>
      (system.act plan action).bind fun after =>
        replay plan ((system.mark? after action).toList ++ history) after actions

theorem Runs.replay {plan : Plan α ω} {admits : Event α → Prop} {history newer : List (Mark α)}
    {before after : System α ω} {actions : List (Action α ω)}
    (run : Runs plan admits history before)
    (occur : ∀ action ∈ actions, action.Occurs admits)
    (replayed : System.replay plan history before actions = some (newer, after)) :
    Runs plan admits newer after := by
  induction actions generalizing history before with
  | nil =>
      obtain ⟨rfl, rfl⟩ := Prod.mk.inj (Option.some.inj replayed)
      exact run
  | cons action actions ih =>
      obtain ⟨next, acted, rest⟩ := Option.bind_eq_some_iff.mp replayed
      exact ih (run.step (occur action (by simp)) acted)
        (fun other member => occur other (by simp [member])) rest

end System

end Reconciler
