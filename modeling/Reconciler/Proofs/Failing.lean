import Reconciler.Proofs.Callers

/-!
# Handlers that always fail

Consider a handler of which every reconciliation of a key fails in a way that may be
repeated, whatever it meets in its surroundings.  Then no item of this key is ever
settled: each one that was handed out ends up being weighed.
-/

namespace Reconciler

variable {α ω : Type}

/-- However a call goes on, it ends with one of these outcomes. -/
def Call.Ends (kind : Outcome → Prop) : Call ω → Prop
  | .finish outcome => kind outcome
  | .pause _ next | .say _ next => next.Ends kind
  | .act _ next => ∀ world, (next world).Ends kind

theorem Call.Ends.continues {kind : Outcome → Prop} {call rest : Call ω} (ends : call.Ends kind)
    (goesOn : call.Continues rest) : rest.Ends kind := by
  cases goesOn with
  | pause | say => exact ends
  | act effect next world => exact ends world

/-- An outcome that may be another one if the item is tried again. -/
def Outcome.Transient (outcome : Outcome) : Prop :=
  ∃ failure, System.failureOf outcome = some failure ∧ failure.severity = .transient

/-- No reconciliation of a key succeeds, and each may be repeated. -/
structure Handler.Fails (handler : Handler α ω) (key : Key) : Prop where
  adopt : ∀ object,
    (handler.adopt key object).Ends fun outcome => outcome = .succeeded ∨ outcome.Transient
  sync : ∀ operation current prior,
    (handler.sync key operation current prior).Ends Outcome.Transient

namespace Stage

/-- Whether an item in this stage is on its way to be weighed. -/
def Failing : Stage α ω → Prop
  | .adopting _ call => call.Ends fun outcome => outcome = .succeeded ∨ outcome.Transient
  | .syncing call => call.Ends Outcome.Transient
  | .concluded outcome => outcome.Transient
  | .forgetting | .releasing => False
  | _ => True

variable {plan : Plan α ω} {work : Work α}

theorem failing_opening (fails : plan.handler.Fails work.key) (current : Option α) :
    (Stage.opening plan work current).Failing := by
  unfold opening
  split
  · exact fails.adopt _
  · exact fails.sync _ _ _

theorem failing_settling {outcome : Outcome} (transient : outcome.Transient) :
    (Stage.settling outcome : Stage α ω).Failing := by
  obtain ⟨failure, failed, repeats⟩ := transient
  have yields : (Stage.settling outcome : Stage α ω) = .yielding failure := by
    rw [settling, failed]
    simp only [repeats]
  rw [yields]
  trivial

theorem Goes.failing {stage next : Stage α ω} (goes : stage.Goes plan work next)
    (fails : plan.handler.Fails work.key) (failing : stage.Failing) : next.Failing := by
  cases goes with
  | adopting goesOn => exact Call.Ends.continues failing goesOn
  | adopted => trivial
  | unadopted unsuccessful => exact Or.resolve_left failing unsuccessful
  | begun => exact fails.sync _ _ _
  | syncing goesOn => exact Call.Ends.continues failing goesOn
  | ended => exact failing

end Stage

namespace System

/-- Every item of a key that somebody holds is on its way to be weighed. -/
def Failing (key : Key) (callers : Table Nat (Caller α ω)) : Prop :=
  ∀ id caller work stage, callers.find? id = some caller →
    caller.point.held? = some (work, stage) → work.key = key → stage.Failing

theorem Failing.step [Resource α] {plan : Plan α ω} {before after : System α ω}
    {action : Action α ω} {mark : Option (Mark α)} {key : Key} (fails : plan.handler.Fails key)
    (failing : Failing key before.callers) (turn : Turn plan before action mark after) :
    Failing key after.callers := by
  rintro id caller work stage found held rfl
  cases came_of_turn turn found held with
  | stayed _ stays => exact failing id caller work stage stays held rfl
  | taken => trivial
  | @moved former earlier _ came bore moves =>
      have failed := failing id former work earlier came bore rfl
      cases moves with
      | looked | yielded | granted | given => trivial
      | called => exact Stage.failing_opening fails _
      | handled goes => exact goes.failing fails failed
      | concluded => exact Stage.failing_settling failed
      | forgot => exact failed

/-- No item of a key is settled as long as every reconciliation of the key fails. -/
theorem failing_of_runs [Resource α] {plan : Plan α ω} {admits : Event α → Prop} {key : Key}
    {history : List (Mark α)} {system : System α ω} (fails : plan.handler.Fails key)
    (run : Runs plan admits history system) : Failing key system.callers := by
  apply run.keeps (motive := fun system => Failing key system.callers)
  · intro world id caller work stage found
    simp [Table.find?_empty] at found
  · intro before action mark after failing turn
    exact failing.step fails turn

end System

end Reconciler
