import Reconciler.Dictionary
import Reconciler.Handler

/-!
# Pods

The pod controller logs the lifecycle of pods.  What the containers of a pod ask
for counts as used on its node until the pod is finished.
-/

namespace Reconciler

/-- A pod. -/
structure Pod where
  metadata : Metadata := {}
  phase : Option String := none
  /-- The node that the pod was placed on. -/
  nodeName : Option String := none
  /-- What each container asks for, as quantities by name. -/
  requests : List (Dictionary String) := []
deriving DecidableEq, Repr

instance : Resource Pod :=
  ⟨Pod.metadata⟩

namespace Pod

/-- The phase of a pod. -/
def phaseText (pod : Pod) : String :=
  pod.phase.getD "Unknown"

/-- Whether a pod has come to its end. -/
def isFinished (pod : Pod) : Bool :=
  pod.phase == some "Failed" || pod.phase == some "Succeeded"

/-- Whether a pod is being deleted. -/
def isLeaving (pod : Pod) : Bool :=
  pod.metadata.deletionTimestamp.isSome

/-- The log line about a pod. -/
def line (key : Key) (operation : Operation) (current prior : Option Pod) : Line :=
  match current, prior with
  | none, _ => ⟨.info, "pod " ++ key.text ++ " is removed"⟩
  | some pod, some previous =>
      if previous.phaseText ≠ pod.phaseText then
        ⟨.info, "pod " ++ key.text ++ " (" ++ operation.text ++ ") phase changed from " ++
          previous.phaseText ++ " to " ++ pod.phaseText⟩
      else
        ⟨.info, "pod " ++ key.text ++ " (" ++ operation.text ++ ") phase: " ++ pod.phaseText⟩
  | some pod, none =>
      ⟨.info, "pod " ++ key.text ++ " (" ++ operation.text ++ ") phase: " ++ pod.phaseText⟩

/-- The handler of pods. -/
def handler {ω : Type} : Handler Pod ω where
  sync key operation current prior := .say (line key operation current prior) Call.done

end Pod

end Reconciler
