import Reconciler.Handler
import Reconciler.Json.Value

/-!
# Virtual machines

A virtual machine is described like a node: its spec says how it is scheduled, its
status is filled in by the controller and the agents of the machine.  The
controller adopts a machine that has no phase yet by setting its phase, and logs
the state of machines.
-/

namespace Reconciler

namespace VirtualMachine

/-- The API group of virtual machines. -/
def apiGroup : String :=
  "nodecontroller.k8s.io"

/-- The version of the API. -/
def apiVersion : String :=
  "v1alpha1"

/-- The phase of a machine that was adopted. -/
def runningPhase : String :=
  "Running"

/-- A taint of a machine. -/
structure Taint where
  key : String
  value : Option String := none
  effect : String
deriving DecidableEq, Repr

/-- How a machine is scheduled. -/
structure Spec where
  podCidr : Option String := none
  providerId : Option String := none
  unschedulable : Bool := false
  taints : List Taint := []
deriving DecidableEq, Repr

/-- A condition of a machine. -/
structure Condition where
  kind : String
  status : String
  lastHeartbeatTime : Option String := none
  lastTransitionTime : Option String := none
  reason : Option String := none
  message : Option String := none
deriving DecidableEq, Repr

/-- An address of a machine. -/
structure Address where
  kind : String
  address : String
deriving DecidableEq, Repr

/-- The observed state of a machine. -/
structure Status where
  capacity : Option (Dictionary String) := none
  allocatable : Option (Dictionary String) := none
  phase : Option String := none
  conditions : Option (List Condition) := none
  addresses : Option (List Address) := none
deriving DecidableEq, Repr

end VirtualMachine

/-- A virtual machine. -/
structure VirtualMachine where
  metadata : Metadata := {}
  /-- The fields of the metadata that are kept as they are. -/
  kept : List (String × Json) := []
  spec : VirtualMachine.Spec := {}
  status : Option VirtualMachine.Status := none
deriving Repr

instance : Resource VirtualMachine :=
  ⟨VirtualMachine.metadata⟩

namespace VirtualMachine

/-- The phase of a machine; an empty one counts as none. -/
def phase? (machine : VirtualMachine) : Option String :=
  nonEmpty? (machine.status.bind Status.phase)

/-- The first condition of a kind. -/
def condition? (machine : VirtualMachine) (kind : String) : Option Condition :=
  (machine.status.bind Status.conditions).bind fun conditions =>
    conditions.find? fun condition => condition.kind == kind

/-- What writes the phase of a machine to the API server. -/
abbrev StatusWriter (ω : Type) :=
  Key → String → Call ω

/-- The log line about a machine. -/
def line (key : Key) (operation : Operation) : Option VirtualMachine → Line
  | none => ⟨.info, "virtual machine " ++ key.text ++ " is removed"⟩
  | some machine =>
      ⟨.info, "virtual machine " ++ key.text ++ " (" ++ operation.text ++ ") phase: " ++
        machine.phase?.getD "<unset>" ++ ", ready: " ++
        ((machine.condition? "Ready").map Condition.status).getD "Unknown"⟩

/-- The log line about an adopted machine. -/
def adoptedLine (key : Key) : Line :=
  ⟨.info, "virtual machine " ++ key.text ++ " adopted, phase set to " ++ runningPhase⟩

/-- The handler of machines, with the writer of their status. -/
def handler {ω : Type} (setPhase : StatusWriter ω) : Handler VirtualMachine ω where
  adopt key machine :=
    match machine.phase? with
    | some _ => Call.done
    | none => (setPhase key runningPhase).andThen (.say (adoptedLine key) Call.done)
  sync key operation current _ := .say (line key operation current) Call.done

end VirtualMachine

end Reconciler
