import Reconciler.Configuration
import Reconciler.Reporter
import Reconciler.Service

/-!
# The start of the program

The program looks for the address of its metrics page, for a cluster, and for its
configuration, in this order.  The first of them that cannot be had keeps it from
starting, which it reports together with the causes.
-/

namespace Reconciler

/-- Why no cluster was found: the program does not run inside of one, and the file
that describes one cannot be read. -/
structure ClusterFault where
  /-- The file that should describe a cluster. -/
  path : String
  reason : String
deriving DecidableEq, Repr

namespace ClusterFault

/-- Why the file does not help. -/
def readFailure (fault : ClusterFault) : String :=
  "failed to read kubeconfig from '" ++ Text.quoted fault.path ++ "': " ++ fault.reason

/-- Why neither way leads to a cluster. -/
def inferFailure (fault : ClusterFault) : String :=
  "failed to infer config: in-cluster: (failed to read an incluster environment variable: " ++
    "environment variable not found), kubeconfig: (" ++ fault.readFailure ++ ")"

end ClusterFault

/-- What keeps the program from starting. -/
inductive StartFault
  | settings (error : SettingsError)
  | cluster (fault : ClusterFault)
deriving DecidableEq, Repr

namespace StartFault

/-- The wording of a fault, without its causes. -/
def message : StartFault → String
  | settings error => error.message
  | cluster fault => "Failed to infer configuration: " ++ fault.inferFailure

/-- The causes of a fault, the nearest first. -/
def causes : StartFault → List String
  | settings error => error.causes
  | cluster fault => [fault.inferFailure, fault.readFailure, fault.reason]

/-- Causes with their numbers from `number` on. -/
def numbered (number : Nat) : List String → List String
  | [] => []
  | cause :: causes => ("    " ++ toString number ++ ": " ++ cause) :: numbered (number + 1) causes

/-- The report of a fault.  A single cause has no number. -/
def report (fault : StartFault) : List String :=
  let causes :=
    match fault.causes with
    | [] => []
    | [cause] => ["", "Caused by:", "    " ++ cause]
    | causes => "" :: "Caused by:" :: numbered 0 causes
  ("Error: " ++ fault.message) :: causes

end StartFault

/-- What the program finds outside of itself. -/
structure Host where
  environment : Variables
  /-- Whether there is a cluster to connect to. -/
  cluster : Except ClusterFault Unit
  /-- Takes an endpoint to listen at, or says why it cannot be had. -/
  bind : Net.Endpoint → Except String Unit

/-- What the program starts with. -/
structure Launch where
  endpoint : Net.Endpoint
  configuration : Configuration

namespace Program

/-- Looks for everything that the program needs. -/
def prepare (host : Host) : List Line × Except StartFault Launch :=
  let lookUp := Variables.ofEnvironment host.environment
  match metricsEndpoint lookUp with
  | .error error => ([], .error (.settings error))
  | .ok endpoint =>
      match host.cluster with
      | .error fault => ([], .error (.cluster fault))
      | .ok () =>
          ([Configuration.announcement (watchNamespace lookUp)],
            match Configuration.read lookUp with
            | .error error => .error (.settings error)
            | .ok configuration => .ok ⟨endpoint, configuration⟩)

/-- The line before the controllers are started. -/
def startingLine : Line :=
  ⟨.info, "start controllers ..."⟩

/-- The line at the end of the program. -/
def stoppedLine : Line :=
  ⟨.info, "all controllers stopped"⟩

/-- The plan of the node controller. -/
def nodePlan (settings : Settings) : Plan Node AlertStore :=
  { name := "node", backoff := settings.backoff, handler := Node.handler }

/-- The plan of the pod controller. -/
def podPlan {ω : Type} (settings : Settings) : Plan Pod ω :=
  { name := "pod", backoff := settings.backoff, handler := Pod.handler }

/-- The plan of the controller of virtual machines. -/
def machinePlan {ω : Type} (settings : Settings) (writer : VirtualMachine.StatusWriter ω) :
    Plan VirtualMachine ω :=
  { name := "virtual-machine"
    backoff := settings.backoff
    handler := VirtualMachine.handler writer }

end Program

end Reconciler
