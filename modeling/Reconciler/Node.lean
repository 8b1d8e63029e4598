import Reconciler.Alert
import Reconciler.Json.Value

/-!
# Worker nodes

A node reports conditions, of which `Ready` matters most, and the resources that
pods can be given.  The node controller logs how nodes change, and records an
alert for a node that is gone.
-/

namespace Reconciler

/-- A condition of a node. -/
structure Node.Condition where
  kind : String
  status : String
deriving DecidableEq, Repr

/-- A worker node. -/
structure Node where
  metadata : Metadata := {}
  unschedulable : Bool := false
  conditions : List Node.Condition := []
  /-- The resources that can be given to pods, as quantities by name. -/
  allocatable : Dictionary String := {}
deriving DecidableEq, Repr

instance : Resource Node :=
  ⟨Node.metadata⟩

namespace Node

/-- The status of the first condition of a kind. -/
def status? (node : Node) (kind : String) : Option String :=
  (node.conditions.find? fun condition => condition.kind == kind).map Condition.status

/-- The status of the condition `Ready`. -/
def readiness (node : Node) : String :=
  (node.status? "Ready").getD "Unknown"

/-- Whether a node is ready. -/
def isReady (node : Node) : Bool :=
  node.readiness == "True"

/-- Whether new pods may be placed on a node. -/
def isSchedulable (node : Node) : Bool :=
  !node.unschedulable

/-- A condition whose status changed. -/
structure Transition where
  kind : String
  /-- Missing if the condition was not reported before. -/
  before : Option String
  after : String
deriving DecidableEq, Repr

/-- The conditions of `current` whose status is not that of `prior`. -/
def transitions (prior current : Node) : List Transition :=
  current.conditions.filterMap fun condition =>
    let before := prior.status? condition.kind
    if before = some condition.status then none
    else some ⟨condition.kind, before, condition.status⟩

/-- The alert text about a lost node. -/
def lostDescription : String :=
  "worker node lost contact with the cluster"

/-- The log line about the state of a node. -/
def stateLine (key : Key) (operation : Operation) (node : Node) : Line :=
  ⟨.info, "node " ++ key.text ++ " (" ++ operation.text ++ ") ready: " ++ node.readiness⟩

/-- The log line about a changed condition. -/
def transitionLine (key : Key) (transition : Transition) : Line :=
  ⟨.info, "node " ++ key.text ++ " condition " ++ transition.kind ++ " changed from " ++
    transition.before.getD "<none>" ++ " to " ++ transition.after⟩

/-- The log lines about a node that is there. -/
def lines (key : Key) (operation : Operation) (node : Node) (prior : Option Node) : List Line :=
  stateLine key operation node ::
    match operation, prior with
    | .update, some prior => (transitions prior node).map (transitionLine key)
    | _, _ => []

/-- Records an alert about a lost node, as a call. -/
def alertLost (key : Key) : Call AlertStore :=
  .act (fun store => store.record key.name lostDescription) fun before =>
    if before.isPending key.name then
      .say ⟨.debug, "node " ++ key.text ++ " is gone, alert already pending"⟩ Call.done
    else .say ⟨.warn, "node " ++ key.text ++ " is gone, alert recorded"⟩ Call.done

/-- The handler of nodes. -/
def handler : Handler Node AlertStore where
  sync key operation current prior :=
    match current with
    | some node => Call.sayAll (lines key operation node prior) Call.done
    | none => alertLost key

end Node

end Reconciler
