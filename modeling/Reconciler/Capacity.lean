import Reconciler.Node
import Reconciler.Pod
import Reconciler.Quantity

/-!
# Capacity of the cluster

The summary counts nodes and compares what ready and schedulable nodes offer with
what the active pods on those nodes ask for: processors in cores, memory in
gibibytes.
-/

namespace Reconciler

/-- Amounts of the two resources that are summed up. -/
structure Usage where
  /-- Thousandths of a processor core. -/
  millicores : Float := 0.0
  bytes : Float := 0.0

namespace Usage

/-- The nearest whole number, with halves rounded away from zero. -/
def nearestWhole (value : Float) : Float :=
  match value.toModel.unpack with
  | .finite sign mantissa exponent _ =>
      let parts := Nat.pow 2 (-exponent).toNat
      let doubled := 2 * mantissa * Nat.pow 2 exponent.toNat
      let whole := Float.ofNat ((doubled + parts) / (2 * parts))
      match sign with
      | .positive => whole
      | .negative => -whole
  | _ => value

/-- The thousandths of a core in quantities by name, rounded. -/
def millicoresOf (resources : Dictionary String) : Float :=
  match (resources.find? "cpu").bind Quantity.value? with
  | some cores => nearestWhole (cores * 1000.0)
  | none => 0.0

/-- The bytes in quantities by name. -/
def bytesOf (resources : Dictionary String) : Float :=
  ((resources.find? "memory").bind Quantity.value?).getD 0.0

/-- Adds what quantities by name say. -/
def add (usage : Usage) (resources : Dictionary String) : Usage :=
  ⟨usage.millicores + millicoresOf resources, usage.bytes + bytesOf resources⟩

/-- The sum of quantities by name. -/
def total (resources : List (Dictionary String)) : Usage :=
  resources.foldl add {}

/-- Whole cores. -/
def cores (usage : Usage) : Nat :=
  (usage.millicores / 1000.0).toUInt64.toNat

/-- Whole gibibytes. -/
def gibibytes (usage : Usage) : Nat :=
  (usage.bytes / 1073741824.0).toUInt64.toNat

end Usage

/-- How much of a resource is used, and how much there is. -/
structure Share where
  used : Nat := 0
  total : Nat := 0
deriving DecidableEq, Repr

/-- The capacity of the cluster. -/
structure Capacity where
  total : Nat := 0
  ready : Nat := 0
  schedulable : Nat := 0
  cpu : Share := {}
  memory : Share := {}
deriving DecidableEq, Repr

namespace Capacity

/-- Whether pods on a node count, and what it offers counts. -/
def isAvailable (node : Node) : Bool :=
  node.isReady && node.isSchedulable

/-- The names of the available nodes. -/
def availableNames (nodes : List Node) : List String :=
  (nodes.filter isAvailable).filterMap fun node => node.metadata.name

/-- Whether a pod counts: it is active and placed on an available node. -/
def isActive (available : List String) (pod : Pod) : Bool :=
  !pod.isFinished && !pod.isLeaving && pod.nodeName.any available.contains

/-- The capacity of a cluster with these nodes and pods. -/
def of (nodes : List Node) (pods : List Pod) : Capacity :=
  let available := availableNames nodes
  let offered := Usage.total ((nodes.filter isAvailable).map Node.allocatable)
  let asked := Usage.total ((pods.filter (isActive available)).flatMap Pod.requests)
  { total := nodes.length
    ready := (nodes.filter Node.isReady).length
    schedulable := (nodes.filter Node.isSchedulable).length
    cpu := ⟨asked.cores, offered.cores⟩
    memory := ⟨asked.gibibytes, offered.gibibytes⟩ }

/-- The summary in one line. -/
def text (capacity : Capacity) : String :=
  "nodes: " ++ toString capacity.total ++ " total, " ++ toString capacity.ready ++ " ready, " ++
    toString capacity.schedulable ++ " schedulable; cpu: " ++ toString capacity.cpu.used ++ "/" ++
    toString capacity.cpu.total ++ " cores; memory: " ++ toString capacity.memory.used ++ "/" ++
    toString capacity.memory.total ++ " GiB"

end Capacity

end Reconciler
