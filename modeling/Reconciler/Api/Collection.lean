import Reconciler.Node
import Reconciler.Pod
import Reconciler.VirtualMachine.Basic

/-!
# Collections of the API server

The API server keeps the objects of one kind in a collection, which has a path.  The
part of a collection that belongs to one namespace has a path of its own.
-/

namespace Reconciler

/-- The objects of one kind at the API server. -/
structure Collection where
  /-- The path of the API that the kind belongs to. -/
  root : String
  /-- The name of the kind in paths. -/
  plural : String
deriving DecidableEq, Repr

namespace Collection

/-- The path of a collection, or of its part in a namespace. -/
def path (collection : Collection) (ns : Option String) : String :=
  match ns with
  | none => collection.root ++ "/" ++ collection.plural
  | some ns => collection.root ++ "/namespaces/" ++ ns ++ "/" ++ collection.plural

/-- The path of an object in a namespace. -/
def objectPath (collection : Collection) (ns name : String) : String :=
  collection.path (some ns) ++ "/" ++ name

end Collection

/-- The nodes of the cluster. -/
def Node.collection : Collection :=
  ⟨"/api/v1", "nodes"⟩

/-- The pods of the cluster. -/
def Pod.collection : Collection :=
  ⟨"/api/v1", "pods"⟩

/-- The virtual machines of the cluster. -/
def VirtualMachine.collection : Collection :=
  ⟨"/apis/" ++ VirtualMachine.apiGroup ++ "/" ++ VirtualMachine.apiVersion, "virtualmachines"⟩

end Reconciler
