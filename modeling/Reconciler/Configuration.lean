import Reconciler.Api.Collection
import Reconciler.Journal
import Reconciler.Settings

/-!
# Configuration

The controllers are configured by the environment: by the namespace that pods and
virtual machines are watched in, and by settings that all controllers share.  Nodes
belong to no namespace, so all of them are watched.  What is watched is announced
before the settings are read.
-/

namespace Reconciler

/-- What the controllers are configured with. -/
structure Configuration where
  /-- The namespace that is watched; missing means all. -/
  watchNamespace : Option String := none
  settings : Settings := {}
deriving DecidableEq, Repr

namespace Configuration

/-- The line that announces what is watched. -/
def announcement : Option String → Line
  | some ns => ⟨.info, "Controller is only watching resources in namespace " ++ ns⟩
  | none => ⟨.info, "Controller is watching resources in all namespaces"⟩

/-- Reads the configuration. -/
def read (lookUp : Variables) : Except SettingsError Configuration :=
  (Settings.read lookUp).map fun settings =>
    { watchNamespace := Reconciler.watchNamespace lookUp, settings }

/-- The path at which nodes are watched. -/
def nodesPath (_ : Configuration) : String :=
  Node.collection.path none

/-- The path at which pods are watched. -/
def podsPath (configuration : Configuration) : String :=
  Pod.collection.path configuration.watchNamespace

/-- The path at which virtual machines are watched. -/
def machinesPath (configuration : Configuration) : String :=
  VirtualMachine.collection.path configuration.watchNamespace

end Configuration

end Reconciler
