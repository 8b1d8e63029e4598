import Reconciler.Key

/-!
# Objects of a resource kind

Every object carries metadata: its name and namespace, the prefix its name is
generated from, and the version of its state.  The key of an object drops an empty
namespace, and an object without a name has no key.  The cache addresses objects
by their raw reference, in which an empty namespace differs from none.
-/

namespace Reconciler

/-- The metadata of an object that reconciliation looks at. -/
structure Metadata where
  name : Option String := none
  ns : Option String := none
  generateName : Option String := none
  resourceVersion : Option String := none
  deletionTimestamp : Option String := none
deriving DecidableEq, Repr

/-- The types whose values are objects with metadata. -/
class Resource (α : Type) where
  metadata : α → Metadata

/-- The address of an object in the cache, with its namespace as given. -/
structure Ref where
  ns : Option String
  name : String
deriving DecidableEq, Repr

/-- A text that is neither missing nor empty. -/
def nonEmpty? (text : Option String) : Option String :=
  text.filter fun value => value ≠ ""

/-- The address that a key stands for. -/
def Key.ref (key : Key) : Ref :=
  ⟨key.ns, key.name⟩

/-- The key of an address: an empty namespace is dropped. -/
def Ref.key (ref : Ref) : Key :=
  ⟨nonEmpty? ref.ns, ref.name⟩

/-- The failure to identify an object that has no name. -/
def Metadata.nameless (metadata : Metadata) : Failure :=
  .malformedKey ("object without name (namespace: " ++ Text.quotedOption metadata.ns ++
    ", generateName: " ++ Text.quotedOption metadata.generateName ++ ")")

/-- The key of an object with this metadata, if it has a name. -/
def Metadata.key? (metadata : Metadata) : Option Key :=
  (nonEmpty? metadata.name).map fun name => ⟨nonEmpty? metadata.ns, name⟩

/-- The key of an object with this metadata, or the failure to identify it. -/
def Metadata.key (metadata : Metadata) : Except Failure Key :=
  match metadata.key? with
  | some key => .ok key
  | none => .error metadata.nameless

/-- The address of an object with this metadata. -/
def Metadata.ref (metadata : Metadata) : Ref :=
  ⟨metadata.ns, metadata.name.getD ""⟩

section

variable {α : Type} [Resource α]

/-- The key of an object, or the failure to identify it. -/
def identify (object : α) : Except Failure Key :=
  (Resource.metadata object).key

/-- The address of an object in the cache. -/
def refOf (object : α) : Ref :=
  (Resource.metadata object).ref

/-- The version of the state of an object. -/
def versionOf (object : α) : Option String :=
  (Resource.metadata object).resourceVersion

end

/-- The key made from the address of a named object is its key. -/
theorem Metadata.ref_key_eq {metadata : Metadata} {key : Key}
    (named : metadata.key? = some key) : metadata.ref.key = key := by
  obtain ⟨name, nameEq, rfl⟩ := Option.map_eq_some_iff.1 named
  have given : metadata.name = some name := (Option.filter_eq_some_iff.1 nameEq).1
  simp [Metadata.ref, Ref.key, given]

end Reconciler
