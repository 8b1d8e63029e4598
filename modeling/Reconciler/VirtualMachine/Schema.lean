import Reconciler.VirtualMachine.Basic

/-!
# The resource definition of virtual machines

The definition tells the API server which fields a virtual machine has and what
they mean.
-/

namespace Reconciler

/-- The schema of a value of a resource.  A description of two paragraphs has an
empty line between them. -/
inductive Schema
  | text (description : String) (nullable : Bool)
  | boolean (description : String)
  | texts (description : String) (nullable : Bool)
  | list (description : String) (nullable : Bool) (items : Schema)
  | record (title description : String) (nullable : Bool) (fields : List (String × Schema))
      (required : List String)

namespace Schema

/-- The entries that every schema may have. -/
def common (kind description : String) (nullable : Bool) : List (String × Json) :=
  [("type", .text kind)] ++
    (if description = "" then [] else [("description", .text description)]) ++
    (if nullable then [("nullable", .boolean true)] else [])

mutual

/-- A schema as a JSON value. -/
def toJson : Schema → Json
  | text description nullable => Json.record (common "string" description nullable)
  | boolean description => Json.record (common "boolean" description false)
  | texts description nullable =>
      Json.record (common "object" description nullable ++
        [("additionalProperties", Json.record [("type", .text "string")])])
  | list description nullable items =>
      Json.record (common "array" description nullable ++ [("items", toJson items)])
  | record title description nullable fields required =>
      Json.record (common "object" description nullable ++
        (if title = "" then [] else [("title", .text title)]) ++
        [("properties", Json.record (fieldsToJson fields))] ++
        (if required.isEmpty then [] else [("required", Json.texts required)]))

/-- The schemas of fields as JSON values. -/
def fieldsToJson : List (String × Schema) → List (String × Json)
  | [] => []
  | (name, schema) :: fields => (name, toJson schema) :: fieldsToJson fields

end

end Schema

namespace VirtualMachine

/-- The schema of a taint. -/
def taintSchema : Schema :=
  .record "" "A taint attached to a virtual machine." false [
    ("key", .text "" false),
    ("value", .text "" true),
    ("effect", .text "One of `NoSchedule`, `PreferNoSchedule` or `NoExecute`." false)]
    ["effect", "key"]

/-- The schema of a spec. -/
def specSchema : Schema :=
  .record "" ("A virtual machine managed by the node controller.\n\n" ++
    "The shape follows the core `Node` resource: the spec describes how the machine is " ++
    "scheduled, the status is populated by the controller and the machine agents.") false [
    ("podCIDR", .text "The pod IP range assigned to the virtual machine." true),
    ("providerID", .text ("ID of the machine assigned by the cloud provider in the format " ++
      "`<ProviderName>://<ProviderSpecificID>`.") true),
    ("unschedulable", .boolean
      "Controls schedulability of new pods, by default the machine is schedulable."),
    ("taints", .list "The machine's taints." false taintSchema)] []

/-- The schema of a condition. -/
def conditionSchema : Schema :=
  .record "" "" false [
    ("type", .text "" false),
    ("status", .text "status of the condition, one of True, False, Unknown." false),
    ("lastHeartbeatTime", .text "" true),
    ("lastTransitionTime", .text "" true),
    ("reason", .text "" true),
    ("message", .text "" true)]
    ["status", "type"]

/-- The schema of an address. -/
def addressSchema : Schema :=
  .record "" "" false [("type", .text "" false), ("address", .text "" false)] ["address", "type"]

/-- The schema of a status. -/
def statusSchema : Schema :=
  .record "" "" true [
    ("capacity", .texts
      "Total resources of the machine, keyed by resource name (`cpu`, `memory`, ...)." true),
    ("allocatable", .texts "Resources available for scheduling." true),
    ("phase", .text "" true),
    ("conditions", .list "" true conditionSchema),
    ("addresses", .list "" true addressSchema)] []

/-- The schema of a machine. -/
def schema : Schema :=
  .record "VirtualMachine" "Auto-generated derived type for VirtualMachineSpec via `CustomResource`"
    false [("spec", specSchema), ("status", statusSchema)] ["spec"]

/-- The column that listings of machines show. -/
def phaseColumn : Json :=
  Json.record [
    ("name", .text "Phase"),
    ("type", .text "string"),
    ("jsonPath", .text ".status.phase"),
    ("description", .text "The lifecycle phase of the virtual machine.")]

/-- The resource definition. -/
def definition : Json :=
  Json.record [
    ("apiVersion", .text "apiextensions.k8s.io/v1"),
    ("kind", .text "CustomResourceDefinition"),
    ("metadata", Json.record [("name", .text ("virtualmachines." ++ apiGroup))]),
    ("spec", Json.record [
      ("group", .text apiGroup),
      ("names", Json.record [
        ("categories", .list []),
        ("kind", .text "VirtualMachine"),
        ("plural", .text "virtualmachines"),
        ("shortNames", .list []),
        ("singular", .text "virtualmachine")]),
      ("scope", .text "Namespaced"),
      ("versions", .list [Json.record [
        ("name", .text apiVersion),
        ("served", .boolean true),
        ("storage", .boolean true),
        ("schema", Json.record [("openAPIV3Schema", schema.toJson)]),
        ("subresources", Json.record [("status", Json.record [])]),
        ("additionalPrinterColumns", .list [phaseColumn])]])])]

end VirtualMachine

end Reconciler
