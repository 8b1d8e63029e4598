import Reconciler.Metadata
import Reconciler.VirtualMachine.Basic

/-!
# Virtual machines in JSON

Missing and empty parts of a spec are left out when it is written; parts of a
status are left out only when they are missing, so that an empty list and a missing
one stay apart.  A part that may be missing may also be `null`, except for the taints
and the flag of a spec, which have a default instead.
-/

namespace Reconciler

namespace VirtualMachine

open Json

/-! ## Taints and specs -/

/-- Reads a taint. -/
def Taint.read : Decoder Taint := fun document => do
  let fields ← openRecord "Taint"
    [.of "key" Decoder.text, .of "value" (Decoder.optional Decoder.text),
      .of "effect" Decoder.text] document
  return {
    key := ← fields.required "key" Decoder.text
    value := ← fields.optional "value" Decoder.text
    effect := ← fields.required "effect" Decoder.text }

/-- A taint as a JSON value. -/
def Taint.toJson (taint : Taint) : Json :=
  Json.recordOfPresent [
    ("key", some (.text taint.key)),
    ("value", taint.value.map .text),
    ("effect", some (.text taint.effect))]

/-- Reads a spec. -/
def Spec.read : Decoder Spec := fun document => do
  let fields ← openRecord "VirtualMachineSpec"
    [.of "podCIDR" (Decoder.optional Decoder.text),
      .of "providerID" (Decoder.optional Decoder.text),
      .defaulted "unschedulable" Decoder.boolean,
      .defaulted "taints" (Decoder.listOf Taint.read)] document
  return {
    podCidr := ← fields.optional "podCIDR" Decoder.text
    providerId := ← fields.optional "providerID" Decoder.text
    unschedulable := ← fields.defaulted "unschedulable" Decoder.boolean false
    taints := ← fields.defaulted "taints" (Decoder.listOf Taint.read) [] }

/-- A spec as a JSON value. -/
def Spec.toJson (spec : Spec) : Json :=
  Json.recordOfPresent [
    ("podCIDR", spec.podCidr.map .text),
    ("providerID", spec.providerId.map .text),
    ("unschedulable", if spec.unschedulable then some (.boolean true) else none),
    ("taints", if spec.taints.isEmpty then none else some (.list (spec.taints.map Taint.toJson)))]

/-! ## Conditions, addresses and statuses -/

/-- Reads a condition. -/
def Condition.read : Decoder Condition := fun document => do
  let fields ← openRecord "VirtualMachineCondition"
    [.of "type" Decoder.text, .of "status" Decoder.text,
      .of "lastHeartbeatTime" (Decoder.optional Decoder.text),
      .of "lastTransitionTime" (Decoder.optional Decoder.text),
      .of "reason" (Decoder.optional Decoder.text),
      .of "message" (Decoder.optional Decoder.text)] document
  return {
    kind := ← fields.required "type" Decoder.text
    status := ← fields.required "status" Decoder.text
    lastHeartbeatTime := ← fields.optional "lastHeartbeatTime" Decoder.text
    lastTransitionTime := ← fields.optional "lastTransitionTime" Decoder.text
    reason := ← fields.optional "reason" Decoder.text
    message := ← fields.optional "message" Decoder.text }

/-- A condition as a JSON value. -/
def Condition.toJson (condition : Condition) : Json :=
  Json.recordOfPresent [
    ("type", some (.text condition.kind)),
    ("status", some (.text condition.status)),
    ("lastHeartbeatTime", condition.lastHeartbeatTime.map .text),
    ("lastTransitionTime", condition.lastTransitionTime.map .text),
    ("reason", condition.reason.map .text),
    ("message", condition.message.map .text)]

/-- Reads an address. -/
def Address.read : Decoder Address := fun document => do
  let fields ← openRecord "VirtualMachineAddress"
    [.of "type" Decoder.text, .of "address" Decoder.text] document
  return {
    kind := ← fields.required "type" Decoder.text
    address := ← fields.required "address" Decoder.text }

/-- An address as a JSON value. -/
def Address.toJson (address : Address) : Json :=
  Json.record [("type", .text address.kind), ("address", .text address.address)]

/-- Reads a status. -/
def Status.read : Decoder Status := fun document => do
  let fields ← openRecord "VirtualMachineStatus"
    [.of "capacity" (Decoder.optional (Decoder.mapOf Decoder.text)),
      .of "allocatable" (Decoder.optional (Decoder.mapOf Decoder.text)),
      .of "phase" (Decoder.optional Decoder.text),
      .of "conditions" (Decoder.optional (Decoder.listOf Condition.read)),
      .of "addresses" (Decoder.optional (Decoder.listOf Address.read))] document
  return {
    capacity := ← fields.optional "capacity" (Decoder.mapOf Decoder.text)
    allocatable := ← fields.optional "allocatable" (Decoder.mapOf Decoder.text)
    phase := ← fields.optional "phase" Decoder.text
    conditions := ← fields.optional "conditions" (Decoder.listOf Condition.read)
    addresses := ← fields.optional "addresses" (Decoder.listOf Address.read) }

/-- A status as a JSON value. -/
def Status.toJson (status : Status) : Json :=
  Json.recordOfPresent [
    ("capacity", status.capacity.map Json.textFields),
    ("allocatable", status.allocatable.map Json.textFields),
    ("phase", status.phase.map .text),
    ("conditions", status.conditions.map fun items => .list (items.map Condition.toJson)),
    ("addresses", status.addresses.map fun items => .list (items.map Address.toJson))]

/-! ## Machines -/

/-- Reads a machine; its kind and API version are not looked at. -/
def read : Decoder VirtualMachine := fun document => do
  let fields ← openRecord "VirtualMachine"
    [.of "metadata" Metadata.readFull, .of "spec" Spec.read,
      .of "status" (Decoder.optional Status.read)] document
  let (metadata, kept) ← fields.required "metadata" Metadata.readFull
  return {
    metadata
    kept
    spec := ← fields.required "spec" Spec.read
    status := ← fields.optional "status" Status.read }

/-- A machine as a JSON value. -/
def toJson (machine : VirtualMachine) : Json :=
  Json.recordOfPresent [
    ("apiVersion", some (.text (apiGroup ++ "/" ++ apiVersion))),
    ("kind", some (.text "VirtualMachine")),
    ("metadata", some (machine.metadata.toJson machine.kept)),
    ("spec", some machine.spec.toJson),
    ("status", machine.status.map Status.toJson)]

end VirtualMachine

end Reconciler
