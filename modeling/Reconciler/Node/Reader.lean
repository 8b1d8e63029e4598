import Reconciler.Metadata
import Reconciler.Node

/-!
# Nodes in JSON

Every field of a node may be missing or `null`, and fields without meaning for
reconciliation are skipped.
-/

namespace Reconciler

namespace Node

open Json

/-- Reads a condition. -/
def Condition.read : Decoder Condition := fun document => do
  let fields ← openLenient "NodeCondition" [
    .of "type" (Decoder.optional Decoder.text),
    .of "status" (Decoder.optional Decoder.text)] document
  return {
    kind := (← fields.optional "type" Decoder.text).getD ""
    status := (← fields.optional "status" Decoder.text).getD "" }

/-- Reads whether new pods are kept away. -/
def readSpec : Decoder Bool := fun document => do
  let fields ← openLenient "NodeSpec"
    [.of "unschedulable" (Decoder.optional Decoder.boolean)] document
  return (← fields.optional "unschedulable" Decoder.boolean).getD false

/-- Reads the conditions and what can be given to pods. -/
def readStatus : Decoder (List Condition × Dictionary String) := fun document => do
  let fields ← openLenient "NodeStatus"
    [.of "conditions" (Decoder.listOrNone Condition.read),
      .of "allocatable" Decoder.textsOrNone] document
  return ((← fields.defaulted "conditions" (Decoder.listOrNone Condition.read) []),
    (← fields.defaulted "allocatable" Decoder.textsOrNone {}))

/-- Reads a node. -/
def read : Decoder Node := fun document => do
  let fields ← openLenient "Node"
    [.of "apiVersion" (Decoder.exactly "v1"), .of "kind" (Decoder.exactly "Node"),
      .of "metadata" (Decoder.optional Metadata.read), .of "spec" (Decoder.optional readSpec),
      .of "status" (Decoder.optional readStatus)] document
  let status ← fields.optional "status" readStatus
  return {
    metadata := (← fields.optional "metadata" Metadata.read).getD {}
    unschedulable := (← fields.optional "spec" readSpec).getD false
    conditions := (status.map Prod.fst).getD []
    allocatable := (status.map Prod.snd).getD {} }

end Node

end Reconciler
