import Reconciler.Metadata
import Reconciler.Pod

/-!
# Pods in JSON

Every field of a pod may be missing or `null`, and fields without meaning for
reconciliation are skipped.
-/

namespace Reconciler

namespace Pod

open Json

/-- Reads what a container may use. -/
def readResources : Decoder (Dictionary String) := fun document => do
  let fields ← openLenient "ResourceRequirements"
    [.of "requests" Decoder.textsOrNone] document
  fields.defaulted "requests" Decoder.textsOrNone {}

/-- Reads what a container asks for. -/
def readContainer : Decoder (Dictionary String) := fun document => do
  let fields ← openLenient "Container"
    [.of "resources" (Decoder.optional readResources)] document
  return (← fields.optional "resources" readResources).getD {}

/-- Reads the node of a pod and what its containers ask for. -/
def readSpec : Decoder (Option String × List (Dictionary String)) := fun document => do
  let fields ← openLenient "PodSpec"
    [.of "nodeName" (Decoder.optional Decoder.text),
      .of "containers" (Decoder.listOrNone readContainer)] document
  return ((← fields.optional "nodeName" Decoder.text),
    (← fields.defaulted "containers" (Decoder.listOrNone readContainer) []))

/-- Reads the phase of a pod. -/
def readStatus : Decoder (Option String) := fun document => do
  let fields ← openLenient "PodStatus" [.of "phase" (Decoder.optional Decoder.text)] document
  fields.optional "phase" Decoder.text

/-- Reads a pod. -/
def read : Decoder Pod := fun document => do
  let fields ← openLenient "Pod"
    [.of "apiVersion" (Decoder.exactly "v1"), .of "kind" (Decoder.exactly "Pod"),
      .of "metadata" (Decoder.optional Metadata.read), .of "spec" (Decoder.optional readSpec),
      .of "status" (Decoder.optional readStatus)] document
  let spec ← fields.optional "spec" readSpec
  return {
    metadata := (← fields.optional "metadata" Metadata.read).getD {}
    phase := (← fields.optional "status" readStatus).getD none
    nodeName := (spec.map Prod.fst).getD none
    requests := (spec.map Prod.snd).getD [] }

end Pod

end Reconciler
