import Reconciler.Json.Decode
import Reconciler.Resource

/-!
# Metadata in JSON

Metadata is an object all of whose fields may be missing or `null`.  The fields
that reconciliation does not look at are checked and kept as they are.
-/

namespace Reconciler

namespace Metadata

open Json

/-- The limits of a signed number of 64 bits. -/
def readLong : Decoder Int :=
  Decoder.integer (-(Int.pow 2 63)) (Int.pow 2 63 - 1) "i64"

/-- A text, as a JSON value. -/
def keptText : Decoder Json :=
  fun document => (Decoder.text document).map .text

/-- A whole number, as a JSON value. -/
def keptLong : Decoder Json :=
  fun document => (readLong document).map fun value => .number (.whole value)

/-- An object of texts, as a JSON value. -/
def keptTexts : Decoder Json :=
  fun document => (Decoder.mapOf Decoder.text document).map Json.textFields

/-- A list of texts, as a JSON value. -/
def keptList : Decoder Json :=
  fun document => (Decoder.listOf Decoder.text document).map Json.texts

/-- A list of anything, as a JSON value. -/
def keptItems : Decoder Json :=
  fun document => (Decoder.listOf Decoder.any document).map .list

/-- The fields that are kept as they are, with their readers. -/
def keptFields : List (String × Decoder Json) := [
  ("annotations", keptTexts),
  ("creationTimestamp", keptText),
  ("deletionGracePeriodSeconds", keptLong),
  ("finalizers", keptList),
  ("generation", keptLong),
  ("labels", keptTexts),
  ("managedFields", keptItems),
  ("ownerReferences", keptItems),
  ("selfLink", keptText),
  ("uid", keptText)]

/-- The names of the fields that reconciliation looks at. -/
def usedFields : List String :=
  ["name", "namespace", "generateName", "resourceVersion", "deletionTimestamp"]

/-- The rules of all fields. -/
def rules : List FieldRule :=
  usedFields.map (FieldRule.of · (Decoder.optional Decoder.text)) ++
    keptFields.map fun field => FieldRule.of field.1 (Decoder.optional field.2)

/-- Reads metadata together with the fields that are kept as they are. -/
def readFull : Decoder (Metadata × List (String × Json)) := fun document => do
  let fields ← openLenient "ObjectMeta" rules document
  let kept ← keptFields.filterMapM fun field => do
    let value ← fields.optional field.1 field.2
    return value.map fun value => (field.1, value)
  return (
    { name := ← fields.optional "name" Decoder.text
      ns := ← fields.optional "namespace" Decoder.text
      generateName := ← fields.optional "generateName" Decoder.text
      resourceVersion := ← fields.optional "resourceVersion" Decoder.text
      deletionTimestamp := ← fields.optional "deletionTimestamp" Decoder.text },
    kept)

/-- Reads metadata. -/
def read : Decoder Metadata :=
  fun document => (readFull document).map Prod.fst

/-- Metadata as a JSON value, with the fields that are kept as they are. -/
def toJson (metadata : Metadata) (kept : List (String × Json)) : Json :=
  Json.recordOfPresent ([
    ("name", metadata.name.map .text),
    ("namespace", metadata.ns.map .text),
    ("generateName", metadata.generateName.map .text),
    ("resourceVersion", metadata.resourceVersion.map .text),
    ("deletionTimestamp", metadata.deletionTimestamp.map .text)] ++
    kept.map fun field => (field.1, some field.2))

end Metadata

namespace Json.Decoder

/-- Reads a text that must be the given one. -/
def exactly (expected : String) : Decoder Unit
  | .text span value =>
      if value = expected then .ok ()
      else .error ⟨.wrongValue (.text value) expected, stopOf span⟩
  | document => .error (document.refuse "a string")

/-- Reads an object of texts; a missing or `null` one is empty. -/
def textsOrNone (document : Document) : Except Fault (Dictionary String) :=
  (optional (mapOf text) document).map fun texts => texts.getD {}

/-- Reads a list; a missing or `null` one is empty. -/
def listOrNone {α : Type} (decoder : Decoder α) (document : Document) : Except Fault (List α) :=
  (optional (listOf decoder) document).map fun items => items.getD []

end Json.Decoder

end Reconciler
