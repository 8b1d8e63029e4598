import Reconciler.Json.Document

/-!
# Reading typed values from documents

A decoder takes a document to a value or to its first fault.  A record is an
object with known fields, or a list of all its fields in their declared order.
The fields of an object are read in the order of the document, and only then are
missing ones looked for; unknown fields are skipped.
-/

namespace Reconciler

namespace Json

/-- A reader of one kind of value. -/
abbrev Decoder (α : Type) :=
  Document → Except Fault α

namespace Decoder

/-- Reads a text. -/
def text : Decoder String
  | .text _ value => .ok value
  | document => .error (document.refuse "a string")

/-- Reads a truth value. -/
def boolean : Decoder Bool
  | .boolean _ value => .ok value
  | document => .error (document.refuse "a boolean")

/-- Reads a whole number between two limits. -/
def integer (low high : Int) (expected : String) : Decoder Int
  | .number span (.whole value) =>
      if low ≤ value ∧ value ≤ high then .ok value
      else .error ⟨.wrongValue (.number (.whole value)) expected, stopOf span⟩
  | document => .error (document.refuse expected)

/-- Reads any value. -/
def any : Decoder Json :=
  Document.value

/-- Reads a value that may be `null`. -/
def optional {α : Type} (decoder : Decoder α) : Decoder (Option α)
  | .null _ => .ok none
  | document => (decoder document).map some

/-- Reads a list of values. -/
def listOf {α : Type} (decoder : Decoder α) : Decoder (List α)
  | .list _ items => items.mapM decoder
  | document => .error (document.refuse "a sequence")

/-- Reads an object whose fields all hold the same kind of value; of two fields with
one name the later counts. -/
def mapOf {α : Type} (decoder : Decoder α) : Decoder (Dictionary α)
  | .object _ fields =>
      fields.foldlM (fun dictionary field => do
        let value ← decoder field.2.2
        return dictionary.insert field.1 value) Dictionary.empty
  | document => .error (document.refuse "a map")

end Decoder

/-- A field of a record: its name, a check of its value, and whether a list that
ends before it stands for the default. -/
structure FieldRule where
  name : String
  check : Decoder Unit
  listDefault : Bool := false

/-- The rule of a field read by a decoder. -/
def FieldRule.of {α : Type} (name : String) (decoder : Decoder α) : FieldRule :=
  { name, check := fun document => (decoder document).map fun _ => () }

/-- The rule of a field that a list may leave out at its end. -/
def FieldRule.defaulted {α : Type} (name : String) (decoder : Decoder α) : FieldRule :=
  { name, check := fun document => (decoder document).map fun _ => (), listDefault := true }

/-- The fields of a record that were found, and the place behind the record. -/
structure Fields where
  found : List (String × Document)
  stop : Option Mark

namespace Fields

/-- The document of a field. -/
def find? (fields : Fields) (name : String) : Option Document :=
  Table.lookup name fields.found

/-- A field that must be there. -/
def required {α : Type} (fields : Fields) (name : String) (decoder : Decoder α) :
    Except Fault α :=
  match fields.find? name with
  | some document => decoder document
  | none => .error ⟨.missingField name, fields.stop⟩

/-- A field that may be missing or `null`. -/
def optional {α : Type} (fields : Fields) (name : String) (decoder : Decoder α) :
    Except Fault (Option α) :=
  match fields.find? name with
  | some document => Decoder.optional decoder document
  | none => .ok none

/-- A field that may be missing, but not `null`. -/
def defaulted {α : Type} (fields : Fields) (name : String) (decoder : Decoder α)
    (default : α) : Except Fault α :=
  match fields.find? name with
  | some document => decoder document
  | none => .ok default

end Fields

/-- Reads the fields of an object front to back.  A repeated field takes the place of
the one before, if `repeatable`, and is a fault otherwise. -/
def readObject (repeatable : Bool) (rules : List FieldRule) :
    List (String × Option Mark × Document) → List (String × Document) →
      Except Fault (List (String × Document))
  | [], found => .ok found
  | (name, mark, document) :: fields, found =>
      match rules.find? fun rule => rule.name == name with
      | none => do
          document.ignore
          readObject repeatable rules fields found
      | some rule =>
          if !repeatable && (Table.lookup name found).isSome then
            .error ⟨.duplicateField name, mark⟩
          else do
            rule.check document
            readObject repeatable rules fields (Table.place name document found)

/-- Why a list may not go on behind the last field of a record.  In a text the list is
not read any further, so what stands there does not matter. -/
def overlong (length : Nat) (extra : Document) : Fault :=
  match extra.start with
  | none => ⟨.wrongLength length "fewer elements in array", none⟩
  | some mark =>
      let trailing : Option Mark → Fault := Fault.mk (.malformed .trailingCharacters)
      let behind : Mark := ⟨mark.line, mark.column + 1⟩
      match extra with
      | .broken _ fault =>
          match fault.cause with
          | .malformed .endInList => fault
          | .malformed .trailingComma => fault
          | .malformed .expectedListEnd => trailing fault.mark
          | _ => trailing (if fault.mark = some mark then mark else behind)
      | _ => trailing behind

/-- Reads the fields of a record that is written as a list. -/
def readPositional (title : String) (span : Option Span) (length count : Nat) :
    List FieldRule → List Document → List (String × Document) →
      Except Fault (List (String × Document))
  | [], [], found => .ok found
  | [], extra :: _, _ => .error (overlong length extra)
  | rule :: rules, [], found =>
      if rule.listDefault then readPositional title span length count rules [] found
      else .error ⟨.wrongLength length
        ("struct " ++ title ++ " with " ++ toString count ++ " elements"), stopOf span⟩
  | rule :: rules, document :: documents, found => do
      rule.check document
      readPositional title span length count rules documents (found ++ [(rule.name, document)])

/-- Opens a record with its title and the rules of its fields. -/
def openRecord (title : String) (rules : List FieldRule) : Decoder Fields
  | .object span fields => do
      let found ← readObject false rules fields []
      return ⟨found, stopOf span⟩
  | .list span items => do
      let found ← readPositional title span items.length rules.length rules items []
      return ⟨found, stopOf span⟩
  | document => .error (document.refuse ("struct " ++ title))

/-- Opens a record that is only ever written as an object. -/
def openObject (title : String) (rules : List FieldRule) : Decoder Fields
  | .object span fields => do
      let found ← readObject false rules fields []
      return ⟨found, stopOf span⟩
  | document => .error (document.refuse ("struct " ++ title))

/-- Opens a record that is only ever written as an object and whose fields may be
repeated. -/
def openLenient (title : String) (rules : List FieldRule) : Decoder Fields
  | .object span fields => do
      let found ← readObject true rules fields []
      return ⟨found, stopOf span⟩
  | document => .error (document.refuse title)

end Json

end Reconciler
