import Reconciler.Json.Fault

/-!
# JSON documents

A document is a JSON value as it was read: fields in the order of the text, every
value with the stretch of text it came from, and, where the text breaks off or
goes wrong, the fault in the place of the value.  A reader that walks a document
from front to back meets its faults in the order of the text.

A value that nobody asks for is skipped, which takes less than reading it.  So a field whose
value is broken may have others behind it, and only where its text cannot be skipped
either is the object cut off.

A value in memory is a document too, one without places.
-/

namespace Reconciler

namespace Json

/-- The stretch of text of a value; without an end if the text breaks off before. -/
structure Span where
  start : Mark
  stop : Option Mark
deriving DecidableEq, Repr

/-- The place before a value. -/
def startOf (span : Option Span) : Option Mark :=
  span.map Span.start

/-- The place after a value. -/
def stopOf (span : Option Span) : Option Mark :=
  span.bind Span.stop

/-- A JSON value with its places, as far as it could be read.  A `broken` value has a fault
for who reads it, and at a `cut` nobody gets on. -/
inductive Document
  | null (span : Option Span)
  | boolean (span : Option Span) (value : Bool)
  | number (span : Option Span) (value : Number)
  | text (span : Option Span) (value : String)
  | list (span : Option Span) (items : List Document)
  | object (span : Option Span) (fields : List (String × Option Mark × Document))
  | broken (start : Option Mark) (fault : Fault)
  | cut (start : Option Mark) (fault : Fault)

namespace Document

instance : Inhabited Document :=
  ⟨null none⟩

/-- The place before a document. -/
def start : Document → Option Mark
  | null span => startOf span
  | boolean span _ => startOf span
  | number span _ => startOf span
  | text span _ => startOf span
  | list span _ => startOf span
  | object span _ => startOf span
  | broken start _ => start
  | cut start _ => start

mutual

/-- A value in memory as a document. -/
def ofJson : Json → Document
  | .null => null none
  | .boolean value => boolean none value
  | .number value => number none value
  | .text value => text none value
  | .list items => list none (ofItems items)
  | .object fields => object none (ofFields fields)

/-- The items of a list as documents. -/
def ofItems : List Json → List Document
  | [] => []
  | item :: items => ofJson item :: ofItems items

/-- The fields of an object as documents. -/
def ofFields : List (String × Json) → List (String × Option Mark × Document)
  | [] => []
  | (name, value) :: fields => (name, none, ofJson value) :: ofFields fields

end

mutual

/-- The value of a document, or its first fault. -/
def value : Document → Except Fault Json
  | null _ => .ok .null
  | boolean _ value => .ok (.boolean value)
  | number _ value => .ok (.number value)
  | text _ value => .ok (.text value)
  | list _ items => (values items).map .list
  | object _ fields => (fieldValues fields).map .record
  | broken _ fault => .error fault
  | cut _ fault => .error fault

/-- The values of a list of documents, or their first fault. -/
def values : List Document → Except Fault (List Json)
  | [] => .ok []
  | item :: items => do
      let first ← value item
      let rest ← values items
      return first :: rest

/-- The values of named documents, or their first fault. -/
def fieldValues : List (String × Option Mark × Document) → Except Fault (List (String × Json))
  | [] => .ok []
  | (name, _, item) :: fields => do
      let first ← value item
      let rest ← fieldValues fields
      return (name, first) :: rest

end

/-- Goes past a document whose value does not matter. -/
def ignore : Document → Except Fault Unit
  | cut _ fault => .error fault
  | _ => .ok ()

/-- What a document shows at its start, with the place at which a reader of
another kind of value stops; lists and objects are not entered. -/
def found : Document → Except Fault (Found × Option Mark)
  | null span => .ok (.null, stopOf span)
  | boolean span value => .ok (.boolean value, stopOf span)
  | number span value => .ok (.number value, stopOf span)
  | text span value => .ok (.text value, stopOf span)
  | list span _ => .ok (.list, startOf span)
  | object span _ => .ok (.object, startOf span)
  | broken _ fault => .error fault
  | cut _ fault => .error fault

/-- Refuses a document where `expected` was wanted. -/
def refuse (document : Document) (expected : String) : Fault :=
  match document.found with
  | .ok (found, mark) => ⟨.wrongKind found expected, mark⟩
  | .error fault => fault

end Document

end Json

end Reconciler
