import Reconciler.Decimal.Scientific
import Reconciler.Dictionary

/-!
# JSON values

A JSON value in memory.  Whole numbers and floating point numbers stay apart: a
numeral with a fraction or an exponent is never a whole number.  The fields of an
object are listed in the order of their names, each name once.
-/

namespace Reconciler

/-- A JSON number, whole or floating point. -/
inductive Json.Number
  | whole (value : Int)
  | floating (value : Float)
deriving Repr

/-- A JSON value. -/
inductive Json
  | null
  | boolean (value : Bool)
  | number (value : Json.Number)
  | text (value : String)
  | list (items : List Json)
  | object (fields : List (String × Json))
deriving Repr

namespace Json

instance : Inhabited Json :=
  ⟨null⟩

/-- A natural number as a JSON value. -/
def nat (value : Nat) : Json :=
  number (.whole value)

/-- A text that may be missing; a missing one is `null`. -/
def textOption : Option String → Json
  | none => null
  | some value => text value

/-- A list of texts. -/
def texts (values : List String) : Json :=
  list (values.map text)

/-- The object of a list of fields; of two fields with one name the later counts. -/
def record (fields : List (String × Json)) : Json :=
  object (Dictionary.ofList fields).entries

/-- The object of those fields that are present. -/
def recordOfPresent (fields : List (String × Option Json)) : Json :=
  record (fields.filterMap fun field => field.2.map fun value => (field.1, value))

/-- The object whose fields are texts. -/
def textFields (texts : Dictionary String) : Json :=
  object (texts.entries.map fun entry => (entry.1, text entry.2))

/-- The field of an object with a name. -/
def field? : Json → String → Option Json
  | object fields, name => Table.lookup name fields
  | _, _ => none

/-- The field of an object with a name, `null` if there is none. -/
def field (value : Json) (name : String) : Json :=
  (value.field? name).getD null

/-- The items of a list; other values have none. -/
def items : Json → List Json
  | list items => items
  | _ => []

/-- The fields of an object; other values have none. -/
def fields : Json → List (String × Json)
  | object fields => fields
  | _ => []

/-- The text of a text value. -/
def text? : Json → Option String
  | text value => some value
  | _ => none

/-- The value of a truth value. -/
def boolean? : Json → Option Bool
  | boolean value => some value
  | _ => none

/-- The value of a whole number that is not negative. -/
def nat? : Json → Option Nat
  | number (.whole value) => if value < 0 then none else some value.toNat
  | _ => none

/-- One step of a pointer: a field of an object or a position in a list. -/
def child? (value : Json) (step : String) : Option Json :=
  match value with
  | object _ => value.field? step
  | list items =>
      let digits := step.toList
      if digits.isEmpty || digits.any (fun char => !char.isDigit) ||
          (digits.head? == some '0' && 1 < digits.length) then none
      else step.toNat?.bind fun index => items[index]?
  | _ => none

/-- Undoes the escapes of a pointer step: `~1` is a slash and `~0` a tilde. -/
def unescapeStep : List Char → List Char
  | '~' :: '1' :: rest => '/' :: unescapeStep rest
  | '~' :: '0' :: rest => '~' :: unescapeStep rest
  | char :: rest => char :: unescapeStep rest
  | [] => []

/-- The value at a pointer: the empty pointer is the value itself, every step
starts with a slash. -/
def pointer? (value : Json) (pointer : String) : Option Json :=
  match pointer.splitOn "/" with
  | [] => some value
  | first :: steps =>
      if first ≠ "" then none
      else steps.foldl (fun found step => found.bind fun value =>
        value.child? (String.ofList (unescapeStep step.toList))) (some value)

end Json

end Reconciler
