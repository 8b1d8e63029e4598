import Reconciler.Json.Value
import Reconciler.Text.Quoted

/-!
# Why JSON text or a JSON value is refused

A fault is either an error of the JSON notation or a value of the wrong kind.
Faults found in text carry the place where reading stopped.
-/

namespace Reconciler

namespace Json

/-- A place in a text: the line from one on, and the bytes of that line before it. -/
structure Mark where
  line : Nat
  column : Nat
deriving DecidableEq, Repr

/-- The start of a text. -/
def Mark.start : Mark :=
  ⟨1, 0⟩

/-- The place after a character. -/
def Mark.after (mark : Mark) (char : Char) : Mark :=
  if char = '\n' then ⟨mark.line + 1, 0⟩ else ⟨mark.line, mark.column + char.utf8Size⟩

/-- Errors of the JSON notation. -/
inductive Malformation
  | endInList
  | endInObject
  | endInText
  | endInValue
  | expectedColon
  | expectedListEnd
  | expectedObjectEnd
  | expectedIdent
  | expectedValue
  | invalidEscape
  | invalidNumber
  | numberOutOfRange
  | invalidCodePoint
  | controlCharacter
  | keyNotText
  | loneSurrogate
  | endInEscape
  | trailingComma
  | trailingCharacters
  | tooDeep
deriving DecidableEq, Repr

/-- The wording of an error of the notation. -/
def Malformation.message : Malformation → String
  | .endInList => "EOF while parsing a list"
  | .endInObject => "EOF while parsing an object"
  | .endInText => "EOF while parsing a string"
  | .endInValue => "EOF while parsing a value"
  | .expectedColon => "expected `:`"
  | .expectedListEnd => "expected `,` or `]`"
  | .expectedObjectEnd => "expected `,` or `\x7d`"
  | .expectedIdent => "expected ident"
  | .expectedValue => "expected value"
  | .invalidEscape => "invalid escape"
  | .invalidNumber => "invalid number"
  | .numberOutOfRange => "number out of range"
  | .invalidCodePoint => "invalid unicode code point"
  | .controlCharacter => "control character (\\u0000-\\u001F) found while parsing a string"
  | .keyNotText => "key must be a string"
  | .loneSurrogate => "lone leading surrogate in hex escape"
  | .endInEscape => "unexpected end of hex escape"
  | .trailingComma => "trailing comma"
  | .trailingCharacters => "trailing characters"
  | .tooDeep => "recursion limit exceeded"

/-- What was found where another kind of value was expected. -/
inductive Found
  | null
  | boolean (value : Bool)
  | number (value : Number)
  | text (value : String)
  | list
  | object

/-- The wording of what was found. -/
def Found.message : Found → String
  | .null => "null"
  | .boolean value => "boolean `" ++ toString value ++ "`"
  | .number (.whole value) => "integer `" ++ toString value ++ "`"
  | .number (.floating value) =>
      "floating point `" ++ Decimal.scientific value ++ "`"
  | .text value => "string " ++ Text.quoted value
  | .list => "sequence"
  | .object => "map"

/-- Why a value could not be read. -/
inductive Cause
  | malformed (error : Malformation)
  | wrongKind (found : Found) (expected : String)
  | wrongValue (found : Found) (expected : String)
  | wrongLength (length : Nat) (expected : String)
  | missingField (name : String)
  | duplicateField (name : String)

/-- The wording of a cause. -/
def Cause.message : Cause → String
  | .malformed error => error.message
  | .wrongKind found expected => "invalid type: " ++ found.message ++ ", expected " ++ expected
  | .wrongValue found expected => "invalid value: " ++ found.message ++ ", expected " ++ expected
  | .wrongLength length expected =>
      "invalid length " ++ toString length ++ ", expected " ++ expected
  | .missingField name => "missing field `" ++ name ++ "`"
  | .duplicateField name => "duplicate field `" ++ name ++ "`"

/-- A cause with the place where reading stopped, if it was found in text. -/
structure Fault where
  cause : Cause
  mark : Option Mark

/-- The wording of a fault with its place. -/
def Fault.message (fault : Fault) : String :=
  match fault.mark with
  | none => fault.cause.message
  | some mark =>
      fault.cause.message ++ " at line " ++ toString mark.line ++ " column " ++ toString mark.column

end Json

end Reconciler
