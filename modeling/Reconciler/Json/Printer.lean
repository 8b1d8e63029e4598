import Reconciler.Json.Value

/-!
# Compact JSON text

Values are written without blanks.  In texts only quote, backslash and the control
characters are escaped.
-/

namespace Reconciler

namespace Json

/-- Two lower case hexadecimal digits. -/
def hexPair (number : Nat) : List Char :=
  let digits := Nat.toDigits 16 number
  List.replicate (2 - digits.length) '0' ++ digits

/-- One character inside a JSON text. -/
def escapedChar (char : Char) : List Char :=
  if char = '"' then ['\\', '"']
  else if char = '\\' then ['\\', '\\']
  else if char = '\n' then ['\\', 'n']
  else if char = '\r' then ['\\', 'r']
  else if char = '\t' then ['\\', 't']
  else if char.toNat = 8 then ['\\', 'b']
  else if char.toNat = 12 then ['\\', 'f']
  else if char.toNat < 32 then ['\\', 'u', '0', '0'] ++ hexPair char.toNat
  else [char]

/-- A text with its quotes. -/
def renderText (value : String) : String :=
  String.ofList ('"' :: value.toList.flatMap escapedChar ++ ['"'])

/-- A number; what is not finite is `null`. -/
def renderNumber : Number → String
  | .whole value => toString value
  | .floating value =>
      if value.isNaN || value.isInf then "null" else Decimal.scientific value

mutual

/-- The compact text of a value. -/
def render : Json → String
  | null => "null"
  | boolean true => "true"
  | boolean false => "false"
  | number value => renderNumber value
  | text value => renderText value
  | list items => "[" ++ renderItems items ++ "]"
  | object fields => "\x7b" ++ renderFields fields ++ "\x7d"

/-- The items of a list, parted by commas. -/
def renderItems : List Json → String
  | [] => ""
  | [item] => render item
  | item :: items => render item ++ "," ++ renderItems items

/-- The fields of an object, parted by commas. -/
def renderFields : List (String × Json) → String
  | [] => ""
  | [(name, value)] => renderText name ++ ":" ++ render value
  | (name, value) :: fields =>
      renderText name ++ ":" ++ render value ++ "," ++ renderFields fields

end

end Json

end Reconciler
