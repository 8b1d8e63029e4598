import Reconciler.Failure

/-!
# Targets of requests

A request names a target: a path, and behind a question mark a query.  Only some
characters may stand in them as they are.  What follows a number sign is not part of
the target.
-/

namespace Reconciler

namespace Http

/-- Whether a character may stand in a path as it is. -/
def isPathChar (char : Char) : Bool :=
  !(char.toNat ≤ 32 || char == '#' || char == '<' || char == '>' || char == '?' || char == '`')

/-- Whether a character may stand in a query as it is. -/
def isQueryChar (char : Char) : Bool :=
  !(char.toNat ≤ 32 || char == '"' || char == '#' || char == '<' || char == '>')

/-- The greatest number of bytes of a target. -/
def targetLimit : Nat :=
  65534

/-- Reads a query up to its end. -/
def readQuery : List Char → Except RequestFault (List Char)
  | [] => .ok []
  | char :: rest =>
      if char = '#' then .ok []
      else if isQueryChar char then (readQuery rest).map (char :: ·)
      else .error .invalidCharacter

/-- Reads a path and the query behind it. -/
def readPath : List Char → Except RequestFault (List Char)
  | [] => .ok []
  | char :: rest =>
      if char = '#' then .ok []
      else if char = '?' then (readQuery rest).map (char :: ·)
      else if isPathChar char then (readPath rest).map (char :: ·)
      else .error .invalidCharacter

/-- Reads a target, and drops what is not part of it. -/
def readTarget (text : String) : Except RequestFault String :=
  if targetLimit < text.utf8ByteSize then .error .tooLong
  else (readPath text.toList).map String.ofList

/-- Whether a byte stands for itself in an encoded value. -/
def isPlainByte (byte : UInt8) : Bool :=
  let char := Char.ofNat byte.toNat
  char.isAlphanum || char == '*' || char == '-' || char == '.' || char == '_'

/-- A byte of an encoded value: itself, a plus sign for a blank, or its two digits
behind a percent sign. -/
def encodeByte (byte : UInt8) : List Char :=
  let number := byte.toNat
  if isPlainByte byte then [Char.ofNat number]
  else if number = 32 then ['+']
  else ['%', (Nat.digitChar (number / 16)).toUpper, (Nat.digitChar (number % 16)).toUpper]

/-- A value as it is written in a query. -/
def encodeValue (value : String) : String :=
  String.ofList (value.toUTF8.toList.flatMap encodeByte)

end Http

end Reconciler
