import Reconciler.Net.Address

/-!
# Reading endpoints

An endpoint is an octet address or a bracketed group address with a port behind a
colon.  Octets have no leading zeros.  One `::` stands for at least one zero group;
the last two groups may be written as octets; a bracketed address may end in a
numeric scope.

Readers take characters from the front and give what they read with the rest.
-/

namespace Reconciler

namespace Net

/-- The value of a digit below a radix of at most sixteen. -/
def digit? (radix : Nat) (char : Char) : Option Nat :=
  let value :=
    if char.isDigit then some (char.toNat - '0'.toNat)
    else if 'a' ≤ char ∧ char ≤ 'f' then some (char.toNat - 'a'.toNat + 10)
    else if 'A' ≤ char ∧ char ≤ 'F' then some (char.toNat - 'A'.toNat + 10)
    else none
  value.filter fun digit => digit < radix

/-- The digits at the front, and the rest. -/
def spanDigits (radix : Nat) : List Char → List Nat × List Char
  | [] => ([], [])
  | char :: rest =>
      match digit? radix char with
      | some digit =>
          let (digits, behind) := spanDigits radix rest
          (digit :: digits, behind)
      | none => ([], char :: rest)

/-- The number written by digits. -/
def ofDigits (radix : Nat) (digits : List Nat) : Nat :=
  digits.foldl (fun value digit => value * radix + digit) 0

/-- How a number is written: its radix, its limit, how many digits it may have, and
whether a leading zero may stand before other digits. -/
structure NumberForm where
  radix : Nat
  limit : Nat
  maxDigits : Option Nat
  leadingZeros : Bool

/-- An octet in decimal. -/
def octetForm : NumberForm :=
  ⟨10, 255, some 3, false⟩

/-- A group in hexadecimal. -/
def groupForm : NumberForm :=
  ⟨16, 65535, some 4, true⟩

/-- A port in decimal. -/
def portForm : NumberForm :=
  ⟨10, 65535, none, true⟩

/-- A scope in decimal. -/
def scopeForm : NumberForm :=
  ⟨10, 4294967295, none, true⟩

/-- Reads a number. -/
def readNumber (form : NumberForm) (chars : List Char) : Option (Nat × List Char) :=
  let (digits, rest) := spanDigits form.radix chars
  let value := ofDigits form.radix digits
  if digits.isEmpty then none
  else if form.maxDigits.any fun limit => limit < digits.length then none
  else if !form.leadingZeros && digits.head? == some 0 && 1 < digits.length then none
  else if value ≤ form.limit then some (value, rest)
  else none

/-- Reads one given character. -/
def readChar (wanted : Char) : List Char → Option (List Char)
  | [] => none
  | char :: rest => if char = wanted then some rest else none

/-- Reads an octet. -/
def readOctet (chars : List Char) : Option (UInt8 × List Char) :=
  (readNumber octetForm chars).map fun (value, rest) => (UInt8.ofNat value, rest)

/-- Reads an octet address. -/
def readOctets (chars : List Char) : Option (Octets × List Char) := do
  let (first, chars) ← readOctet chars
  let (second, chars) ← readOctet (← readChar '.' chars)
  let (third, chars) ← readOctet (← readChar '.' chars)
  let (fourth, chars) ← readOctet (← readChar '.' chars)
  return (⟨first, second, third, fourth⟩, chars)

/-- Takes the colon before every group but the first. -/
def separated (isFirst : Bool) (chars : List Char) : Option (List Char) :=
  if isFirst then some chars else readChar ':' chars

/-- The two groups of an octet address. -/
def Octets.toGroups (address : Octets) : List UInt16 :=
  [address.first.toUInt16 <<< 8 ||| address.second.toUInt16,
    address.third.toUInt16 <<< 8 ||| address.fourth.toUInt16]

/-- Reads up to `limit` groups, the last two of which may be written as octets;
says whether they are. -/
def readGroups : Nat → Bool → List Char → List UInt16 × Bool × List Char
  | 0, _, chars => ([], false, chars)
  | limit + 1, isFirst, chars =>
      let octets : Option (Octets × List Char) :=
        if limit = 0 then none else (separated isFirst chars).bind readOctets
      match octets with
      | some (address, rest) => (address.toGroups, true, rest)
      | none =>
          match (separated isFirst chars).bind (readNumber groupForm) with
          | none => ([], false, chars)
          | some (value, rest) =>
              let (groups, mixed, behind) := readGroups limit false rest
              (UInt16.ofNat value :: groups, mixed, behind)

/-- The address of a list of groups, if there are eight. -/
def Groups.ofList? (groups : List UInt16) : Option Groups :=
  if length_eq : groups.length = 8 then some ⟨groups, length_eq⟩ else none

/-- Reads a group address. -/
def readAddress (chars : List Char) : Option (Groups × List Char) :=
  let (head, mixed, rest) := readGroups 8 true chars
  if head.length = 8 then (Groups.ofList? head).map fun address => (address, rest)
  else if mixed then none
  else do
    let rest ← readChar ':' rest
    let rest ← readChar ':' rest
    let (tail, _, rest) := readGroups (7 - head.length) true rest
    let address ← Groups.ofList? (head ++ List.replicate (8 - head.length - tail.length) 0 ++ tail)
    return (address, rest)

/-- Reads a port behind its colon. -/
def readPort (chars : List Char) : Option (UInt16 × List Char) := do
  let (value, rest) ← readNumber portForm (← readChar ':' chars)
  return (UInt16.ofNat value, rest)

/-- Reads a scope behind its mark; there may be none. -/
def readScope (chars : List Char) : UInt32 × List Char :=
  match (readChar '%' chars).bind (readNumber scopeForm) with
  | some (value, rest) => (UInt32.ofNat value, rest)
  | none => (0, chars)

/-- Reads an octet address with a port. -/
def readOctetEndpoint (chars : List Char) : Option (Endpoint × List Char) := do
  let (address, rest) ← readOctets chars
  let (port, rest) ← readPort rest
  return (.octets address port, rest)

/-- Reads a bracketed group address with a port. -/
def readGroupEndpoint (chars : List Char) : Option (Endpoint × List Char) := do
  let (address, rest) ← readAddress (← readChar '[' chars)
  let (scope, rest) := readScope rest
  let (port, rest) ← readPort (← readChar ']' rest)
  return (.groups address scope port, rest)

/-- Reads the text of an endpoint; nothing may follow it. -/
def Endpoint.parse? (text : String) : Option Endpoint :=
  match (readOctetEndpoint text.toList).or (readGroupEndpoint text.toList) with
  | some (endpoint, []) => some endpoint
  | _ => none

end Net

end Reconciler
