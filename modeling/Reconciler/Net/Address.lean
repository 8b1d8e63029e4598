/-!
# Internet addresses and their text

The text of an address is canonical: octets in decimal, groups in lower case
hexadecimal without padding, and the first of the longest runs of two or more zero
groups as `::`.  A group address that holds an octet address is written with its
octets.
-/

namespace Reconciler

namespace Net

/-- An address of four octets. -/
@[ext]
structure Octets where
  first : UInt8
  second : UInt8
  third : UInt8
  fourth : UInt8
deriving DecidableEq, Repr

/-- An address of eight groups of sixteen bits. -/
@[ext]
structure Groups where
  groups : List UInt16
  length_eq : groups.length = 8
deriving DecidableEq, Repr

/-- An address of either kind. -/
inductive Address
  | octets (address : Octets)
  | groups (address : Groups)
deriving DecidableEq, Repr

/-- An address with a port; a group address may name a scope. -/
inductive Endpoint
  | octets (address : Octets) (port : UInt16)
  | groups (address : Groups) (scope : UInt32) (port : UInt16)
deriving DecidableEq, Repr

/-- The endpoint of an address and a port, without a scope. -/
def Address.at : Address → UInt16 → Endpoint
  | .octets address, port => .octets address port
  | .groups address, port => .groups address 0 port

/-- The port of an endpoint. -/
def Endpoint.port : Endpoint → UInt16
  | .octets _ port => port
  | .groups _ _ port => port

/-- The text of an octet address. -/
def Octets.text (address : Octets) : String :=
  toString address.first.toNat ++ "." ++ toString address.second.toNat ++ "." ++
    toString address.third.toNat ++ "." ++ toString address.fourth.toNat

/-- The octets of an address that maps an octet address into groups. -/
def Groups.mapped? (address : Groups) : Option Octets :=
  match address.groups with
  | [0, 0, 0, 0, 0, 0xffff, high, low] =>
      some ⟨(high >>> 8).toUInt8, high.toUInt8, (low >>> 8).toUInt8, low.toUInt8⟩
  | _ => none

/-- A group in hexadecimal. -/
def groupText (group : UInt16) : String :=
  String.ofList (Nat.toDigits 16 group.toNat)

/-- Groups parted by colons. -/
def joinGroups (groups : List UInt16) : String :=
  ":".intercalate (groups.map groupText)

/-- The length of the run of zero groups at the start. -/
def zeroRun (groups : List UInt16) : Nat :=
  (groups.takeWhile (· == 0)).length

/-- The position and the length of the first longest run of zero groups among the
starts from `position` on. -/
def longestRun : Nat → List UInt16 → Nat × Nat
  | position, [] => (position, 0)
  | position, group :: groups =>
      let here := zeroRun (group :: groups)
      let later := longestRun (position + 1) groups
      if later.2 ≤ here then (position, here) else later

/-- The text of a group address. -/
def Groups.text (address : Groups) : String :=
  match address.mapped? with
  | some octets => "::ffff:" ++ octets.text
  | none =>
      let (position, length) := longestRun 0 address.groups
      if 1 < length then
        joinGroups (address.groups.take position) ++ "::" ++
          joinGroups (address.groups.drop (position + length))
      else joinGroups address.groups

/-- The text of an address. -/
def Address.text : Address → String
  | .octets address => address.text
  | .groups address => address.text

/-- The text of an endpoint; a group address stands in brackets. -/
def Endpoint.text : Endpoint → String
  | .octets address port => address.text ++ ":" ++ toString port.toNat
  | .groups address scope port =>
      let scope := if scope = 0 then "" else "%" ++ toString scope.toNat
      "[" ++ address.text ++ scope ++ "]:" ++ toString port.toNat

end Net

end Reconciler
