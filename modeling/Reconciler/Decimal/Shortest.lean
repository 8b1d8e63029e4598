/-!
# Shortest decimals of binary fractions

Every finite binary64 value stands for the interval of reals that round to it.
Its shortest decimal is the one with the fewest digits in that interval, the
nearest to the value among those, and the larger of two equally near ones.

The search is done in exact arithmetic on naturals.  A decimal grid meets the
interval only if one of the two grid points next to the value lies in it, so each
grid is settled by two tests.
-/

namespace Reconciler

namespace Decimal

/-- A finite value without sign, `significand * 2 ^ power`. -/
structure Binary where
  significand : Nat
  power : Int
  /-- Whether the gap to the value below is half the gap to the value above. -/
  narrowBelow : Bool
deriving DecidableEq, Repr

/-- The value of finite binary64 bits, without the sign. -/
def Binary.ofBits (bits : UInt64) : Binary :=
  let exponent := ((bits >>> 52) &&& 0x7ff).toNat
  let fraction := (bits &&& 0xfffffffffffff).toNat
  if exponent = 0 then ⟨fraction, -1074, false⟩
  else ⟨Nat.pow 2 52 + fraction, (exponent : Int) - 1075, fraction == 0 && decide (1 < exponent)⟩

/-- The decimal `digits * 10 ^ power`. -/
structure Scaled where
  digits : Nat
  power : Int
deriving DecidableEq, Repr

/-- Compares `decimal * 10 ^ tens` with `binary * 2 ^ twos`. -/
def compareScaled (decimal : Nat) (tens : Int) (binary : Nat) (twos : Int) : Ordering :=
  compare (decimal * Nat.pow 10 tens.toNat * Nat.pow 2 (-twos).toNat)
    (binary * Nat.pow 2 twos.toNat * Nat.pow 10 (-tens).toNat)

/-- Whether a decimal rounds to the value, to nearest with ties to even. -/
def Binary.isReadFrom (value : Binary) (decimal : Scaled) : Bool :=
  let below := if value.narrowBelow then 4 * value.significand - 1 else 4 * value.significand - 2
  let above := 4 * value.significand + 2
  let closed := value.significand % 2 == 0
  let lower := compareScaled decimal.digits decimal.power below (value.power - 2)
  let upper := compareScaled decimal.digits decimal.power above (value.power - 2)
  (lower == .gt || (closed && lower == .eq)) && (upper == .lt || (closed && upper == .eq))

/-- The largest grid point `digits * 10 ^ power` that is not above the value. -/
def Binary.floorOn (value : Binary) (power : Int) : Nat :=
  (value.significand * Nat.pow 2 value.power.toNat * Nat.pow 10 (-power).toNat) /
    (Nat.pow 2 (-value.power).toNat * Nat.pow 10 power.toNat)

/-- The better of the two points next to the value on one grid, if any rounds to it. -/
def Binary.nearestOn? (value : Binary) (power : Int) : Option Scaled :=
  let floor : Scaled := ⟨value.floorOn power, power⟩
  let ceiling : Scaled := ⟨floor.digits + 1, power⟩
  match value.isReadFrom floor, value.isReadFrom ceiling with
  | false, false => none
  | true, false => some floor
  | false, true => some ceiling
  | true, true =>
      if compareScaled (floor.digits + ceiling.digits) power value.significand (value.power + 1)
          == .gt then some floor else some ceiling

/-- Tries grids from coarse to fine, `count` of them. -/
def Binary.search (value : Binary) : Nat → Int → Option Scaled
  | 0, _ => none
  | count + 1, power =>
      match value.nearestOn? power with
      | some found => some found
      | none => value.search count (power - 1)

/-- The exact decimal of a value, which always reads back. -/
def Binary.exact (value : Binary) : Scaled :=
  if 0 ≤ value.power then ⟨value.significand * Nat.pow 2 value.power.toNat, 0⟩
  else ⟨value.significand * Nat.pow 5 (-value.power).toNat, value.power⟩

/-- The shortest decimal of a value.  No finite value reaches `10 ^ 309`, so the
search over all grids from there on meets the coarsest fitting one first. -/
def Binary.shortest (value : Binary) : Scaled :=
  if value.significand = 0 then ⟨0, 0⟩
  else
    let scale : Int := (Nat.log2 value.significand : Int) + value.power
    let start : Int := (scale + 1) * 30103 / 100000 + 1
    (value.search 20 start).getD value.exact

end Decimal

end Reconciler
