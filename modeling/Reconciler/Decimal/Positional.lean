import Reconciler.Decimal.Shortest

/-!
# Floating point numbers in positional notation

Numbers are written with their shortest digits and without an exponent, however
large or small they are.
-/

namespace Reconciler

namespace Decimal

/-- A decimal in positional notation, without trailing zeros after the point. -/
def Scaled.positional (decimal : Scaled) : String :=
  let digits := Nat.toDigits 10 decimal.digits
  if 0 ≤ decimal.power then
    String.ofList
      (digits ++ List.replicate (if decimal.digits = 0 then 0 else decimal.power.toNat) '0')
  else
    let places := (-decimal.power).toNat
    let padded := List.replicate (places + 1 - digits.length) '0' ++ digits
    let whole := padded.take (padded.length - places)
    let rest := ((padded.drop (padded.length - places)).reverse.dropWhile (· == '0')).reverse
    if rest.isEmpty then String.ofList whole else String.ofList (whole ++ '.' :: rest)

/-- The positional text of a floating point number; the specials are `NaN`, `inf`
and `-inf`. -/
def positional (value : Float) : String :=
  if value.isNaN then "NaN"
  else
    let bits := value.toBits
    let sign := if (bits >>> 63) == 0 then "" else "-"
    if value.isInf then sign ++ "inf"
    else sign ++ (Binary.ofBits bits).shortest.positional

end Decimal

end Reconciler
