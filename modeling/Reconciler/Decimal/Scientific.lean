import Reconciler.Decimal.Shortest

/-!
# Floating point numbers in scientific notation

Numbers of moderate size are written positionally and always show a decimal point.
Very large and very small ones are written with one digit before the point and a
power of ten.
-/

namespace Reconciler

namespace Decimal

/-- A decimal between `10 ^ -5` and `10 ^ 16` in positional notation with a point,
any other one with a power of ten. -/
def Scaled.scientific (decimal : Scaled) : String :=
  let digits := Nat.toDigits 10 decimal.digits
  let zeros := fun (count : Int) => List.replicate count.toNat '0'
  let point : Int := digits.length + decimal.power
  if 0 ≤ decimal.power ∧ point ≤ 16 then
    String.ofList (digits ++ zeros decimal.power ++ ['.', '0'])
  else if 0 < point ∧ point ≤ 16 then
    String.ofList (digits.take point.toNat ++ '.' :: digits.drop point.toNat)
  else if -5 < point ∧ point ≤ 0 then
    String.ofList (['0', '.'] ++ zeros (-point) ++ digits)
  else
    let rest := if digits.length = 1 then [] else '.' :: digits.drop 1
    String.ofList (digits.take 1 ++ rest ++ ['e']) ++ toString (point - 1)

/-- The scientific text of a finite floating point number. -/
def scientific (value : Float) : String :=
  let bits := value.toBits
  let sign := if (bits >>> 63) == 0 then "" else "-"
  sign ++ (Binary.ofBits bits).shortest.scientific

end Decimal

end Reconciler
