import Reconciler.Text.Blank
import Reconciler.Text.Numeral

/-!
# Quantities of resources

A quantity is a decimal number with a suffix that scales it: a decimal or binary
unit, or a power of ten in exponent form.  Blanks around it do not count.

The number ends before the first character that is neither a digit, a point nor a
sign.  A lone `E` is the unit of `10 ^ 18`; `E` or `e` with an exponent is a power.
-/

namespace Reconciler

namespace Quantity

/-- A decimal number: its digits without the point, and how many of them stand
behind it. -/
structure Number where
  negative : Bool
  digits : Nat
  places : Nat
deriving DecidableEq, Repr

/-- The scale of a quantity. -/
inductive Suffix
  | none
  | nano
  | micro
  | milli
  | kilo
  | mega
  | giga
  | tera
  | peta
  | exa
  | kibi
  | mebi
  | gibi
  | tebi
  | pebi
  | exbi
  | power (exponent : Int)
deriving DecidableEq, Repr

/-- The characters that a number may consist of. -/
def isNumberChar (char : Char) : Bool :=
  char.isDigit || char == '.' || char == '+' || char == '-'

/-- The value of decimal digits. -/
def digitsValue (digits : List Char) : Nat :=
  digits.foldl (fun value digit => value * 10 + (digit.toNat - '0'.toNat)) 0

/-- Reads digits with at most one point among them and at least one digit. -/
def readUnsigned? (negative : Bool) (chars : List Char) : Option Number :=
  let whole := chars.takeWhile Char.isDigit
  match chars.dropWhile Char.isDigit with
  | [] => if whole.isEmpty then Option.none else some ⟨negative, digitsValue whole, 0⟩
  | '.' :: decimals =>
      if decimals.all Char.isDigit && !(whole.isEmpty && decimals.isEmpty) then
        some ⟨negative, digitsValue (whole ++ decimals), decimals.length⟩
      else Option.none
  | _ => Option.none

/-- Reads a number with an optional sign. -/
def readNumber? : List Char → Option Number
  | '+' :: chars => readUnsigned? false chars
  | '-' :: chars => readUnsigned? true chars
  | chars => readUnsigned? false chars

/-- The largest exponent that can be read. -/
def exponentLimit : Nat :=
  Nat.pow 2 31 - 1

/-- Reads an exponent behind its letter. -/
def readPower? (chars : List Char) : Option Suffix :=
  match Text.readInt exponentLimit chars with
  | .ok exponent => some (.power exponent)
  | .error _ => Option.none

/-- Reads a suffix. -/
def readSuffix? : List Char → Option Suffix
  | [] => some .none
  | ['n'] => some .nano
  | ['u'] => some .micro
  | ['m'] => some .milli
  | ['k'] => some .kilo
  | ['M'] => some .mega
  | ['G'] => some .giga
  | ['T'] => some .tera
  | ['P'] => some .peta
  | ['E'] => some .exa
  | ['K', 'i'] => some .kibi
  | ['M', 'i'] => some .mebi
  | ['G', 'i'] => some .gibi
  | ['T', 'i'] => some .tebi
  | ['P', 'i'] => some .pebi
  | ['E', 'i'] => some .exbi
  | 'e' :: chars => readPower? chars
  | 'E' :: chars => readPower? chars
  | _ => Option.none

/-- The floating point value of a number, correctly rounded. -/
def Number.value (number : Number) : Float :=
  let magnitude := Float.ofScientific number.digits true number.places
  if number.negative then -magnitude else magnitude

/-- Powers by repeated squaring: the factors whose bit is set are multiplied into the
result from the lowest on. -/
def powerLoop {α : Type} [Mul α] : Nat → α → α → Nat → α
  | 0, result, _, _ => result
  | fuel + 1, result, base, exponent =>
      let result := if exponent % 2 = 1 then result * base else result
      if exponent / 2 = 0 then result else powerLoop fuel result (base * base) (exponent / 2)

/-- A power of the size that an exponent can have; a negative one is the reciprocal of the
positive one. -/
def powerOf {α : Type} [Mul α] [Div α] (one base : α) (exponent : Int) : α :=
  let power := powerLoop 32 one base exponent.natAbs
  if exponent < 0 then one / power else power

/-- A power of ten in floating point, each product rounded. -/
def powerOfTen (exponent : Int) : Float :=
  powerOf 1.0 10.0 exponent

/-- What a suffix multiplies with. -/
def Suffix.factor : Suffix → Float
  | .none => 1.0
  | .nano => 1e-9
  | .micro => 1e-6
  | .milli => 1e-3
  | .kilo => 1e3
  | .mega => 1e6
  | .giga => 1e9
  | .tera => 1e12
  | .peta => 1e15
  | .exa => 1e18
  | .kibi => 1024.0
  | .mebi => 1048576.0
  | .gibi => 1073741824.0
  | .tebi => 1099511627776.0
  | .pebi => 1125899906842624.0
  | .exbi => 1152921504606846976.0
  | .power exponent => powerOfTen exponent

/-- Reads the number and the suffix of a quantity. -/
def read? (text : String) : Option (Number × Suffix) :=
  let chars := Text.trimChars text.toList
  match readNumber? (chars.takeWhile isNumberChar),
      readSuffix? (chars.dropWhile isNumberChar) with
  | some number, some suffix => some (number, suffix)
  | _, _ => Option.none

/-- The value of a quantity in base units. -/
def value? (text : String) : Option Float :=
  (read? text).map fun (number, suffix) => number.value * suffix.factor

end Quantity

end Reconciler
