/-!
# Decimal numerals

Reading of unsigned and signed decimal integers with an upper limit.  A leading
plus sign is allowed; a numeral that cannot be read names its first fault.
-/

namespace Reconciler

namespace Text

/-- Why a text is no numeral of the wanted range. -/
inductive NumeralError
  | empty
  | invalidDigit
  | tooLarge
  | tooSmall
deriving DecidableEq, Repr

/-- The wording of a fault. -/
def NumeralError.message : NumeralError → String
  | .empty => "cannot parse integer from empty string"
  | .invalidDigit => "invalid digit found in string"
  | .tooLarge => "number too large to fit in target type"
  | .tooSmall => "number too small to fit in target type"

/-- The value of an ASCII decimal digit. -/
def digit? (char : Char) : Option Nat :=
  if char.isDigit then some (char.toNat - '0'.toNat) else none

/-- Appends decimal digits to the number read so far.  The first fault decides: a
character that is no digit, or the digit at which the number passes `limit`. -/
def readDigits (limit : Nat) (tooFar : NumeralError) :
    Nat → List Char → Except NumeralError Nat
  | value, [] => .ok value
  | value, char :: chars =>
      match digit? char with
      | none => .error .invalidDigit
      | some digit =>
          let next := value * 10 + digit
          if next ≤ limit then readDigits limit tooFar next chars else .error tooFar

/-- Reads an unsigned numeral of at most `limit`. -/
def readNat (limit : Nat) : List Char → Except NumeralError Nat
  | [] => .error .empty
  | '+' :: [] => .error .invalidDigit
  | '+' :: chars => readDigits limit .tooLarge 0 chars
  | chars => readDigits limit .tooLarge 0 chars

/-- Reads a signed numeral between `-(limit + 1)` and `limit`. -/
def readInt (limit : Nat) : List Char → Except NumeralError Int
  | [] => .error .empty
  | '-' :: [] => .error .invalidDigit
  | '-' :: chars => (readDigits (limit + 1) .tooSmall 0 chars).map fun value => -(value : Int)
  | chars => (readNat limit chars).map fun value => (value : Int)

end Text

end Reconciler
