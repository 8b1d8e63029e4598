import Mathlib.Algebra.Order.Field.Basic
import Mathlib.Algebra.Order.Field.Rat
import Mathlib.Tactic.Linarith
import Reconciler.Quantity

/-!
# Powers of ten

Powers are computed by repeated squaring, and a negative one is the reciprocal of a positive
one.  As far as no product is rounded that gives the power that is meant.

With doubles it gives something near that power as long as the positive power is a double,
which it is up to the exponent 308.  Above, the power is infinite, so its reciprocal is zero:
also where the power that is meant is so small a double that its reciprocal is none.
-/

namespace Reconciler

open Float.Model (UnpackedFloat)

namespace Quantity

/-! ## Repeated squaring -/

section

variable {α : Type} [Mul α] {count low : Nat}

theorem half_lt {bits exponent : Nat} (small : exponent < 2 ^ (bits + 1)) :
    exponent / 2 < 2 ^ bits := by
  rw [pow_succ] at small
  omega

theorem powerLoop_zero (fuel : Nat) (result base : α) :
    powerLoop fuel result base 0 = result := by
  cases fuel <;> simp [powerLoop]

/-- The lowest bit of the exponent is dealt with before the others. -/
theorem powerLoop_succ (fuel : Nat) (result base : α) (exponent : Nat) :
    powerLoop (fuel + 1) result base exponent =
      powerLoop fuel (if exponent % 2 = 1 then result * base else result) (base * base)
        (exponent / 2) := by
  rw [powerLoop]
  split
  · rename_i last
    rw [last, powerLoop_zero]
  · rfl

/-- The low bits of the exponent are dealt with before the high ones. -/
theorem powerLoop_add (small : low < 2 ^ count) (fuel : Nat) (result base : α) (high : Nat) :
    powerLoop (count + fuel) result base (low + 2 ^ count * high) =
      powerLoop fuel (powerLoop count result base low) ((fun base => base * base)^[count] base)
        high := by
  induction count generalizing result base low with
  | zero =>
      obtain rfl : low = 0 := by simpa using small
      simp [powerLoop_zero]
  | succ count ih =>
      have half := half_lt small
      have doubled : low + 2 ^ (count + 1) * high = low + 2 * (2 ^ count * high) := by
        rw [pow_succ', Nat.mul_assoc]
      have halves : (low + 2 ^ (count + 1) * high) / 2 = low / 2 + 2 ^ count * high := by omega
      have parity : (low + 2 ^ (count + 1) * high) % 2 = low % 2 := by omega
      rw [Nat.add_right_comm, powerLoop_succ, powerLoop_succ, halves, parity, ih half,
        Function.iterate_succ_apply]

end

/-- As far as no product is rounded the loop computes the power. -/
theorem powerLoop_eq {M : Type} [Monoid M] {fuel exponent : Nat} (small : exponent < 2 ^ fuel)
    (result base : M) : powerLoop fuel result base exponent = result * base ^ exponent := by
  induction fuel generalizing result base exponent with
  | zero =>
      obtain rfl : exponent = 0 := by simpa using small
      rw [powerLoop, pow_zero, mul_one]
  | succ fuel ih =>
      have half := half_lt small
      have lowest : (if exponent % 2 = 1 then result * base else result) =
          result * base ^ (exponent % 2) := by
        rcases Nat.mod_two_eq_zero_or_one exponent with even | odd
        · simp [even]
        · simp [odd]
      rw [powerLoop_succ, ih half, lowest, mul_assoc, ← pow_two, ← pow_mul, ← pow_add,
        Nat.mod_add_div]

/-- A negative power is the reciprocal of a positive one. -/
theorem zpow_eq_ite {K : Type} [DivisionRing K] (base : K) (exponent : Int) :
    base ^ exponent =
      if exponent < 0 then 1 / base ^ exponent.natAbs else base ^ exponent.natAbs := by
  split
  · rename_i negative
    have opposite : exponent = -(exponent.natAbs : Int) := by omega
    rw [one_div, ← zpow_natCast, ← zpow_neg, ← opposite]
  · rename_i positive
    have same : exponent = (exponent.natAbs : Int) := by omega
    rw [← zpow_natCast, ← same]

theorem powerOf_eq {K : Type} [DivisionRing K] {exponent : Int} (lower : -2 ^ 31 ≤ exponent)
    (upper : exponent < 2 ^ 31) (base : K) : powerOf 1 base exponent = base ^ exponent := by
  have small : exponent.natAbs < 2 ^ 32 := by omega
  rw [powerOf, powerLoop_eq small, one_mul, zpow_eq_ite]

/-! ## Doubles and numbers -/

/-- The number that a double stands for, if it is finite. -/
def rational? (double : Float) : Option ℚ :=
  match double.toModel.unpack with
  | .finite sign mantissa exponent _ => some (sign.apply mantissa * 2 ^ exponent)
  | .zero _ => some 0
  | .infinity _ | .notANumber => none

/-- A double stands for a number that differs from the exact one by no more than the
`2 ^ 50`th part of it. -/
def Near (double : Float) (exact : ℚ) : Prop :=
  ∃ number ∈ rational? double, |number - exact| ≤ exact / 2 ^ 50

instance (double : Float) (exact : ℚ) : Decidable (Near double exact) :=
  inferInstanceAs (Decidable (∃ number ∈ rational? double, |number - exact| ≤ exact / 2 ^ 50))

/-- What a double is that is too large. -/
def infinity : Float :=
  1 / 0

theorem infinity_mul_infinity : infinity * infinity = infinity := by
  decide +kernel

theorem unpack_infinity : infinity.toModel.unpack = .infinity .positive :=
  rfl

/-- Infinity absorbs every positive number. -/
theorem mul_infinity {double : Float} {number : ℚ} (stands : rational? double = some number)
    (positive : 0 < number) : double * infinity = infinity := by
  unfold rational? at stands
  split at stands
  · rename_i sign mantissa exponent filled unpacked
    cases stands
    cases sign with
    | negative =>
        have below : UnpackedFloat.Sign.negative.apply mantissa ≤ 0 := by
          simp [UnpackedFloat.Sign.apply]
        have scale : (0 : ℚ) ≤ 2 ^ exponent := zpow_nonneg (by norm_num) exponent
        have nonpos := mul_nonpos_of_nonpos_of_nonneg (Int.cast_nonpos.mpr below) scale
        exact absurd positive (not_lt.mpr nonpos)
    | positive =>
        -- With both operands unpacked the product is one case of its definition.
        change Float.ofModel (.pack (UnpackedFloat.mul .binary64 double.toModel.unpack
          infinity.toModel.unpack)) = infinity
        rw [unpacked, unpack_infinity]
        rfl
  · cases stands
    exact absurd positive (lt_irrefl 0)
  · cases stands
  · cases stands

/-- What is near a positive number is positive itself. -/
theorem Near.mul_infinity {double : Float} {exact : ℚ} (near : Near double exact)
    (positive : 0 < exact) : double * infinity = infinity := by
  obtain ⟨number, stands, close⟩ := near
  have least : -(exact / 2 ^ 50) ≤ number - exact := (abs_le.mp close).1
  have part : exact / 2 ^ 50 < exact := div_lt_self positive (by norm_num)
  exact Quantity.mul_infinity stands (by linarith)

/-- An infinite base makes the power infinite. -/
theorem powerLoop_infinity {fuel exponent : Nat} {result : Float}
    (absorbed : result * infinity = infinity) (some : 0 < exponent) (small : exponent < 2 ^ fuel) :
    powerLoop fuel result infinity exponent = infinity := by
  induction fuel generalizing result exponent with
  | zero =>
      rw [pow_zero] at small
      omega
  | succ fuel ih =>
      have half := half_lt small
      rw [powerLoop_succ, infinity_mul_infinity]
      rcases Nat.mod_two_eq_zero_or_one exponent with even | odd
      · rw [if_neg (by omega)]
        exact ih absorbed (by omega) half
      · rw [if_pos odd, absorbed]
        rcases Nat.eq_zero_or_pos (exponent / 2) with last | more
        · rw [last, powerLoop_zero]
        · exact ih infinity_mul_infinity more half

/-! ## Powers of ten as doubles -/

/-- What becomes of a power of ten: up to the exponent 308 both it and its reciprocal are near
the numbers that are meant, and above it is infinite. -/
def Rounded (exponent : Nat) (power : Float) : Prop :=
  if exponent ≤ 308 then Near power (10 ^ exponent) ∧ Near (1.0 / power) (1 / 10 ^ exponent)
  else power = infinity

instance : DecidableRel Rounded := fun _ _ =>
  inferInstanceAs (Decidable (ite _ _ _))

/-- Whether every power whose exponent has so many bits holds what is asked of it.  A product is
shared by all exponents that have their low bits in common. -/
def allPowers (holds : Nat → Float → Bool) : Nat → Float → Float → Bool
  | 0, result, _ => holds 0 result
  | bits + 1, result, base =>
      allPowers (fun half => holds (2 * half)) bits result (base * base) &&
        allPowers (fun half => holds (2 * half + 1)) bits (result * base) (base * base)

theorem holds_of_allPowers {holds : Nat → Float → Bool} {bits exponent : Nat}
    {result base : Float} (all : allPowers holds bits result base = true)
    (small : exponent < 2 ^ bits) :
    holds exponent (powerLoop bits result base exponent) = true := by
  induction bits generalizing holds exponent result base with
  | zero =>
      obtain rfl : exponent = 0 := by simpa using small
      exact all
  | succ bits ih =>
      have half := half_lt small
      obtain ⟨lower, upper⟩ := Bool.and_eq_true_iff.mp all
      rw [powerLoop_succ]
      rcases Nat.mod_two_eq_zero_or_one exponent with even | odd
      · have same : 2 * (exponent / 2) = exponent := by omega
        rw [if_neg (by omega)]
        have held := ih lower half
        rwa [same] at held
      · have same : 2 * (exponent / 2) + 1 = exponent := by omega
        rw [if_pos odd]
        have held := ih upper half
        rwa [same] at held

theorem allPowers_rounded :
    allPowers (fun exponent power => decide (Rounded exponent power)) 9 1.0 10.0 = true := by
  decide +kernel

theorem rounded_nine_bits {exponent : Nat} (small : exponent < 2 ^ 9) :
    Rounded exponent (powerLoop 9 1.0 10.0 exponent) :=
  of_decide_eq_true (holds_of_allPowers allPowers_rounded small)

theorem Rounded.mul_infinity {exponent : Nat} {power : Float} (rounded : Rounded exponent power) :
    power * infinity = infinity := by
  unfold Rounded at rounded
  split at rounded
  · exact rounded.1.mul_infinity (pow_pos (by norm_num) exponent)
  · rw [rounded, infinity_mul_infinity]

/-- Nine bits hold every exponent of a finite power, and from the tenth on all squares are
infinite. -/
theorem rounded_powerLoop {exponent : Nat} (small : exponent < 2 ^ 32) :
    Rounded exponent (powerLoop 32 1.0 10.0 exponent) := by
  have low : exponent % 2 ^ 9 < 2 ^ 9 := Nat.mod_lt _ (by decide)
  have squares : (fun base : Float => base * base)^[9] 10.0 = infinity := by decide +kernel
  -- The loop goes on with the high bits from what it makes of the low ones.
  have split := powerLoop_add low 23 1.0 10.0 (exponent / 2 ^ 9)
  rw [Nat.mod_add_div, squares] at split
  rw [split]
  rcases Nat.eq_zero_or_pos (exponent / 2 ^ 9) with none | some
  · have same : exponent % 2 ^ 9 = exponent := by omega
    rw [none, powerLoop_zero, same]
    exact rounded_nine_bits (by omega)
  · rw [powerLoop_infinity (rounded_nine_bits low).mul_infinity some (by omega), Rounded,
      if_neg (by omega)]

variable {exponent : Int}

/-- As long as the power is a double, and so is its reciprocal, they are what is meant but for
the last few of their bits. -/
theorem near_powerOfTen (lower : -308 ≤ exponent) (upper : exponent ≤ 308) :
    Near (powerOfTen exponent) (10 ^ exponent) := by
  have rounded := rounded_powerLoop (by omega : exponent.natAbs < 2 ^ 32)
  rw [Rounded, if_pos (by omega)] at rounded
  rw [powerOfTen, powerOf, zpow_eq_ite]
  by_cases negative : exponent < 0
  · simp only [if_pos negative]
    exact rounded.2
  · simp only [if_neg negative]
    exact rounded.1

theorem powerOfTen_eq_infinity (large : 308 < exponent) (upper : exponent < 2 ^ 31) :
    powerOfTen exponent = infinity := by
  have rounded := rounded_powerLoop (by omega : exponent.natAbs < 2 ^ 32)
  rw [Rounded, if_neg (by omega)] at rounded
  rw [powerOfTen, powerOf, rounded, if_neg (by omega)]

theorem powerOfTen_eq_zero (lower : -2 ^ 31 ≤ exponent) (small : exponent < -308) :
    powerOfTen exponent = 0 := by
  have rounded := rounded_powerLoop (by omega : exponent.natAbs < 2 ^ 32)
  rw [Rounded, if_neg (by omega)] at rounded
  rw [powerOfTen, powerOf, rounded, if_pos (by omega)]
  decide +kernel

end Quantity

end Reconciler
