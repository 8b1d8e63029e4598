import Mathlib.Data.List.Basic
import Reconciler.Proofs.Success
import Reconciler.Text.Numeral

/-!
# What decimal numerals spell

A numeral is a row of digits, at least one, behind an optional sign.  A numeral is read
exactly if what it spells is within the limits, however many zeros it begins with; where
reading goes beyond a limit, it would stay there.
-/

namespace Reconciler

namespace Text

variable {chars digits : List Char} {limit : Nat}

/-- One decimal digit or more. -/
def IsDigits (chars : List Char) : Prop :=
  chars ≠ [] ∧ ∀ char ∈ chars, char.isDigit = true

/-- A body with an optional sign, and whether the sign is a minus. -/
inductive Signed (body : List Char) : Bool → List Char → Prop
  | bare : Signed body false body
  | plus : Signed body false ('+' :: body)
  | minus : Signed body true ('-' :: body)

/-- The number that a numeral with an optional sign spells. -/
inductive Spells : List Char → Int → Prop
  | natural {digits chars : List Char} (signed : Signed digits false chars)
      (decimal : IsDigits digits) : Spells chars (Nat.ofDigitChars 10 digits 0)
  | negative {digits chars : List Char} (signed : Signed digits true chars)
      (decimal : IsDigits digits) : Spells chars (-(Nat.ofDigitChars 10 digits 0 : Int))

theorem IsDigits.head_isDigit (decimal : IsDigits digits) :
    ∃ first rest, digits = first :: rest ∧ first.isDigit = true := by
  obtain ⟨first, rest, rfl⟩ := List.exists_cons_of_ne_nil decimal.1
  exact ⟨first, rest, rfl, decimal.2 first List.mem_cons_self⟩

theorem le_ofDigitChars (chars : List Char) (start : Nat) :
    start ≤ Nat.ofDigitChars 10 chars start := by
  have grown : start ≤ 10 ^ chars.length * start :=
    Nat.le_mul_of_pos_left start (Nat.pow_pos (by decide))
  rw [Nat.ofDigitChars_eq_ofDigitChars_zero]
  omega

/-- Digits are read up to the limit.  The numbers on the way are no larger than the last. -/
theorem readDigits_eq_ok_iff {tooFar : NumeralError} {start value : Nat} (within : start ≤ limit) :
    readDigits limit tooFar start chars = .ok value ↔
      (∀ char ∈ chars, char.isDigit = true) ∧ Nat.ofDigitChars 10 chars start = value ∧
        value ≤ limit := by
  induction chars generalizing start with
  | nil =>
      rw [readDigits, Nat.ofDigitChars_nil, Except.ok.injEq]
      constructor
      · rintro rfl
        exact ⟨nofun, rfl, within⟩
      · rintro ⟨-, same, -⟩
        exact same
  | cons char chars ih =>
      rw [readDigits, Nat.ofDigitChars_cons, digit?, List.forall_mem_cons, Nat.mul_comm 10 start]
      by_cases digit : char.isDigit = true
      · rw [if_pos digit]
        by_cases next : start * 10 + (char.toNat - '0'.toNat) ≤ limit
        · simp only [if_pos next, ih next, digit, true_and]
        · have beyond := le_ofDigitChars chars (start * 10 + (char.toNat - '0'.toNat))
          simp only [if_neg next, digit, true_and, reduceCtorEq, false_iff]
          rintro ⟨-, rfl, within⟩
          omega
      · simp [digit]

theorem readNat_eq_ok_iff {value : Nat} : readNat limit chars = .ok value ↔
    ∃ digits, Signed digits false chars ∧ IsDigits digits ∧
      Nat.ofDigitChars 10 digits 0 = value ∧ value ≤ limit := by
  constructor
  · intro read
    unfold readNat at read
    split at read
    · cases read
    · cases read
    · rename_i rest filled
      obtain ⟨decimal, same, within⟩ := (readDigits_eq_ok_iff (Nat.zero_le limit)).mp read
      exact ⟨rest, .plus, ⟨filled, decimal⟩, same, within⟩
    · rename_i filled _ _
      obtain ⟨decimal, same, within⟩ := (readDigits_eq_ok_iff (Nat.zero_le limit)).mp read
      exact ⟨chars, .bare, ⟨filled, decimal⟩, same, within⟩
  · rintro ⟨digits, signed, decimal, same, within⟩
    have read : readDigits limit .tooLarge 0 digits = .ok value :=
      (readDigits_eq_ok_iff (Nat.zero_le limit)).mpr ⟨decimal.2, same, within⟩
    obtain ⟨first, rest, rfl, digit⟩ := decimal.head_isDigit
    cases signed with
    | plus => exact read
    | bare =>
        have unsigned : first ≠ '+' := by
          rintro rfl
          exact absurd digit (by decide)
        unfold readNat
        split <;> simp_all

theorem readInt_eq_ok_iff {value : Int} : readInt limit chars = .ok value ↔
    Spells chars value ∧ -(limit + 1 : Int) ≤ value ∧ value ≤ limit := by
  constructor
  · intro read
    unfold readInt at read
    split at read
    · cases read
    · cases read
    · rename_i rest filled
      obtain ⟨_, lifted, rfl⟩ := map_eq_ok_iff.mp read
      obtain ⟨size, sized, same⟩ := bind_eq_ok_iff.mp lifted
      obtain rfl := Except.ok.inj same
      obtain ⟨decimal, rfl, within⟩ := (readDigits_eq_ok_iff (Nat.zero_le _)).mp sized
      exact ⟨.negative .minus ⟨filled, decimal⟩, by omega, by omega⟩
    · obtain ⟨_, lifted, rfl⟩ := map_eq_ok_iff.mp read
      obtain ⟨size, sized, same⟩ := bind_eq_ok_iff.mp lifted
      obtain rfl := Except.ok.inj same
      obtain ⟨digits, signed, decimal, rfl, within⟩ := readNat_eq_ok_iff.mp sized
      exact ⟨.natural signed decimal, by omega, by omega⟩
  · rintro ⟨spelled, lower, upper⟩
    cases spelled with
    | @negative digits chars signed decimal =>
        have read : readDigits (limit + 1) .tooSmall 0 digits =
            .ok (Nat.ofDigitChars 10 digits 0) :=
          (readDigits_eq_ok_iff (Nat.zero_le _)).mpr ⟨decimal.2, rfl, by omega⟩
        cases signed
        rw [readInt, read]
        · rfl
        · exact decimal.1
    | @natural digits chars signed decimal =>
        have read : readNat limit chars = .ok (Nat.ofDigitChars 10 digits 0) :=
          readNat_eq_ok_iff.mpr ⟨digits, signed, decimal, rfl, by omega⟩
        obtain ⟨first, rest, rfl, digit⟩ := decimal.head_isDigit
        have unsigned : first ≠ '-' := by
          rintro rfl
          exact absurd digit (by decide)
        have opened :
            readInt limit chars = (readNat limit chars).map fun value => (value : Int) := by
          cases signed <;> unfold readInt <;> split <;> simp_all
        rw [opened, read]
        rfl

end Text

end Reconciler
