import Mathlib.Algebra.Group.Nat.Defs
import Mathlib.Data.List.Basic
import Reconciler.Net.Reader

/-!
# Numbers in a radix

A number up to the limit of its form is read from its digits, up to where they end: without
leading zeros it never has more digits than the form has places.
-/

namespace Reconciler

namespace Net

variable {radix number : Nat} {digits : List Nat} {chars rest : List Char}

/-! ## Digits -/

/-- No digit of the radix is at the front. -/
def NoDigitAhead (radix : Nat) (chars : List Char) : Prop :=
  ∀ char ∈ chars.head?, digit? radix char = none

@[simp]
theorem noDigitAhead_nil : NoDigitAhead radix [] := by
  simp [NoDigitAhead]

@[simp]
theorem noDigitAhead_cons {char : Char} :
    NoDigitAhead radix (char :: rest) ↔ digit? radix char = none := by
  simp [NoDigitAhead]

theorem digit?_eq_filter {wider : Nat} (within : radix ≤ wider) (char : Char) :
    digit? radix char = (digit? wider char).filter fun digit => digit < radix := by
  simp only [digit?, Option.filter_filter]
  congr 1
  funext digit
  simp
  omega

theorem NoDigitAhead.anti {wider : Nat} (ends : NoDigitAhead wider rest) (within : radix ≤ wider) :
    NoDigitAhead radix rest := by
  intro char front
  rw [digit?_eq_filter within, ends char front, Option.filter_none]

theorem digit?_hexadecimal : ∀ digit < 16, digit? 16 (Nat.digitChar digit) = some digit := by
  decide

theorem digit?_digitChar (within : radix ≤ 16) {digit : Nat} (less : digit < radix) :
    digit? radix (Nat.digitChar digit) = some digit := by
  rw [digit?_eq_filter within, digit?_hexadecimal digit (by omega)]
  simp [less]

theorem spanDigits_of_noDigitAhead (ends : NoDigitAhead radix rest) :
    spanDigits radix rest = ([], rest) := by
  cases rest with
  | nil => rfl
  | cons char more => rw [spanDigits, noDigitAhead_cons.mp ends]

theorem spanDigits_append (within : radix ≤ 16) (less : ∀ digit ∈ digits, digit < radix)
    (ends : NoDigitAhead radix rest) :
    spanDigits radix (digits.map Nat.digitChar ++ rest) = (digits, rest) := by
  induction digits with
  | nil => exact spanDigits_of_noDigitAhead ends
  | cons digit digits ih =>
      rw [List.forall_mem_cons] at less
      simp only [List.map_cons, List.cons_append, spanDigits, digit?_digitChar within less.1,
        ih less.2]

/-- The digits at the front of a text do not end at a character that it is free of, if what
follows it begins neither with this character nor with a digit. -/
theorem head?_spanDigits_append {stop : Char} (clean : stop ∉ chars)
    (ends : NoDigitAhead radix rest) (clear : rest.head? ≠ some stop) :
    (spanDigits radix (chars ++ rest)).2.head? ≠ some stop := by
  induction chars with
  | nil => simpa [spanDigits_of_noDigitAhead ends] using clear
  | cons char chars ih =>
      rw [List.mem_cons, not_or] at clean
      rw [List.cons_append, spanDigits]
      cases digit? radix char with
      | none => simpa using Ne.symm clean.1
      | some digit => exact ih clean.2

/-! ## Numbers -/

/-- The digits that a number is written with, the most significant first. -/
structure Digits (radix number : Nat) (digits : List Nat) : Prop where
  chars : Nat.toDigits radix number = digits.map Nat.digitChar
  less : ∀ digit ∈ digits, digit < radix
  value : ofDigits radix digits = number
  leading : digits.head? = some 0 → number = 0

theorem Digits.ne_nil (written : Digits radix number digits) : digits ≠ [] := by
  rintro rfl
  exact Nat.toDigits_ne_nil written.chars

theorem Digits.length_eq (written : Digits radix number digits) :
    (Nat.toDigits radix number).length = digits.length := by
  rw [written.chars, List.length_map]

theorem ofDigits_append_singleton (digits : List Nat) (digit : Nat) :
    ofDigits radix (digits ++ [digit]) = ofDigits radix digits * radix + digit := by
  simp [ofDigits]

theorem exists_digits (proper : 1 < radix) (number : Nat) :
    ∃ digits, Digits radix number digits := by
  induction number using Nat.strongRecOn with
  | ind number ih =>
    by_cases single : number < radix
    · exact ⟨[number], by simp [Nat.toDigits_of_lt_base single], by simpa using single,
        by simp [ofDigits], by simp⟩
    · rw [Nat.not_lt] at single
      have smaller : number / radix < number := Nat.div_lt_self (by omega) proper
      obtain ⟨digits, written⟩ := ih (number / radix) smaller
      have filled := written.ne_nil
      refine ⟨digits ++ [number % radix], ?_, ?_, ?_, ?_⟩
      · rw [Nat.toDigits_of_base_le proper single, written.chars, List.map_append]
        rfl
      · rw [List.forall_mem_append]
        exact ⟨written.less, by simpa using Nat.mod_lt number (by omega)⟩
      · rw [ofDigits_append_singleton, written.value, Nat.div_add_mod']
      · intro zero
        rw [List.head?_append_of_ne_nil _ filled] at zero
        have quotient := written.leading zero
        have positive : 0 < number / radix := Nat.div_pos single (by omega)
        omega

theorem digit?_of_mem_toDigits (proper : 1 < radix) (within : radix ≤ 16) {char : Char}
    (member : char ∈ Nat.toDigits radix number) : digit? radix char ≠ none := by
  obtain ⟨digits, written⟩ := exists_digits proper number
  rw [written.chars] at member
  obtain ⟨digit, listed, rfl⟩ := List.mem_map.mp member
  simp [digit?_digitChar within (written.less digit listed)]

/-! ## Reading -/

/-- A form that has the places for every number up to its limit. -/
structure NumberForm.Wide (form : NumberForm) : Prop where
  proper : 1 < form.radix
  within : form.radix ≤ 16
  places : ∀ count ∈ form.maxDigits, 0 < count ∧ form.limit < form.radix ^ count

theorem octetForm_wide : octetForm.Wide :=
  ⟨by decide, by decide, by decide⟩

theorem groupForm_wide : groupForm.Wide :=
  ⟨by decide, by decide, by decide⟩

theorem portForm_wide : portForm.Wide :=
  ⟨by decide, by decide, by decide⟩

theorem scopeForm_wide : scopeForm.Wide :=
  ⟨by decide, by decide, by decide⟩

variable {form : NumberForm}

/-- A number is read up to where its digits end. -/
theorem readNumber_toDigits (wide : form.Wide) (bounded : number ≤ form.limit)
    (ends : NoDigitAhead form.radix rest) :
    readNumber form (Nat.toDigits form.radix number ++ rest) = some (number, rest) := by
  obtain ⟨digits, written⟩ := exists_digits wide.proper number
  have filled : digits.isEmpty = false := by simpa using written.ne_nil
  have short : (form.maxDigits.any fun limit => limit < digits.length) = false := by
    cases counted : form.maxDigits with
    | none => rfl
    | some count =>
        obtain ⟨positive, room⟩ := wide.places count counted
        have length := (Nat.length_toDigits_le_iff wide.proper positive).mpr
          (Nat.lt_of_le_of_lt bounded room)
        rw [written.length_eq] at length
        simpa using length
  have leading : (!form.leadingZeros && digits.head? == some 0 && 1 < digits.length) = false := by
    by_cases zero : digits.head? = some 0
    · -- Only the number zero begins with a zero, and that is its one digit.
      have single := written.length_eq
      rw [written.leading zero, Nat.toDigits_zero, List.length_singleton] at single
      simp [← single]
    · simp [zero]
  rw [written.chars, readNumber, spanDigits_append wide.within written.less ends]
  simp only [filled, short, leading, written.value, bounded, if_true, if_false,
    Bool.false_eq_true]

theorem readNumber_of_noDigitAhead (ends : NoDigitAhead form.radix rest) :
    readNumber form rest = none := by
  simp [readNumber, spanDigits_of_noDigitAhead ends]

theorem readNumber_rest (read : readNumber form chars = some (number, rest)) :
    (spanDigits form.radix chars).2 = rest := by
  simp only [readNumber] at read
  split_ifs at read
  simp_all

end Net

end Reconciler
