import Mathlib.Data.Rat.Lemmas
import Mathlib.Algebra.Order.Field.Rat
import Mathlib.Data.List.TakeWhile
import Reconciler.Proofs.PowersOfTen
import Reconciler.Proofs.SignedNumerals

/-!
# The grammar of quantities

A quantity is a decimal number and the symbol of what it is multiplied with, surrounded by
blanks: a unit, or a power of ten in exponent form.  Reading accepts exactly these texts,
and since no number goes on with the first character of a symbol, there is only one way
to take a text apart.
-/

namespace Reconciler

open Text (IsDigits Signed Spells)

/-! ## Blanks -/

namespace Text

variable {before middle after : List Char}

theorem dropWhile_isBlank_append (blank : ∀ char ∈ before, isBlank char = true)
    (shown : ∀ char ∈ middle, isBlank char = false) (filled : middle ≠ []) (after : List Char) :
    (before ++ (middle ++ after)).dropWhile isBlank = middle ++ after := by
  obtain ⟨first, rest, rfl⟩ := List.exists_cons_of_ne_nil filled
  rw [List.dropWhile_append_of_pos blank, List.cons_append,
    List.dropWhile_cons_of_neg (by simp [shown first List.mem_cons_self])]

theorem trimChars_append (blank : ∀ char ∈ before ++ after, isBlank char = true)
    (shown : ∀ char ∈ middle, isBlank char = false) (filled : middle ≠ []) :
    trimChars (before ++ (middle ++ after)) = middle := by
  rw [List.forall_mem_append] at blank
  have ending : (after.reverse ++ (middle.reverse ++ [])).dropWhile isBlank =
      middle.reverse ++ [] :=
    dropWhile_isBlank_append (by simpa using blank.2) (by simpa using shown)
      (by simpa using filled) []
  rw [List.append_nil, ← List.reverse_append] at ending
  rw [trimChars, dropWhile_isBlank_append blank.1 shown filled, ending, List.reverse_reverse]

/-- Trimming removes nothing but blanks. -/
theorem exists_eq_append_trimChars (chars : List Char) :
    ∃ before after, (∀ char ∈ before ++ after, isBlank char = true) ∧
      chars = before ++ (trimChars chars ++ after) := by
  refine ⟨chars.takeWhile isBlank,
    ((chars.dropWhile isBlank).reverse.takeWhile isBlank).reverse, ?_, ?_⟩
  · rw [List.forall_mem_append]
    refine ⟨fun char member => List.mem_takeWhile_imp member, fun char member => ?_⟩
    rw [List.mem_reverse] at member
    exact List.mem_takeWhile_imp member
  · rw [trimChars, ← List.reverse_append, List.takeWhile_append_dropWhile, List.reverse_reverse,
      List.takeWhile_append_dropWhile]

end Text

namespace Quantity

/-! ## Numbers -/

/-- The texts of decimal numbers without a sign: digits alone, digits with a point behind or
among them, or a point before digits.  With each goes the number without its point, and how
many of the digits are decimals. -/
inductive Unsigned : List Char → Nat → Nat → Prop
  | whole {digits : List Char} (decimal : IsDigits digits) :
      Unsigned digits (Nat.ofDigitChars 10 digits 0) 0
  | pointed {digits decimals : List Char} (decimal : IsDigits digits)
      (optional : ∀ char ∈ decimals, char.isDigit = true) :
      Unsigned (digits ++ '.' :: decimals) (Nat.ofDigitChars 10 (digits ++ decimals) 0)
        decimals.length
  | fraction {digits decimals : List Char} (optional : ∀ char ∈ digits, char.isDigit = true)
      (decimal : IsDigits decimals) :
      Unsigned (digits ++ '.' :: decimals) (Nat.ofDigitChars 10 (digits ++ decimals) 0)
        decimals.length

/-- The texts of decimal numbers with an optional sign. -/
inductive Numeral : List Char → Number → Prop
  | intro {body chars : List Char} {negative : Bool} {digits places : Nat}
      (signed : Signed body negative chars) (unsigned : Unsigned body digits places) :
      Numeral chars ⟨negative, digits, places⟩

theorem digitsValue_eq (digits : List Char) :
    digitsValue digits = Nat.ofDigitChars 10 digits 0 := by
  simp only [digitsValue, Nat.ofDigitChars_eq_foldl, Nat.mul_comm]

theorem readUnsigned?_whole {digits : List Char} (negative : Bool) (decimal : IsDigits digits) :
    readUnsigned? negative digits = some ⟨negative, Nat.ofDigitChars 10 digits 0, 0⟩ := by
  have taken : digits.takeWhile Char.isDigit = digits := List.takeWhile_eq_self_iff.mpr decimal.2
  have left : digits.dropWhile Char.isDigit = [] := List.dropWhile_eq_nil_iff.mpr decimal.2
  simp [readUnsigned?, taken, left, decimal.1, digitsValue_eq]

theorem readUnsigned?_point {digits decimals : List Char} (negative : Bool)
    (decimal : ∀ char ∈ digits ++ decimals, char.isDigit = true) (some : digits ++ decimals ≠ []) :
    readUnsigned? negative (digits ++ '.' :: decimals) =
      Option.some ⟨negative, Nat.ofDigitChars 10 (digits ++ decimals) 0, decimals.length⟩ := by
  rw [List.forall_mem_append] at decimal
  have taken : (digits ++ '.' :: decimals).takeWhile Char.isDigit = digits := by
    rw [List.takeWhile_append_of_pos decimal.1, List.takeWhile_cons_of_neg (by decide),
      List.append_nil]
  have left : (digits ++ '.' :: decimals).dropWhile Char.isDigit = '.' :: decimals := by
    rw [List.dropWhile_append_of_pos decimal.1, List.dropWhile_cons_of_neg (by decide)]
  have all : decimals.all Char.isDigit = true := List.all_eq_true.mpr decimal.2
  have filled : digits = [] → decimals ≠ [] := by simpa using some
  simpa [readUnsigned?, taken, left, all, digitsValue_eq] using filled

theorem readUnsigned?_eq_some_iff {negative : Bool} {chars : List Char} {number : Number} :
    readUnsigned? negative chars = some number ↔
      number.negative = negative ∧ Unsigned chars number.digits number.places := by
  constructor
  · intro read
    have split : chars.takeWhile Char.isDigit ++ chars.dropWhile Char.isDigit = chars :=
      List.takeWhile_append_dropWhile
    have decimal : ∀ char ∈ chars.takeWhile Char.isDigit, char.isDigit = true :=
      fun char member => List.mem_takeWhile_imp member
    unfold readUnsigned? at read
    dsimp only at read
    generalize chars.takeWhile Char.isDigit = digits at read split decimal
    generalize chars.dropWhile Char.isDigit = rest at read split
    subst split
    split at read
    · split_ifs at read with empty
      cases read
      rw [List.append_nil, digitsValue_eq]
      exact ⟨rfl, .whole ⟨by simpa using empty, decimal⟩⟩
    · rename_i decimals
      split_ifs at read with proper
      cases read
      rw [digitsValue_eq]
      simp only [Bool.and_eq_true, List.all_eq_true, Bool.not_eq_true', Bool.and_eq_false_iff,
        List.isEmpty_eq_false_iff] at proper
      obtain ⟨optional, filled | filled⟩ := proper
      · exact ⟨rfl, .pointed ⟨filled, decimal⟩ optional⟩
      · exact ⟨rfl, .fraction decimal ⟨filled, optional⟩⟩
    · cases read
  · obtain ⟨_, value, places⟩ := number
    rintro ⟨rfl, unsigned⟩
    cases unsigned with
    | whole decimal => exact readUnsigned?_whole _ decimal
    | pointed decimal optional =>
        refine readUnsigned?_point _ (List.forall_mem_append.mpr ⟨decimal.2, optional⟩) ?_
        simp [decimal.1]
    | fraction optional decimal =>
        refine readUnsigned?_point _ (List.forall_mem_append.mpr ⟨optional, decimal.2⟩) ?_
        simp [decimal.1]

theorem Unsigned.isDigit_or_eq {chars : List Char} {value places : Nat}
    (unsigned : Unsigned chars value places) {char : Char} (member : char ∈ chars) :
    char.isDigit = true ∨ char = '.' := by
  cases unsigned with
  | whole decimal => exact .inl (decimal.2 char member)
  | pointed decimal optional =>
      rcases List.mem_append.mp member with early | late
      · exact .inl (decimal.2 char early)
      · exact (List.mem_cons.mp late).elim .inr fun later => .inl (optional char later)
  | fraction optional decimal =>
      rcases List.mem_append.mp member with early | late
      · exact .inl (optional char early)
      · exact (List.mem_cons.mp late).elim .inr fun later => .inl (decimal.2 char later)

theorem Unsigned.ne_nil {chars : List Char} {value places : Nat}
    (unsigned : Unsigned chars value places) : chars ≠ [] := by
  cases unsigned with
  | whole decimal => exact decimal.1
  | pointed => simp
  | fraction => simp

theorem readNumber?_eq_some_iff {chars : List Char} {number : Number} :
    readNumber? chars = some number ↔ Numeral chars number := by
  constructor
  · intro read
    obtain ⟨negative, digits, places⟩ := number
    unfold readNumber? at read
    split at read
    · obtain ⟨rfl, unsigned⟩ := readUnsigned?_eq_some_iff.mp read
      exact ⟨.plus, unsigned⟩
    · obtain ⟨rfl, unsigned⟩ := readUnsigned?_eq_some_iff.mp read
      exact ⟨.minus, unsigned⟩
    · obtain ⟨rfl, unsigned⟩ := readUnsigned?_eq_some_iff.mp read
      exact ⟨.bare, unsigned⟩
  · rintro @⟨body, chars, negative, digits, places, signed, unsigned⟩
    have read : readUnsigned? negative body = some ⟨negative, digits, places⟩ :=
      readUnsigned?_eq_some_iff.mpr ⟨rfl, unsigned⟩
    cases signed with
    | plus => exact read
    | minus => exact read
    | bare =>
        obtain ⟨first, rest, rfl⟩ := List.exists_cons_of_ne_nil unsigned.ne_nil
        have number := unsigned.isDigit_or_eq List.mem_cons_self
        have bare : first ≠ '+' ∧ first ≠ '-' := by
          constructor <;> rintro rfl <;> exact absurd number (by decide)
        unfold readNumber?
        split <;> simp_all

theorem Numeral.consists {chars : List Char} {number : Number} (numeral : Numeral chars number) :
    ∀ char ∈ chars, isNumberChar char = true := by
  intro char member
  obtain ⟨signed, unsigned⟩ := numeral
  have shown : char.isDigit = true ∨ char = '.' → isNumberChar char = true := by
    rintro (digit | rfl)
    · simp [isNumberChar, digit]
    · decide
  cases signed with
  | bare => exact shown (unsigned.isDigit_or_eq member)
  | plus =>
      rcases List.mem_cons.mp member with rfl | later
      · decide
      · exact shown (unsigned.isDigit_or_eq later)
  | minus =>
      rcases List.mem_cons.mp member with rfl | later
      · decide
      · exact shown (unsigned.isDigit_or_eq later)

theorem Numeral.ne_nil {chars : List Char} {number : Number} (numeral : Numeral chars number) :
    chars ≠ [] := by
  obtain ⟨signed, unsigned⟩ := numeral
  cases signed with
  | bare => exact unsigned.ne_nil
  | plus => exact List.cons_ne_nil _ _
  | minus => exact List.cons_ne_nil _ _

/-! ## Symbols -/

/-- The symbols of units, with what they multiply with. -/
def units : List (String × Float) := [
  ("", 1), ("n", 1e-9), ("u", 1e-6), ("m", 1e-3), ("k", Float.ofNat (10 ^ 3)),
  ("M", Float.ofNat (10 ^ 6)), ("G", Float.ofNat (10 ^ 9)), ("T", Float.ofNat (10 ^ 12)),
  ("P", Float.ofNat (10 ^ 15)), ("E", Float.ofNat (10 ^ 18)), ("Ki", Float.ofNat (2 ^ 10)),
  ("Mi", Float.ofNat (2 ^ 20)), ("Gi", Float.ofNat (2 ^ 30)), ("Ti", Float.ofNat (2 ^ 40)),
  ("Pi", Float.ofNat (2 ^ 50)), ("Ei", Float.ofNat (2 ^ 60))]

/-- The texts of what a number is multiplied with: units, and powers of ten in exponent form
whose exponent is a signed number of 32 bits. -/
inductive Symbol : List Char → Float → Prop
  | unit {symbol : String} {factor : Float} (listed : (symbol, factor) ∈ units) :
      Symbol symbol.toList factor
  | power {letter : Char} {chars : List Char} {exponent : Int}
      (marked : letter = 'e' ∨ letter = 'E') (spelled : Spells chars exponent)
      (lower : -2 ^ 31 ≤ exponent) (upper : exponent < 2 ^ 31) :
      Symbol (letter :: chars) (powerOfTen exponent)

theorem readPower?_eq_some_iff {chars : List Char} {suffix : Suffix} :
    readPower? chars = some suffix ↔
      ∃ exponent, suffix = .power exponent ∧ Spells chars exponent ∧ -2 ^ 31 ≤ exponent ∧
        exponent < 2 ^ 31 := by
  have limit : exponentLimit = 2 ^ 31 - 1 := rfl
  constructor
  · intro power
    unfold readPower? at power
    split at power
    · rename_i exponent read
      cases power
      obtain ⟨spelled, lower, upper⟩ := Text.readInt_eq_ok_iff.mp read
      exact ⟨exponent, rfl, spelled, by omega, by omega⟩
    · cases power
  · rintro ⟨exponent, rfl, spelled, lower, upper⟩
    have read : Text.readInt exponentLimit chars = .ok exponent :=
      Text.readInt_eq_ok_iff.mpr ⟨spelled, by omega, by omega⟩
    rw [readPower?, read]

/-- The suffixes that the symbols of units are read as. -/
def unitSuffixes : List (String × Suffix) := [
  ("", .none), ("n", .nano), ("u", .micro), ("m", .milli), ("k", .kilo), ("M", .mega),
  ("G", .giga), ("T", .tera), ("P", .peta), ("E", .exa), ("Ki", .kibi), ("Mi", .mebi),
  ("Gi", .gibi), ("Ti", .tebi), ("Pi", .pebi), ("Ei", .exbi)]

theorem units_eq : units = unitSuffixes.map fun unit => (unit.1, unit.2.factor) := by
  decide +kernel

theorem readSuffix?_unit :
    ∀ unit ∈ unitSuffixes, readSuffix? unit.1.toList = some unit.2 := by
  decide

theorem readSuffix?_power {letter : Char} {chars : List Char} {suffix : Suffix}
    (marked : letter = 'e' ∨ letter = 'E') (power : readPower? chars = some suffix) :
    readSuffix? (letter :: chars) = some suffix := by
  rcases marked with rfl | rfl
  · exact power
  · -- Behind an `E` that is a unit, alone or with an `i`, stands no exponent.
    have other : chars ≠ [] ∧ chars ≠ ['i'] := by
      constructor <;> rintro rfl <;> cases power
    unfold readSuffix?
    split <;> simp_all

theorem unit_or_power_of_readSuffix? {chars : List Char} {suffix : Suffix}
    (read : readSuffix? chars = some suffix) :
    (String.ofList chars, suffix) ∈ unitSuffixes ∨
      ∃ letter rest, (letter = 'e' ∨ letter = 'E') ∧ chars = letter :: rest ∧
        readPower? rest = some suffix := by
  unfold readSuffix? at read
  split at read
  case h_17 rest => exact .inr ⟨'e', rest, .inl rfl, rfl, read⟩
  case h_18 rest _ _ => exact .inr ⟨'E', rest, .inr rfl, rfl, read⟩
  case h_19 => cases read
  all_goals
    cases read
    exact .inl (by decide)

theorem symbol_iff {chars : List Char} {factor : Float} :
    Symbol chars factor ↔ ∃ suffix, readSuffix? chars = some suffix ∧ suffix.factor = factor := by
  constructor
  · rintro (@⟨symbol, factor, listed⟩ | @⟨letter, rest, exponent, marked, spelled, lower, upper⟩)
    · rw [units_eq] at listed
      obtain ⟨unit, member, same⟩ := List.mem_map.mp listed
      cases same
      exact ⟨unit.2, readSuffix?_unit unit member, rfl⟩
    · have power : readPower? rest = some (.power exponent) :=
        readPower?_eq_some_iff.mpr ⟨exponent, rfl, spelled, lower, upper⟩
      exact ⟨.power exponent, readSuffix?_power marked power, rfl⟩
  · rintro ⟨suffix, read, rfl⟩
    rcases unit_or_power_of_readSuffix? read with listed | ⟨letter, rest, marked, rfl, power⟩
    · have symbol : Symbol (String.ofList chars).toList suffix.factor := by
        refine .unit ?_
        rw [units_eq]
        exact List.mem_map.mpr ⟨_, listed, rfl⟩
      rwa [String.toList_ofList] at symbol
    · obtain ⟨exponent, rfl, spelled, lower, upper⟩ := readPower?_eq_some_iff.mp power
      exact .power marked spelled lower upper

/-! ## Texts -/

theorem isBlank_of_isNumberChar {char : Char} (number : isNumberChar char = true) :
    Text.isBlank char = false := by
  simp only [isNumberChar, Bool.or_eq_true, beq_iff_eq] at number
  rcases number with ((digit | rfl) | rfl) | rfl
  · have range : 48 ≤ char.toNat ∧ char.toNat ≤ 57 := Char.isDigit_iff_toNat.mp digit
    simp only [Text.isBlank, Bool.or_eq_false_iff, Bool.and_eq_false_iff, decide_eq_false_iff_not,
      beq_eq_false_iff_ne]
    omega
  · decide
  · decide
  · decide

theorem isNumberChar_of_spells {chars : List Char} {value : Int} (spelled : Spells chars value) :
    ∀ char ∈ chars, isNumberChar char = true := by
  have shown : ∀ {digits : List Char}, IsDigits digits → ∀ char ∈ digits,
      isNumberChar char = true := fun decimal char member => by
    simp [isNumberChar, decimal.2 char member]
  have signed : ∀ {digits chars : List Char} {negative : Bool}, Signed digits negative chars →
      IsDigits digits → ∀ char ∈ chars, isNumberChar char = true := by
    intro digits chars negative signed decimal
    cases signed with
    | bare => exact shown decimal
    | plus => exact List.forall_mem_cons.mpr ⟨by decide, shown decimal⟩
    | minus => exact List.forall_mem_cons.mpr ⟨by decide, shown decimal⟩
  cases spelled with
  | natural sign decimal => exact signed sign decimal
  | negative sign decimal => exact signed sign decimal

theorem Symbol.shown {chars : List Char} {factor : Float} (symbol : Symbol chars factor) :
    ∀ char ∈ chars, Text.isBlank char = false := by
  cases symbol with
  | unit listed =>
      have all : (units.all fun unit => unit.1.toList.all fun char => !Text.isBlank char) = true :=
        by decide
      simpa using List.all_eq_true.mp (List.all_eq_true.mp all _ listed)
  | power marked spelled =>
      refine List.forall_mem_cons.mpr ⟨?_, fun char member => ?_⟩
      · rcases marked with rfl | rfl <;> decide
      · exact isBlank_of_isNumberChar (isNumberChar_of_spells spelled char member)

/-- No symbol begins with a character that a number could go on with. -/
theorem Symbol.split {chars : List Char} {factor : Float} (symbol : Symbol chars factor) :
    chars.takeWhile isNumberChar = [] ∧ chars.dropWhile isNumberChar = chars := by
  cases symbol with
  | unit listed =>
      have all : ∀ unit ∈ units, unit.1.toList.takeWhile isNumberChar = [] ∧
          unit.1.toList.dropWhile isNumberChar = unit.1.toList := by decide
      exact all _ listed
  | @power letter chars exponent marked =>
      have other : ¬isNumberChar letter = true := by
        rcases marked with rfl | rfl <;> decide
      exact ⟨List.takeWhile_cons_of_neg other, List.dropWhile_cons_of_neg other⟩

/-- A way to take a text apart into a number and what it is multiplied with. -/
structure Reading where
  numeral : List Char
  symbol : List Char
  number : Number
  factor : Float

/-- A text is a number and a symbol between blanks. -/
structure Reading.Of (reading : Reading) (text : String) : Prop where
  placed : ∃ before after, (∀ char ∈ before ++ after, Text.isBlank char = true) ∧
    text.toList = before ++ (reading.numeral ++ reading.symbol ++ after)
  numeral : Numeral reading.numeral reading.number
  symbol : Symbol reading.symbol reading.factor

variable {text : String} {reading : Reading}

theorem Reading.Of.trimmed (reads : reading.Of text) :
    Text.trimChars text.toList = reading.numeral ++ reading.symbol := by
  obtain ⟨⟨before, after, blank, placed⟩, numeral, symbol⟩ := reads
  rw [placed]
  refine Text.trimChars_append blank ?_ ?_
  · refine List.forall_mem_append.mpr ⟨fun char member => ?_, symbol.shown⟩
    exact isBlank_of_isNumberChar (numeral.consists char member)
  · simp [numeral.ne_nil]

theorem Reading.Of.parts (reads : reading.Of text) :
    (Text.trimChars text.toList).takeWhile isNumberChar = reading.numeral ∧
      (Text.trimChars text.toList).dropWhile isNumberChar = reading.symbol := by
  obtain ⟨none, all⟩ := reads.symbol.split
  rw [reads.trimmed, List.takeWhile_append_of_pos reads.numeral.consists, none, List.append_nil,
    List.dropWhile_append_of_pos reads.numeral.consists, all]
  exact ⟨rfl, rfl⟩

theorem Reading.Of.value?_eq (reads : reading.Of text) :
    value? text = some (reading.number.value * reading.factor) := by
  obtain ⟨numeral, symbol⟩ := reads.parts
  obtain ⟨suffix, read, factor⟩ := symbol_iff.mp reads.symbol
  have number := readNumber?_eq_some_iff.mpr reads.numeral
  simp only [value?, read?, numeral, symbol, number, read, Option.map_some, factor]

theorem exists_reading {value : Float} (read : value? text = some value) :
    ∃ reading : Reading, reading.Of text := by
  obtain ⟨⟨number, suffix⟩, read, -⟩ := Option.map_eq_some_iff.mp read
  unfold read? at read
  dsimp only at read
  split at read
  · rename_i number suffix numeral symbol
    obtain ⟨before, after, blank, placed⟩ := Text.exists_eq_append_trimChars text.toList
    refine ⟨⟨_, _, number, suffix.factor⟩, ⟨before, after, blank, ?_⟩,
      readNumber?_eq_some_iff.mp numeral, symbol_iff.mpr ⟨suffix, symbol, rfl⟩⟩
    rwa [List.takeWhile_append_dropWhile]
  · cases read

theorem Reading.Of.unique {other : Reading} (reads : reading.Of text) (also : other.Of text) :
    reading = other := by
  obtain ⟨numeral, symbol⟩ := reads.parts
  obtain ⟨otherNumeral, otherSymbol⟩ := also.parts
  have sameNumeral : reading.numeral = other.numeral := numeral.symm.trans otherNumeral
  have sameSymbol : reading.symbol = other.symbol := symbol.symm.trans otherSymbol
  have number := readNumber?_eq_some_iff.mpr reads.numeral
  rw [sameNumeral, readNumber?_eq_some_iff.mpr also.numeral] at number
  obtain ⟨suffix, read, factor⟩ := symbol_iff.mp reads.symbol
  obtain ⟨otherSuffix, otherRead, otherFactor⟩ := symbol_iff.mp also.symbol
  rw [sameSymbol, otherRead] at read
  cases reading
  cases other
  cases number
  cases read
  simp_all

/-- Both places at which a text is cut are boundaries of characters: the end of the number,
and the end of the letter before an exponent. -/
theorem isValid_takeWhile (text : String) :
    (String.ofList (text.toList.takeWhile isNumberChar)).rawEndPos.IsValid text := by
  rw [String.Pos.Raw.isValid_iff_exists_append]
  refine ⟨String.ofList (text.toList.takeWhile isNumberChar),
    String.ofList (text.toList.dropWhile isNumberChar), ?_, rfl⟩
  rw [← String.ofList_append, List.takeWhile_append_dropWhile, String.ofList_toList]

theorem isValid_letter {letter : Char} (marked : letter = 'e' ∨ letter = 'E') (chars : List Char) :
    String.Pos.Raw.IsValid (String.ofList (letter :: chars)) ⟨1⟩ := by
  rw [String.Pos.Raw.isValid_iff_exists_append]
  refine ⟨String.ofList [letter], String.ofList chars, ?_, ?_⟩
  · rw [← String.ofList_append]
    rfl
  · rcases marked with rfl | rfl <;> decide

/-- A text has a value exactly if there is one way to take it apart into a number and a symbol
between blanks, and its value is the product of the two.  The power of an exponent is computed
by repeated squaring, which without rounding gives that power of ten.  With doubles up to
twenty two no product has to be rounded; up to 308, and down to -308, the result is near the
power; above it is infinite, and below it is zero.  Texts are cut nowhere but between two
characters. -/
theorem values_follow_grammar :
    (∀ text, (value? text).isSome = true ↔ ∃! reading : Reading, reading.Of text) ∧
      (∀ text (reading : Reading), reading.Of text →
        value? text = some (reading.number.value * reading.factor)) ∧
      (∀ exponent : Int, -2 ^ 31 ≤ exponent → exponent < 2 ^ 31 →
        powerOf (1 : ℚ) 10 exponent = 10 ^ exponent) ∧
      (∀ exponent < 23, powerOfTen (Int.ofNat exponent) = Float.ofScientific 1 false exponent ∧
        powerOfTen (-Int.ofNat exponent) = Float.ofScientific 1 true exponent) ∧
      (∀ exponent : Int, -308 ≤ exponent → exponent ≤ 308 →
        Near (powerOfTen exponent) (10 ^ exponent)) ∧
      (∀ exponent : Int, 308 < exponent → exponent < 2 ^ 31 → powerOfTen exponent = infinity) ∧
      (∀ exponent : Int, -2 ^ 31 ≤ exponent → exponent < -308 → powerOfTen exponent = 0) ∧
      (∀ text : String,
        (String.ofList (text.toList.takeWhile isNumberChar)).rawEndPos.IsValid text) ∧
      ∀ letter chars, letter = 'e' ∨ letter = 'E' →
        String.Pos.Raw.IsValid (String.ofList (letter :: chars)) ⟨1⟩ := by
  refine ⟨fun text => ⟨fun some => ?_, ?_⟩, fun text reading reads => reads.value?_eq, ?_, ?_,
    fun exponent lower upper => near_powerOfTen lower upper,
    fun exponent large upper => powerOfTen_eq_infinity large upper,
    fun exponent lower small => powerOfTen_eq_zero lower small,
    isValid_takeWhile, fun letter chars marked => isValid_letter marked chars⟩
  · obtain ⟨value, read⟩ := Option.isSome_iff_exists.mp some
    obtain ⟨reading, reads⟩ := exists_reading read
    exact ⟨reading, reads, fun other also => also.unique reads⟩
  · rintro ⟨reading, reads, -⟩
    rw [reads.value?_eq]
    rfl
  · exact fun exponent lower upper => powerOf_eq lower upper 10
  · decide +kernel

/-- A number with a point, and a binary unit between blanks; a power that is rounded, one that
is infinite and one that is zero. -/
theorem values_follow_grammar_of_kibi :
    (Reading.mk ['+', '1', '.', '5'] ['K', 'i'] ⟨false, 15, 1⟩ (Float.ofNat (2 ^ 10))).Of
        "\u00a0+1.5Ki\n" ∧
      value? "\u00a0+1.5Ki\n" = some 1536 ∧
      Near (powerOfTen (-300)) (10 ^ (-300 : Int)) ∧ powerOfTen 309 = infinity ∧
      powerOfTen (-309) = 0 := by
  have listed : ("Ki", Float.ofNat (2 ^ 10)) ∈ units := by simp [units]
  have blank : ∀ char ∈ ['\u00a0', '\n'], Text.isBlank char = true :=
    List.all_eq_true.mp (by decide)
  have pointed : Unsigned (['1'] ++ '.' :: ['5']) 15 1 :=
    .pointed ⟨by decide, List.forall_mem_singleton.mpr (by decide)⟩
      (List.forall_mem_singleton.mpr (by decide))
  have reads : (Reading.mk ['+', '1', '.', '5'] ['K', 'i'] ⟨false, 15, 1⟩ (Float.ofNat (2 ^ 10))).Of
      "\u00a0+1.5Ki\n" :=
    ⟨⟨['\u00a0'], ['\n'], blank, rfl⟩, .intro .plus pointed, .unit listed⟩
  obtain ⟨-, product, -, -, near, large, small, -⟩ := values_follow_grammar
  refine ⟨reads, (product _ _ reads).trans ?_, near (-300) (by decide) (by decide),
    large 309 (by decide) (by decide), small (-309) (by decide) (by decide)⟩
  decide +kernel

/-- There is a double near the power of -310, but none near its reciprocal: so the value is zero
and not the product with that double. -/
theorem value_of_subnormal_power :
    let meant := Float.ofScientific 1 true 310
    let reading : Reading :=
      ⟨['1'], ['e', '-', '3', '1', '0'], ⟨false, 1, 0⟩, powerOfTen (-310)⟩
    reading.Of "1e-310" ∧ value? "1e-310" = some 0 ∧
      value? "1e-310" ≠ some (reading.number.value * meant) ∧
      ∃ number ∈ rational? meant, |number - 10 ^ (-310 : Int)| ≤ 10 ^ (-310 : Int) / 2 ^ 40 := by
  intro meant reading
  have decimal : IsDigits ['3', '1', '0'] := ⟨by decide, List.all_eq_true.mp (by decide)⟩
  have one : IsDigits ['1'] := ⟨by decide, List.all_eq_true.mp (by decide)⟩
  have spelled : Spells ['-', '3', '1', '0'] (-310) := .negative .minus decimal
  have symbol : Symbol ['e', '-', '3', '1', '0'] (powerOfTen (-310)) :=
    .power (.inl rfl) spelled (by decide) (by decide)
  have reads : reading.Of "1e-310" :=
    ⟨⟨[], [], nofun, rfl⟩, .intro .bare (.whole one), symbol⟩
  have zero : value? "1e-310" = some 0 := by decide +kernel
  refine ⟨reads, zero, ?_, by decide +kernel⟩
  rw [zero]
  decide +kernel

end Quantity

end Reconciler
