import Accumulator.Numeral.Decimal
import Accumulator.Text.Blank
import Accumulator.Text.DecimalDigit

set_option autoImplicit false

/-!
How integers can be spelled. The rules are those of a grammar with values: digits of a base with
single underscores between them, a base mark in front where the base is not ten, a sign, and blanks
around. A place value says what a run of digits is worth, so the rules do not mention any reader.
-/

namespace Accumulator.Numeral

open Text (decimalDigit? isBlank)

/-! ### The grammar -/

/-- A digit: a decimal digit of any script, or one of the first six letters for ten and more. -/
inductive DigitOf : Char → Nat → Prop
  | decimal {character : Char} {digit : Nat} (read : decimalDigit? character = some digit) :
      DigitOf character digit
  | small {place : Nat} (few : place < 6) : DigitOf (Char.ofNat ('a'.toNat + place)) (10 + place)
  | capital {place : Nat} (few : place < 6) : DigitOf (Char.ofNat ('A'.toNat + place)) (10 + place)

/-- A run of digits of a base, how many they are and the number that they are worth. A single
underscore may stand between two digits. -/
inductive DigitRun (base : Nat) : List Char → Nat → Nat → Prop
  | last {character : Char} {digit : Nat} (stands : DigitOf character digit)
      (small : digit < base) : DigitRun base [character] 1 digit
  | next {character : Char} {digit : Nat} {rest : List Char} {count value : Nat}
      (stands : DigitOf character digit) (small : digit < base)
      (run : DigitRun base rest count value) :
      DigitRun base (character :: rest) (count + 1) (digit * Nat.pow base count + value)
  | separated {character : Char} {digit : Nat} {rest : List Char} {count value : Nat}
      (stands : DigitOf character digit) (small : digit < base)
      (run : DigitRun base rest count value) :
      DigitRun base (character :: '_' :: rest) (count + 1) (digit * Nat.pow base count + value)

/-- The letters behind a zero that announce a base. -/
def baseMarks : List (Char × Nat) :=
  [('x', 16), ('X', 16), ('o', 8), ('O', 8), ('b', 2), ('B', 2)]

/-- A run of at most as many decimal digits as a numeral may have. Leading zeros count. -/
inductive DecimalRun : List Char → Nat → Prop
  | short {text : List Char} {count value : Nat} (run : DigitRun 10 text count value)
      (few : count ≤ digitLimit) : DecimalRun text value

/-- A run of digits behind the mark of its base, with or without an underscore between them. -/
inductive MarkedRun : List Char → Nat → Prop
  | direct {marker : Char} {base : Nat} {text : List Char} {count value : Nat}
      (marks : (marker, base) ∈ baseMarks) (run : DigitRun base text count value) :
      MarkedRun ('0' :: marker :: text) value
  | separated {marker : Char} {base : Nat} {text : List Char} {count value : Nat}
      (marks : (marker, base) ∈ baseMarks) (run : DigitRun base text count value) :
      MarkedRun ('0' :: marker :: '_' :: text) value

/-- A sign or none, in front of what spells the magnitude. -/
inductive Signed (spells : List Char → Nat → Prop) : List Char → Int → Prop
  | unsigned {text : List Char} {magnitude : Nat} (run : spells text magnitude) :
      Signed spells text magnitude
  | plus {text : List Char} {magnitude : Nat} (run : spells text magnitude) :
      Signed spells ('+' :: text) magnitude
  | minus {text : List Char} {magnitude : Nat} (run : spells text magnitude) :
      Signed spells ('-' :: text) (-magnitude)

/-- What spells an integer, between blanks. -/
inductive Padded (spells : List Char → Int → Prop) : List Char → Int → Prop
  | blanks {left text right : List Char} {value : Int}
      (opening : ∀ character ∈ left, isBlank character = true)
      (closing : ∀ character ∈ right, isBlank character = true) (core : spells text value) :
      Padded spells (left ++ (text ++ right)) value

def DecimalSpelling : List Char → Int → Prop :=
  Padded (Signed DecimalRun)

def MarkedSpelling : List Char → Int → Prop :=
  Padded (Signed MarkedRun)

/-! ### Every integer can be spelled -/

theorem digitOf_digitChar {digit : Nat} (small : digit < 16) :
    DigitOf (Nat.digitChar digit) digit := by
  by_cases decimal : digit < 10
  · have table : ∀ digit < 10, decimalDigit? (Nat.digitChar digit) = some digit := by decide
    exact .decimal (table digit decimal)
  · have table : ∀ place < 6, Nat.digitChar (10 + place) = Char.ofNat ('a'.toNat + place) := by
      decide
    obtain ⟨place, rfl⟩ := Nat.exists_eq_add_of_le (Nat.le_of_not_lt decimal)
    rw [table place (by omega)]
    exact .small (by omega)

/-- A digit more at the end makes the number as many times as large as the base says. -/
theorem DigitRun.snoc {base count value digit : Nat} {text : List Char} {character : Char}
    (run : DigitRun base text count value) (stands : DigitOf character digit)
    (small : digit < base) :
    DigitRun base (text ++ [character]) (count + 1) (value * base + digit) := by
  have moved (first count value : Nat) :
      (first * Nat.pow base count + value) * base + digit =
        first * Nat.pow base (count + 1) + (value * base + digit) := by
    have power : Nat.pow base (count + 1) = Nat.pow base count * base := rfl
    rw [power, Nat.add_mul, Nat.mul_assoc, Nat.add_assoc]
  induction run with
  | last opens few =>
      have two := DigitRun.next opens few (.last stands small)
      rwa [show Nat.pow base 1 = base from Nat.pow_one base] at two
  | next opens few run previous =>
      rw [moved]
      exact .next opens few previous
  | separated opens few run previous =>
      rw [moved]
      exact .separated opens few previous

theorem digitRun_toDigits {base : Nat} (several : 1 < base) (few : base ≤ 16) (value : Nat) :
    DigitRun base (Nat.toDigits base value) (Nat.toDigits base value).length value := by
  induction value using Nat.strongRecOn with
  | ind value previous =>
      by_cases single : value < base
      · rw [Nat.toDigits_of_lt_base single]
        exact .last (digitOf_digitChar (by omega)) single
      · have above : base ≤ value := Nat.le_of_not_lt single
        have fewer : value / base < value := Nat.div_lt_self (by omega) several
        have rest : value % base < base := Nat.mod_lt value (by omega)
        have whole := (previous (value / base) fewer).snoc (digitOf_digitChar (by omega)) rest
        rw [Nat.div_add_mod'] at whole
        rw [Nat.toDigits_of_base_le several above, List.length_append]
        exact whole

/-- A minus in front of the magnitude if the integer is negative, and else the magnitude alone. -/
theorem signed_natAbs {spells : List Char → Nat → Prop} {text : List Char} {value : Int}
    (run : spells text value.natAbs) :
    Signed spells (if value < 0 then '-' :: text else text) value := by
  split
  · next negative =>
      have signed := Signed.minus run
      rwa [show -(value.natAbs : Int) = value by omega] at signed
  · next nonnegative =>
      have signed := Signed.unsigned run
      rwa [show (value.natAbs : Int) = value by omega] at signed

theorem padded_of_core {spells : List Char → Int → Prop} {text : List Char} {value : Int}
    (core : spells text value) : Padded spells text value := by
  have padded := @Padded.blanks spells [] text [] value nofun nofun core
  rwa [List.nil_append, List.append_nil] at padded

/-- The numeral of an integer is a decimal spelling of it, if it is short enough. -/
theorem decimalSpelling_decimal {value : Int}
    (short : (Nat.toDigits 10 value.natAbs).length ≤ digitLimit) :
    DecimalSpelling (decimal value) value :=
  padded_of_core (signed_natAbs
    (.short (digitRun_toDigits (by decide) (by decide) value.natAbs) short))

/-- Every mark opens a spelling of every integer. -/
theorem markedSpelling_toDigits {marker : Char} {base : Nat} (marks : (marker, base) ∈ baseMarks)
    (value : Int) :
    let digits := '0' :: marker :: Nat.toDigits base value.natAbs
    MarkedSpelling (if value < 0 then '-' :: digits else digits) value := by
  have bounds : ∀ mark ∈ baseMarks, 1 < mark.2 ∧ mark.2 ≤ 16 := by decide
  obtain ⟨several, few⟩ := bounds (marker, base) marks
  exact padded_of_core (signed_natAbs (.direct marks (digitRun_toDigits several few value.natAbs)))

end Accumulator.Numeral
