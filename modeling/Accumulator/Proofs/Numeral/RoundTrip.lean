import Accumulator.Proofs.Numeral.Reading

set_option autoImplicit false

/-!
Numerals are read as the integers that they were written for. The numeral of an integer is a run of
decimal digits of ASCII after at most one sign, and so it is one of the spellings of the integer.
-/

namespace Accumulator

namespace Numeral

open Text (Visible visible_cons)

theorem decimal_ne_nil (value : Int) : decimal value ≠ [] := by
  unfold decimal
  split
  · exact List.cons_ne_nil '-' _
  · exact Nat.toDigits_ne_nil

theorem visible_decimal (value : Int) : Visible (decimal value) := by
  have run := digitRun_toDigits (show 1 < 10 by decide) (by decide) value.natAbs
  unfold decimal
  split
  · exact visible_cons (by decide) run.visible
  · exact run.visible

theorem sign_or_digit_of_mem_decimal {value : Int} {character : Char}
    (inside : character ∈ decimal value) : character = '-' ∨ character.isDigit = true := by
  have digits {other : Char} (among : other ∈ Nat.toDigits 10 value.natAbs) :
      other.isDigit = true :=
    Nat.isDigit_of_mem_toDigits (by decide) (by decide) among
  unfold decimal at inside
  split at inside
  · exact (List.mem_cons.mp inside).imp_right digits
  · exact .inr (digits inside)

end Numeral

/-- A numeral within the limit is a token for its integer. -/
theorem wordOfToken?_decimal {value : Int} (short : Numeral.hasDecimal value = true) :
    wordOfToken? (Numeral.decimal value) = some value :=
  wordOfToken?_of_decimalSpelling
    (Numeral.decimalSpelling_decimal ((Numeral.hasDecimal_iff value).mp short))

end Accumulator
