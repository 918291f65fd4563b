set_option autoImplicit false

/-!
Decimal numerals of integers. Numerals longer than `digitLimit` digits are refused in both
directions, written and read; an integer beyond the limit is described by its size instead.
-/

namespace Accumulator.Numeral

/-- The longest numeral, in digits without the sign, that is written or read. -/
def digitLimit : Nat := 4300

def decimalBound : Nat := Nat.pow 10 digitLimit

def decimal (value : Int) : List Char :=
  if value < 0 then '-' :: Nat.toDigits 10 value.natAbs else Nat.toDigits 10 value.natAbs

def text (value : Int) : String :=
  String.ofList (decimal value)

def hasDecimal (value : Int) : Bool :=
  value.natAbs < decimalBound

def decimal? (value : Int) : Option String :=
  if hasDecimal value then some (text value) else none

def bitLength (value : Int) : Nat :=
  if value = 0 then 0 else value.natAbs.log2 + 1

/-- The numeral within the limit, and otherwise the size in binary digits. -/
def describe (value : Int) : String :=
  match decimal? value with
  | some numeral => numeral
  | none => "<" ++ text (bitLength value) ++ "-bit int>"

theorem toList_text (value : Int) : (text value).toList = decimal value :=
  String.toList_ofList

theorem hasDecimal_iff (value : Int) :
    hasDecimal value = true ↔ (Nat.toDigits 10 value.natAbs).length ≤ digitLimit := by
  rw [Nat.length_toDigits_le_iff (by decide) (by decide)]
  unfold hasDecimal decimalBound
  rw [decide_eq_true_iff, Nat.pow_eq]

theorem decimal?_eq_some {value : Int} (short : hasDecimal value = true) :
    decimal? value = some (text value) := by
  simp [decimal?, short]

theorem decimal?_eq_none_iff (value : Int) : decimal? value = none ↔ hasDecimal value = false := by
  simp [decimal?]

theorem describe_of_short {value : Int} (short : hasDecimal value = true) :
    describe value = text value := by
  unfold describe
  rw [decimal?_eq_some short]

theorem describe_of_long {value : Int} (long : hasDecimal value = false) :
    describe value = "<" ++ text (bitLength value) ++ "-bit int>" := by
  unfold describe
  rw [(decimal?_eq_none_iff value).mpr long]

end Accumulator.Numeral
