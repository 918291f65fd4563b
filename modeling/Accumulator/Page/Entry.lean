import Accumulator.Cell
import Accumulator.Fault

set_option autoImplicit false

/-!
What a user enters. An input component holds any cell, so every use of one says which entries it
takes and what it makes of them.
-/

namespace Accumulator.Page

/-- Entries that count as not given: nothing, empty text, zero and a lowered flag. -/
def isGiven : Cell → Bool
  | .absent => false
  | .text content => !content.isEmpty
  | .int value => value != 0
  | .real value => !value.isZero
  | .flag value => value

/-- An entered integer: reals lose their fraction and text has to be a decimal literal. -/
def integerOf : Cell → Except Fault Int
  | .absent => .error .notNumeric
  | .int value => .ok value
  | .flag value => .ok (if value then 1 else 0)
  | .text content =>
    match Numeral.decimalLiteral? content.toList with
    | some value => .ok value
    | none => .error .badNumeral
  | .real .nan => .error .badNumeral
  | .real (.infinite _) => .error .overflow
  | .real (.finite negative significand exponent) =>
    .ok ((Binary64.finite negative significand exponent).truncate?.getD 0)

/-- An entered integer, with a value for when none is given. -/
def integerOr (fallback : Int) (entry : Cell) : Except Fault Int :=
  if isGiven entry then integerOf entry else .ok fallback

/-- An entered real number: integers have to be in range and text has to be a real literal. -/
def realOf : Cell → Except Fault Binary64
  | .absent => .error .notNumeric
  | .real value => .ok value
  | .int value =>
    match Binary64.ofInt? value with
    | some number => .ok number
    | none => .error .overflow
  | .flag value => .ok (Binary64.ofFraction false (if value then 1 else 0) 1)
  | .text content =>
    match Binary64.ofText? content.toList with
    | some number => .ok number
    | none => .error .badNumeral

def textOf : Cell → Except Fault String
  | .text content => .ok content
  | _ => .error .wrongKind

end Accumulator.Page
