import Accumulator.Binary64.Shortest

set_option autoImplicit false

/-!
How a real number is written: its shortest digits, laid out around a point when the decimal
exponent is moderate and with an explicit exponent otherwise.
-/

namespace Accumulator.Binary64

/-- The decisions of a layout: the decimal exponents that are written positionally, how many
digits an explicit exponent has at least, and the names of the numbers that have no digits. -/
structure Layout where
  leastPositional : Int
  greatestPositional : Int
  exponentWidth : Nat
  undefinedName : String
  infiniteName : String

/-- Positional from one ten-thousandth up to sixteen digits before the point. -/
def plainLayout : Layout :=
  { leastPositional := -4
    greatestPositional := 15
    exponentWidth := 2
    undefinedName := "nan"
    infiniteName := "inf" }

/-- Digits around the point, with a zero on a side that has none. -/
def positional (decimal : ShortDecimal) : List Char :=
  let count : Int := decimal.digits.length
  if decimal.point ≤ 0 then
    '0' :: '.' :: (List.replicate (-decimal.point).toNat '0' ++ decimal.digits)
  else if count ≤ decimal.point then
    decimal.digits ++ List.replicate (decimal.point - count).toNat '0' ++ ['.', '0']
  else
    decimal.digits.take decimal.point.toNat ++ '.' :: decimal.digits.drop decimal.point.toNat

/-- One digit before the point, and no point when no digit follows it. -/
def exponential (layout : Layout) (decimal : ShortDecimal) : List Char :=
  let power := decimal.point - 1
  let mantissa :=
    match decimal.digits with
    | [] => ['0']
    | [digit] => [digit]
    | digit :: places => digit :: '.' :: places
  let sign := if power < 0 then '-' else '+'
  mantissa ++ 'e' :: sign :: (Nat.toDigits 10 power.natAbs).leftpad layout.exponentWidth '0'

def layOut (layout : Layout) (decimal : ShortDecimal) : List Char :=
  let power := decimal.point - 1
  if layout.leastPositional ≤ power ∧ power ≤ layout.greatestPositional then positional decimal
  else exponential layout decimal

def withSign (negative : Bool) (text : List Char) : List Char :=
  if negative then '-' :: text else text

def write (layout : Layout) : Binary64 → List Char
  | .nan => layout.undefinedName.toList
  | .infinite negative => withSign negative layout.infiniteName.toList
  | .finite negative significand exponent =>
    withSign negative
      (if significand = 0 then layOut layout ⟨['0'], 1⟩
      else layOut layout (shortest significand exponent))

def text (number : Binary64) : String :=
  String.ofList (write plainLayout number)

end Accumulator.Binary64
