import Accumulator.Numeral.Scientific

set_option autoImplicit false

/-!
Real numbers of double precision, as exact data. A finite number is `significand * 2 ^ exponent`
in its one normal form: the significand has 53 binary digits, or fewer when the exponent is the
least one. Every result is the exact one rounded to the nearest number, ties to an even significand.
-/

namespace Accumulator

inductive Binary64
  | nan
  | infinite (negative : Bool)
  | finite (negative : Bool) (significand : Nat) (exponent : Int)
  deriving DecidableEq, Repr

namespace Binary64

open Numeral (Scientific applySign)

/-- Significands of normal numbers lie between this power of two and its double. -/
def leadingUnit : Nat := 0x10000000000000

def leastExponent : Int := -1074

def greatestExponent : Int := 971

/-- A quotient rounded to the nearest integer, ties to the even one. -/
def roundQuotient (numerator denominator : Nat) : Nat :=
  let floor := numerator / denominator
  let remainder := numerator % denominator
  if 2 * remainder < denominator then floor
  else if denominator < 2 * remainder then floor + 1
  else floor + floor % 2

/-- The fraction `numerator / (denominator * base ^ power)`, without a negative power. -/
def scaleDown (base numerator denominator : Nat) (power : Int) : Nat × Nat :=
  match power with
  | .ofNat up => (numerator, denominator * base.pow up)
  | .negSucc down => (numerator * base.pow (down + 1), denominator)

/-- The exponent that leaves a positive fraction 53 binary digits, within the range. -/
def fittingExponent (numerator denominator : Nat) : Int :=
  let estimate : Int := numerator.log2 - denominator.log2
  let (scaled, unit) := scaleDown 2 numerator denominator estimate
  let exponent := if unit ≤ scaled then estimate - 52 else estimate - 53
  max leastExponent exponent

/-- The number nearest to a fraction; magnitudes past the greatest number become infinite. -/
def ofFraction (negative : Bool) (numerator denominator : Nat) : Binary64 :=
  if numerator = 0 then .finite negative 0 leastExponent
  else
    let exponent := fittingExponent numerator denominator
    let (scaled, unit) := scaleDown 2 numerator denominator exponent
    let rounded := roundQuotient scaled unit
    let (significand, exponent) :=
      if rounded = 2 * leadingUnit then (leadingUnit, exponent + 1) else (rounded, exponent)
    if greatestExponent < exponent then .infinite negative
    else .finite negative significand exponent

/-- Decimals with more than this many digits before or zeros after the point are out of range. -/
def decimalReach : Int := 400

def ofScientific : Scientific → Binary64
  | .undefined => .nan
  | .infinite negative => .infinite negative
  | .decimal negative significand exponent =>
    let magnitude : Int := exponent + (Nat.toDigits 10 significand).length
    if significand = 0 ∨ magnitude < -decimalReach then .finite negative 0 leastExponent
    else if decimalReach < magnitude then .infinite negative
    else
      let (numerator, denominator) := scaleDown 10 significand 1 (-exponent)
      ofFraction negative numerator denominator

def ofText? (text : List Char) : Option Binary64 :=
  (Numeral.realLiteral? text).map ofScientific

/-- The number nearest to an integer, unless the integer is past the greatest number. -/
def ofInt? (value : Int) : Option Binary64 :=
  match ofFraction (value < 0) value.natAbs 1 with
  | .infinite _ => none
  | number => some number

def magnitudeFraction (significand : Nat) (exponent : Int) : Nat × Nat :=
  scaleDown 2 significand 1 (-exponent)

def divideBy (number : Binary64) (divisor : Nat) : Binary64 :=
  match number with
  | .finite negative significand exponent =>
    let (numerator, denominator) := magnitudeFraction significand exponent
    ofFraction negative numerator (denominator * divisor)
  | other => other

/-- The integer part of a finite number, toward zero. -/
def truncate? : Binary64 → Option Int
  | .finite negative significand exponent =>
    let (numerator, denominator) := magnitudeFraction significand exponent
    some (applySign negative (numerator / denominator))
  | _ => none

def isZero : Binary64 → Bool
  | .finite _ significand _ => significand == 0
  | _ => false

end Binary64

end Accumulator
