import Accumulator.Binary64.Basic

set_option autoImplicit false

/-!
Arithmetic on real numbers of double precision. Sums and products of finite numbers are the exact
ones, rounded once. A sum that cancels is the positive zero unless both summands are negative
zeros; a zero product has the sign that the signs of its factors give.
-/

namespace Accumulator.Binary64

open Numeral (applySign)

def isBelow (number : Binary64) (bound : Int) : Bool :=
  match number with
  | .nan => false
  | .infinite negative => negative
  | .finite negative significand exponent =>
    let (numerator, denominator) := magnitudeFraction significand exponent
    applySign negative numerator < bound * denominator

def isAbove (number : Binary64) (bound : Int) : Bool :=
  match number with
  | .nan => false
  | .infinite negative => !negative
  | .finite negative significand exponent =>
    let (numerator, denominator) := magnitudeFraction significand exponent
    bound * denominator < applySign negative numerator

def negate : Binary64 → Binary64
  | .nan => .nan
  | .infinite negative => .infinite (!negative)
  | .finite negative significand exponent => .finite (!negative) significand exponent

def magnitude : Binary64 → Binary64
  | .nan => .nan
  | .infinite _ => .infinite false
  | .finite _ significand exponent => .finite false significand exponent

/-- The number nearest to `total * 2 ^ exponent`; a zero total takes the given sign. -/
def ofScaled (negativeZero : Bool) (total : Int) (exponent : Int) : Binary64 :=
  let (numerator, denominator) := magnitudeFraction total.natAbs exponent
  ofFraction (if total = 0 then negativeZero else total < 0) numerator denominator

def add : Binary64 → Binary64 → Binary64
  | .nan, _ => .nan
  | _, .nan => .nan
  | .infinite left, .infinite right => if left = right then .infinite left else .nan
  | .infinite left, .finite _ _ _ => .infinite left
  | .finite _ _ _, .infinite right => .infinite right
  | .finite leftSign leftPart leftExponent, .finite rightSign rightPart rightExponent =>
    let exponent := min leftExponent rightExponent
    let scaled (negative : Bool) (part : Nat) (own : Int) : Int :=
      applySign negative (part * Nat.pow 2 (own - exponent).toNat)
    ofScaled (leftSign && rightSign)
      (scaled leftSign leftPart leftExponent + scaled rightSign rightPart rightExponent) exponent

def subtract (left right : Binary64) : Binary64 :=
  left.add right.negate

def multiply : Binary64 → Binary64 → Binary64
  | .nan, _ => .nan
  | _, .nan => .nan
  | .infinite left, .infinite right => .infinite (left != right)
  | .infinite left, .finite right part _ => if part = 0 then .nan else .infinite (left != right)
  | .finite left part _, .infinite right => if part = 0 then .nan else .infinite (left != right)
  | .finite leftSign leftPart leftExponent, .finite rightSign rightPart rightExponent =>
    let (numerator, denominator) :=
      magnitudeFraction (leftPart * rightPart) (leftExponent + rightExponent)
    ofFraction (leftSign != rightSign) numerator denominator

/-- The integer nearest to a number; a half goes down. -/
def snap : Binary64 → Binary64
  | .finite negative significand exponent =>
    let (numerator, denominator) := magnitudeFraction significand exponent
    let floor := numerator / denominator
    let nearest := if denominator < 2 * (numerator % denominator) then floor + 1 else floor
    ofFraction negative nearest 1
  | other => other

/-- How many times a positive divisor fits into a number that is not negative. The multiple of the
divisor that fits is rounded, divided with rounding, and moved to the nearest integer. An infinite
number has no such count. -/
def wholeQuotient : Binary64 → Binary64 → Binary64
  | .finite _ part exponent, .finite _ divisorPart divisorExponent =>
    let (numerator, denominator) := magnitudeFraction part exponent
    let (divisorNumerator, divisorDenominator) := magnitudeFraction divisorPart divisorExponent
    let count := numerator * divisorDenominator / (denominator * divisorNumerator)
    match ofFraction false (count * divisorNumerator) divisorDenominator with
    | .finite _ fittingPart fittingExponent =>
      let (fitting, unit) := magnitudeFraction fittingPart fittingExponent
      snap (ofFraction false (fitting * divisorDenominator) (unit * divisorNumerator))
    | other => other
  | .finite _ _ _, .infinite _ => .finite false 0 leastExponent
  | _, _ => .nan

end Accumulator.Binary64
