import Accumulator.Binary64.Basic

set_option autoImplicit false

/-!
Shortest decimal digits. The reals that round to a number form an interval around it, which holds
its ends exactly when the significand is even. Of the decimal grids, coarse to fine, the first one
with a point in the interval is taken, and on it the point nearest to the number; seventeen digits
always suffice.
-/

namespace Accumulator.Binary64

/-- A decimal `0.d₁d₂… * 10 ^ point`, with `digits` the numeral `d₁d₂…`. -/
structure ShortDecimal where
  digits : List Char
  point : Int
  deriving DecidableEq, Repr

/-- The interval of reals that round to a positive number, over a common denominator. -/
structure Neighbourhood where
  value : Nat
  low : Nat
  high : Nat
  denominator : Nat
  closed : Bool

/-- Below a power of two the numbers are twice as dense as above it. -/
def neighbourhood (significand : Nat) (exponent : Int) : Neighbourhood :=
  let (factor, denominator) := magnitudeFraction 1 (exponent - 2)
  let below := if significand = leadingUnit ∧ leastExponent < exponent then 1 else 2
  { value := 4 * significand * factor
    low := (4 * significand - below) * factor
    high := (4 * significand + 2) * factor
    denominator := denominator
    closed := significand % 2 == 0 }

def Neighbourhood.holds (near : Neighbourhood) (numerator denominator : Nat) : Bool :=
  let point := numerator * near.denominator
  if near.closed then near.low * denominator ≤ point && point ≤ near.high * denominator
  else near.low * denominator < point && point < near.high * denominator

/-- The number of digits before the point; negative for zeros right after it. -/
def Neighbourhood.point (near : Neighbourhood) : Int :=
  let estimate : Int :=
    (Nat.toDigits 10 near.value).length - (Nat.toDigits 10 near.denominator).length
  let (scaled, unit) := scaleDown 10 near.value near.denominator estimate
  if unit ≤ scaled then estimate + 1 else estimate

/-- The better of the two neighbours of the number on the grid of multiples of `10 ^ power`. -/
def Neighbourhood.onGrid? (near : Neighbourhood) (power : Int) : Option Nat :=
  let (scaled, unit) := scaleDown 10 near.value near.denominator power
  let (step, parts) := scaleDown 10 1 1 (-power)
  let floor := scaled / unit
  let remainder := scaled % unit
  let holds (count : Nat) : Bool := near.holds (count * step) parts
  let upperIsNearer :=
    unit < 2 * remainder || (unit == 2 * remainder && floor % 2 == 1)
  match holds floor, holds (floor + 1) with
  | true, true => some (if upperIsNearer then floor + 1 else floor)
  | true, false => some floor
  | false, true => some (floor + 1)
  | false, false => none

def significantDigits (count : Nat) : List Char :=
  ((Nat.toDigits 10 count).reverse.dropWhile (· == '0')).reverse

/-- Tries grids of one digit more each time. -/
def Neighbourhood.search (near : Neighbourhood) (point : Int) : Nat → Nat → ShortDecimal
  | 0, _ => ⟨[], point⟩
  | attempts + 1, length =>
    let power := point - length
    match near.onGrid? power with
    | some count =>
      ⟨significantDigits count, (Nat.toDigits 10 count).length + power⟩
    | none => near.search point attempts (length + 1)

/-- The shortest decimal that reads back as the positive number `significand * 2 ^ exponent`. -/
def shortest (significand : Nat) (exponent : Int) : ShortDecimal :=
  let near := neighbourhood significand exponent
  near.search near.point 17 1

end Accumulator.Binary64
