import Accumulator.Fault
import Accumulator.Instruction.Opcode
import Accumulator.Number.Basic

set_option autoImplicit false

/-!
Arithmetic on numbers of both kinds. Integers stay exact. As soon as a real number takes part the
other number is made real too, which an integer past the greatest real number cannot be. Magnitudes
cannot be divided by zero, so the quotient looks at its divisor first.
-/

namespace Accumulator.Number

def toReal : Number → Except Fault Binary64
  | .real value => .ok value
  | .int value =>
    match Binary64.ofInt? value with
    | some number => .ok number
    | none => .error .overflow

/-- An operation on two integers, or on two reals as soon as one of the numbers is real. -/
def combine
    (onIntegers : Int → Int → Int) (onReals : Binary64 → Binary64 → Binary64) :
    Number → Number → Except Fault Number
  | .int left, .int right => .ok (.int (onIntegers left right))
  | left, right => do
    let first ← left.toReal
    let second ← right.toReal
    pure (.real (onReals first second))

def magnitude : Number → Number
  | .int value => .int value.natAbs
  | .real value => .real value.magnitude

def negate : Number → Number
  | .int value => .int (-value)
  | .real value => .real value.negate

/-- The quotient of two magnitudes, rounded down. By zero there is none. -/
def floorDivide : Number → Number → Except Fault Number
  | .int dividend, .int divisor =>
    if divisor = 0 then .error .divisionByZero else .ok (.int (dividend.fdiv divisor))
  | left, right => do
    let dividend ← left.toReal
    let divisor ← right.toReal
    if divisor.isZero then .error .divisionByZero
    else pure (.real (dividend.wholeQuotient divisor))

/-- The quotient cut toward zero: that of the magnitudes, negative if just one of the numbers is
below zero. A quotient by zero of either kind is the integer zero. -/
def divide (dividend divisor : Number) : Except Fault Number :=
  if divisor.isZero then .ok (.int 0)
  else do
    let quotient ← dividend.magnitude.floorDivide divisor.magnitude
    pure (if dividend.isBelow 0 = divisor.isBelow 0 then quotient else quotient.negate)

def apply : Arithmetic → Number → Number → Except Fault Number
  | .add => combine (· + ·) Binary64.add
  | .subtract => combine (· - ·) Binary64.subtract
  | .multiply => combine (· * ·) Binary64.multiply
  | .divide => divide

theorem floorDivide_int (dividend : Int) {divisor : Int} (nonzero : divisor ≠ 0) :
    floorDivide (.int dividend) (.int divisor) = .ok (.int (dividend.fdiv divisor)) :=
  if_neg nonzero

/-- The guard for a zero divisor comes first, so the division of two integers never fails. -/
theorem divide_int (dividend divisor : Int) :
    divide (.int dividend) (.int divisor) = .ok (.int (Arithmetic.quotient dividend divisor)) := by
  by_cases zero : divisor = 0
  · rw [zero, Arithmetic.quotient_zero]
    rfl
  · have guarded : ¬(Number.int divisor).isZero = true := by
      rw [isZero, beq_iff_eq]
      exact zero
    have apart : ((divisor.natAbs : Nat) : Int) ≠ 0 := by omega
    have counted : Int.fdiv (dividend.natAbs : Nat) (divisor.natAbs : Nat) =
        ((dividend.natAbs / divisor.natAbs : Nat) : Int) :=
      (Int.ofNat_fdiv dividend.natAbs divisor.natAbs).symm
    rw [divide, if_neg guarded, magnitude, magnitude, floorDivide_int _ apart, counted,
      Arithmetic.quotient, if_neg zero]
    dsimp only [bind, Except.bind, pure, Except.pure]
    by_cases alike : (Number.int dividend).isBelow 0 = (Number.int divisor).isBelow 0
    · have same : decide (dividend < 0) = decide (divisor < 0) := alike
      rw [if_pos alike, if_pos same]
    · have other : ¬decide (dividend < 0) = decide (divisor < 0) := alike
      rw [if_neg alike, if_neg other, negate]

theorem apply_int (function : Arithmetic) (left right : Int) :
    apply function (.int left) (.int right) = .ok (.int (function.apply left right)) := by
  cases function with
  | divide => exact divide_int left right
  | _ => rfl

end Accumulator.Number
