import Accumulator.Binary64.Arithmetic
import Accumulator.Binary64.Layout

set_option autoImplicit false

/-!
Numbers: integers of any size, and real numbers of double precision. Integers and reals compare by
their exact values.
-/

namespace Accumulator

inductive Number
  | int (value : Int)
  | real (value : Binary64)
  deriving DecidableEq, Repr

namespace Number

/-- A number as it is shown; an integer past the digit limit is shown by its size. -/
def display : Number → String
  | .int value => Numeral.describe value
  | .real value => value.text

def hasText : Number → Bool
  | .int value => Numeral.hasDecimal value
  | .real _ => true

def isZero : Number → Bool
  | .int value => value == 0
  | .real value => value.isZero

def isBelow (number : Number) (bound : Int) : Bool :=
  match number with
  | .int value => value < bound
  | .real value => value.isBelow bound

def isAbove (number : Number) (bound : Int) : Bool :=
  match number with
  | .int value => bound < value
  | .real value => value.isAbove bound

/-- Zero or more; not the undefined number. -/
def isNonnegative (number : Number) : Bool :=
  number.isZero || number.isAbove 0

def successor : Number → Number
  | .int value => .int (value + 1)
  | .real value => .real (value.add (Binary64.ofFraction false 1 1))

end Number

end Accumulator
