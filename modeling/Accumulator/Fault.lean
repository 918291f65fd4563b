import Accumulator.Numeral.Decimal

set_option autoImplicit false

/-!
The ways in which an operation can fail, named by cause.
-/

namespace Accumulator

inductive Fault
  | capacity (required : Nat) (memorySize : Int)
  | stepLimit (limit : Int)
  | frozen
  | alreadyRegistered (key : String)
  | unknownOpcode (name : String)
  /-- An integer has more digits than a numeral may have. -/
  | tooManyDigits
  /-- A text is no literal of the number that is asked for. -/
  | badNumeral
  /-- A number is past the range of the type that is asked for. -/
  | overflow
  /-- A memory or a text would be too large to be provided. -/
  | noRoom
  | outOfMemory
  /-- A number is needed where there is none. -/
  | notNumeric
  | divisionByZero
  /-- A value of another kind is needed. -/
  | wrongKind
  /-- A parameter is used that was given no value. -/
  | noValue
  | directory
  | nameTooLong
  deriving DecidableEq, Repr

namespace Fault

/-- The wording of a fault that has one of its own. -/
def message? : Fault → Option String
  | .capacity required memorySize =>
    some ("Program and data need " ++ Numeral.text required ++ " cells but memory has " ++
      Numeral.text memorySize)
  | .stepLimit limit => some ("Max steps (" ++ Numeral.text limit ++ ") exceeded")
  | .frozen => some "Cannot register primitives: registry is frozen"
  | .alreadyRegistered key => some ("Primitive already registered: " ++ key)
  | .unknownOpcode name => some ("Unknown opcode: " ++ name)
  | _ => none

def message (fault : Fault) : String :=
  fault.message?.getD ""

/-- A fault that mentions an integer cannot be worded when the integer is too long. -/
def mentioning (value : Int) (fault : Fault) : Fault :=
  if Numeral.hasDecimal value then fault else .tooManyDigits

end Fault

end Accumulator
