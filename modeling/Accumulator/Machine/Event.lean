import Accumulator.Machine.State

set_option autoImplicit false

/-!
Events: what one transition of the machine did, and the trace line that reports it.
-/

namespace Accumulator

inductive Event
  /-- The machine had halted before, so nothing happened. -/
  | rest
  | fetched (pc : Number) (cell : Cell)
  | decoded (instruction : Call)
  | loaded (value : Cell)
  | loadedFrom (address : Nat) (value : Int)
  | stored (value : Cell) (address : Nat)
  | computed (function : Arithmetic) (operand : Number) (result : Cell)
  | computedFrom (function : Arithmetic) (address : Nat) (operand : Int) (result : Cell)
  | jumped (condition : Condition) (target : Number)
  | notTaken (condition : Condition)
  | emitted (value : Cell)
  | nothing
  | halted
  /-- A number was met as code. -/
  | passedData (word : Cell)
  | rejected (source : String)
  deriving DecidableEq, Repr

namespace Event

def cellAt (address : Nat) : String :=
  "[" ++ Numeral.text address ++ "]"

def divisionNote (function : Arithmetic) (divisor : Number) : String :=
  if function = .divide && divisor.isZero then " (÷0)" else ""

def takenNote : Condition → String
  | .always => ""
  | .zero => "(ACC=0) "
  | .nonzero => "(ACC!=0) "

def line : Event → String
  | .rest => "CPU halted"
  | .fetched pc cell => "FETCH @" ++ pc.display ++ ": " ++ cell.display
  | .decoded instruction => "DECODE: " ++ instruction.display
  | .loaded value => "EXEC: LOAD #" ++ value.display ++ " → ACC=" ++ value.display
  | .loadedFrom address value =>
    "EXEC: LOADI " ++ cellAt address ++ " → ACC=" ++ Numeral.describe value
  | .stored value address =>
    "EXEC: STORE ACC(" ++ value.display ++ ") → " ++ cellAt address
  | .computed function operand result =>
    "EXEC: " ++ (Opcode.arithmetic function .immediate).name ++ " #" ++
      operand.display ++ divisionNote function operand ++ " → ACC=" ++ result.display
  | .computedFrom function address operand result =>
    "EXEC: " ++ (Opcode.arithmetic function .direct).name ++ " " ++ cellAt address ++ "=" ++
      Numeral.describe operand ++ divisionNote function (.int operand) ++ " → ACC=" ++
      result.display
  | .jumped condition target =>
    "EXEC: " ++ condition.name ++ " " ++ takenNote condition ++ "→ PC=" ++ target.display
  | .notTaken condition => "EXEC: " ++ condition.name ++ " (not taken)"
  | .emitted value => "EXEC: OUT → " ++ value.display
  | .nothing => "EXEC: NOP"
  | .halted => "EXEC: HLT (CPU halted)"
  | .passedData word => "EXEC: DATA " ++ word.display ++ " (no effect)"
  | .rejected source => "ERROR: invalid instruction '" ++ source ++ "'"

def addresses : Event → List Number
  | .fetched pc _ => [pc]
  | .loadedFrom address _ => [.int address]
  | .stored _ address => [.int address]
  | .computedFrom _ address _ _ => [.int address]
  | .jumped _ target => [target]
  | _ => []

end Event

end Accumulator
