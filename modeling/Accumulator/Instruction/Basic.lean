import Accumulator.Cell
import Accumulator.Instruction.Opcode

set_option autoImplicit false

/-!
Instructions and how they are shown. An operation carries exactly the operand that its opcode
needs. A call is an instruction as a caller may spell it: any name, and an operand or none.
-/

namespace Accumulator

/-- Addresses are signed and unbounded here; the machine clamps them into its memory. -/
inductive Operation
  | nop
  | halt
  | output
  | load (mode : Mode) (operand : Int)
  | store (address : Int)
  | arithmetic (function : Arithmetic) (mode : Mode) (operand : Int)
  | jump (condition : Condition) (address : Int)
  | data (word : Number)
  | invalid
  deriving DecidableEq, Repr

/-- A decoded cell: the operation, and the text that it was decoded from. -/
structure Instruction where
  operation : Operation
  source : String := ""
  deriving DecidableEq, Repr

structure Call where
  name : String
  operand : Option Number := none
  source : String := ""
  deriving DecidableEq, Repr

namespace Operation

def opcode : Operation → Opcode
  | .nop => .nop
  | .halt => .halt
  | .output => .output
  | .load mode _ => .load mode
  | .store _ => .store
  | .arithmetic function mode _ => .arithmetic function mode
  | .jump condition _ => .jump condition
  | .data _ => .data
  | .invalid => .invalid

def operand? : Operation → Option Number
  | .load _ operand => some (.int operand)
  | .store address => some (.int address)
  | .arithmetic _ _ operand => some (.int operand)
  | .jump _ address => some (.int address)
  | .data word => some word
  | _ => none

/-- The address of the cell that an operation reads, writes or continues at. -/
def address? : Operation → Option Int
  | .load .direct address => some address
  | .store address => some address
  | .arithmetic _ .direct address => some address
  | .jump _ address => some address
  | _ => none

/-- The operation of an opcode; opcodes that need no operand drop it. -/
def ofOpcode (operand : Int) : Opcode → Operation
  | .nop => .nop
  | .halt => .halt
  | .output => .output
  | .load mode => .load mode operand
  | .store => .store operand
  | .arithmetic function mode => .arithmetic function mode operand
  | .jump condition => .jump condition operand
  | .data => .data (.int operand)
  | .invalid => .invalid

@[simp]
theorem opcode_ofOpcode (operand : Int) (opcode : Opcode) :
    (ofOpcode operand opcode).opcode = opcode := by
  cases opcode <;> rfl

end Operation

/-- The name and the operand if there is one; text that is no instruction is shown whole. -/
def Call.display (call : Call) : String :=
  if call.name = Opcode.invalid.name then call.name ++ " (" ++ call.source ++ ")"
  else
    match call.operand with
    | none => call.name
    | some operand => call.name ++ " " ++ operand.display

namespace Instruction

def toCall (instruction : Instruction) : Call :=
  { name := instruction.operation.opcode.name
    operand := instruction.operation.operand?
    source := instruction.source }

def display (instruction : Instruction) : String :=
  instruction.toCall.display

end Instruction

end Accumulator
