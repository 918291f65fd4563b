import Accumulator.Machine.Event

set_option autoImplicit false

/-!
The transition function. An instruction takes three steps: fetch latches the cell at the program
counter into the instruction register, decode only reports what it is, and execute applies its
operation. A halted machine never moves again. Every step is defined for every state.
-/

namespace Accumulator

namespace State

def operandValue (state : State) (mode : Mode) (operand : Int) : Int :=
  match mode with
  | .immediate => operand
  | .direct => (state.read operand).word

/-- The effect of an operation on everything but the phase and the count of cycles. -/
def apply (state : State) : Operation → State
  | .nop => state.advance
  | .halt => { state with halted := true }
  | .output => (state.emit state.acc).advance
  | .load mode operand => { state with acc := state.operandValue mode operand }.advance
  | .store address => (state.write address (.int state.acc)).advance
  | .arithmetic function mode operand =>
    { state with acc := function.apply state.acc (state.operandValue mode operand) }.advance
  | .jump condition address =>
    if condition.holds state.acc then state.jumpTo address else state.advance
  | .data _ => state.advance
  | .invalid => { state with halted := true }

def report (state : State) (instruction : Instruction) : Event :=
  match instruction.operation with
  | .nop => .nothing
  | .halt => .halted
  | .output => .emitted (.int state.acc)
  | .load .immediate operand => .loaded (.int operand)
  | .load .direct operand =>
    .loadedFrom (state.clampAddress operand) (state.operandValue .direct operand)
  | .store address => .stored (.int state.acc) (state.clampAddress address)
  | .arithmetic function .immediate operand =>
    .computed function (.int operand) (.int (function.apply state.acc operand))
  | .arithmetic function .direct operand =>
    let value := state.operandValue .direct operand
    .computedFrom function (state.clampAddress operand) value
      (.int (function.apply state.acc value))
  | .jump condition address =>
    if condition.holds state.acc then .jumped condition (.int (state.clampAddress address))
    else .notTaken condition
  | .data word => .passedData (.number word)
  | .invalid => .rejected instruction.source

def execute (state : State) (instruction : Instruction) : State :=
  let applied := state.apply instruction.operation
  { applied with cycles := applied.cycles + 1 }

/-- What fetch latches for a cell: blank cells are taken for the instruction without effect. -/
def latch (cell : Cell) : Cell :=
  if cell.isBlank then .text Opcode.nop.name else cell

def step (state : State) : State × Event :=
  if state.halted then (state, .rest)
  else
    match state.phase with
    | .idle | .execute =>
      let cell := latch (state.read state.pc)
      ({ state with ir := cell, phase := .fetch }, .fetched (.int state.pc) cell)
    | .fetch => ({ state with phase := .decode }, .decoded (decode state.ir).toCall)
    | .decode =>
      let instruction := decode state.ir
      ({ state.execute instruction with phase := .execute }, state.report instruction)

def next (state : State) : State :=
  state.step.1

def after (state : State) : Nat → State
  | 0 => state
  | count + 1 => state.next.after count

end State

end Accumulator
