import Accumulator.Machine.Item

set_option autoImplicit false

/-!
Records: machine states as they come from outside, where nothing is promised. A field may hold a
value of the wrong kind, so a record can be checked, shown and changed, and executing it reports a
fault where a state could not fail. A record that passes the check, with integers for its counters,
is the record of a state.
-/

namespace Accumulator

inductive PhaseField
  | known (phase : Phase)
  | unknown (name : String)
  deriving DecidableEq, Repr

def PhaseField.ofName (name : String) : PhaseField :=
  match Phase.ofName? name with
  | some phase => .known phase
  | none => .unknown name

def PhaseField.name : PhaseField → String
  | .known phase => phase.name
  | .unknown name => name

structure Record where
  memory : List Item
  pc : Number
  ir : Item
  acc : Item
  phase : PhaseField
  halted : Bool
  outputs : List Item
  cycles : Number

namespace Record

def ofState (state : State) : Record :=
  { memory := state.memory.toList.map Item.cell
    pc := .int state.pc
    ir := .cell state.ir
    acc := .cell (.int state.acc)
    phase := .known state.phase
    halted := state.halted
    outputs := state.outputs.map fun value => .cell (.int value)
    cycles := .int state.cycles }

def default : Record :=
  ofState (State.initial (emptyMemory defaultMemorySize))

def initial (memory : List Item) : Record :=
  { default with memory := memory }

def size (record : Record) : Nat :=
  record.memory.length

/-! ### Addresses -/

/-- An address moved into the memory. A real address becomes an integer at either end of the memory
and stays real between them; the undefined number goes to the far end. -/
def clampAddress (record : Record) : Number → Number
  | .int address => .int (State.clampInto record.size address)
  | .real address =>
    let highest := record.size - 1
    if address.isBelow highest then
      if address.isAbove 0 then .real address else .int 0
    else .int highest

/-- The index of the cell at an address; a real address between two ends has none. -/
def index (record : Record) (address : Number) : Except Fault Nat :=
  match record.clampAddress address with
  | .int position => .ok position.toNat
  | .real _ => .error .notNumeric

def itemAt (record : Record) (position : Nat) : Item :=
  (record.memory[position]?).getD (.cell .empty)

def read (record : Record) (address : Number) : Except Fault Item :=
  (record.index address).map record.itemAt

def writeAt (record : Record) (position : Nat) (item : Item) : Record :=
  { record with memory := record.memory.set position item }

def write (record : Record) (address : Number) (item : Item) : Except Fault Record :=
  (record.index address).map fun position => record.writeAt position item

def jumpTo (record : Record) (address : Number) : Record :=
  { record with pc := record.clampAddress address }

def advance (record : Record) : Record :=
  record.jumpTo record.pc.successor

def emit (record : Record) (value : Item) : Record :=
  { record with outputs := lastOf outputLimit (record.outputs ++ [value]) }

def completeCycle (record : Record) : Record :=
  { record with cycles := record.cycles.successor }

/-! ### The check -/

def pcInRange (record : Record) : Bool :=
  if record.memory.isEmpty then record.pc.isZero
  else record.pc.isNonnegative && record.pc.isBelow record.size

def accIsInteger (record : Record) : Bool :=
  match record.acc with
  | .cell (.int _) => true
  | _ => false

def phaseIsKnown (record : Record) : Bool :=
  match record.phase with
  | .known _ => true
  | .unknown _ => false

/-- Whether the record describes a machine that can run. -/
def isValid (record : Record) : Bool :=
  record.pcInRange && record.accIsInteger && record.outputs.length ≤ outputLimit &&
    record.memory.all Item.isStorable && record.phaseIsKnown && record.cycles.isNonnegative

/-! ### Showing a record -/

def written (value : Number) : Except Fault Number :=
  if value.hasText then .ok value else .error .tooManyDigits

def knownPhase (record : Record) : Except Fault Phase :=
  match record.phase with
  | .known phase => .ok phase
  | .unknown _ => .error .wrongKind

def line (record : Record) : Except Fault String := do
  let ir ← record.ir.quotedDisplay
  let outputs ← record.outputs.mapM Item.shown
  let cycles ← written record.cycles
  let phase ← record.knownPhase
  let pc ← written record.pc
  let acc ← record.acc.shown
  pure (registerLine cycles phase pc ir acc outputs record.halted)

def snapshot (record : Record) : Except Fault Record :=
  record.knownPhase.map fun _ => record

/-! ### Execution -/

def operandCell (call : Call) : Cell :=
  match call.operand with
  | some operand => .number operand
  | none => .absent

def numberOperand (call : Call) : Except Fault Number :=
  match call.operand with
  | some operand => .ok operand
  | none => .error .notNumeric

def conditionHolds (record : Record) : Condition → Bool
  | .always => true
  | .zero => record.acc.isZero
  | .nonzero => !record.acc.isZero

/-- Puts an item into the accumulator and goes on to the next cell. -/
def accept (record : Record) (value : Item) : Record :=
  { record with acc := value }.advance

def perform [Provision] (opcode : Opcode) (record : Record) (call : Call) :
    Except Fault (Record × Event) :=
  match opcode with
  | .nop => .ok (record.advance, .nothing)
  | .halt => .ok ({ record with halted := true }, .halted)
  | .output => do
    let value ← record.acc.shown
    pure ((record.emit record.acc).advance, .emitted value)
  | .load .immediate =>
    let value := operandCell call
    .ok (record.accept (.cell value), .loaded value)
  | .load .direct => do
    let position ← record.index (← numberOperand call)
    let value := (record.itemAt position).word
    pure (record.accept (.cell (.int value)), .loadedFrom position value)
  | .store => do
    let position ← record.index (← numberOperand call)
    let value ← record.acc.shown
    pure ((record.writeAt position record.acc).advance, .stored value position)
  | .arithmetic function .immediate => do
    let operand ← numberOperand call
    let result ← record.acc.apply function operand
    pure (record.accept result, .computed function operand (← result.shown))
  | .arithmetic function .direct => do
    let position ← record.index (← numberOperand call)
    let operand := (record.itemAt position).word
    let result ← record.acc.apply function (.int operand)
    pure (record.accept result, .computedFrom function position operand (← result.shown))
  | .jump condition =>
    if record.conditionHolds condition then do
      let moved := record.jumpTo (← numberOperand call)
      pure (moved, .jumped condition moved.pc)
    else .ok (record.advance, .notTaken condition)
  | .data => .ok (record.advance, .passedData (operandCell call))
  | .invalid => .ok ({ record with halted := true }, .rejected call.source)

end Record

/-- The trace line of an event, which needs every address that it mentions to be written out. -/
def Event.checkedLine (event : Event) : Except Fault String :=
  if event.addresses.all Number.hasText then .ok event.line else .error .tooManyDigits

end Accumulator
