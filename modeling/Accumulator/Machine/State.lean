import Accumulator.Instruction.Decode
import Accumulator.Machine.Size
import Accumulator.Text.Column

set_option autoImplicit false

/-!
The state of the machine: one memory for code and data, the registers, the phase of the
instruction cycle and the most recent outputs. Addresses outside the memory are clamped to its
ends, so every read and write of a memory that is not empty meets a cell.
-/

namespace Accumulator

inductive Phase
  | idle
  | fetch
  | decode
  | execute
  deriving DecidableEq, Repr

def Phase.name : Phase → String
  | .idle => "Idle"
  | .fetch => "Fetch"
  | .decode => "Decode"
  | .execute => "Execute"

def Phase.all : List Phase :=
  [.idle, .fetch, .decode, .execute]

def Phase.ofName? (name : String) : Option Phase :=
  Phase.all.find? (·.name == name)

def defaultMemorySize : Nat := 16

def outputLimit : Nat := 50

/-- A memory that was never written; a negative size leaves it without cells. -/
def emptyMemory (size : Int) : List Cell :=
  List.replicate size.toNat Cell.empty

/-- A memory that was never written, if there is one of that size. -/
def emptyMemory? [Provision] (size : Int) : Except Fault (List Cell) :=
  match sizeFault? size with
  | some fault => .error fault
  | none => .ok (emptyMemory size)

/-- The last elements of a list, at most as many as the limit allows. -/
def lastOf {Element : Type} (limit : Nat) (elements : List Element) : List Element :=
  elements.drop (elements.length - limit)

theorem length_lastOf_le {Element : Type} (limit : Nat) (elements : List Element) :
    (lastOf limit elements).length ≤ limit := by
  rw [lastOf, List.length_drop]
  omega

structure Registers where
  pc : Nat := 0
  ir : Cell := .text Opcode.nop.name
  acc : Int := 0
  phase : Phase := .idle
  halted : Bool := false
  outputs : List Int := []
  cycles : Nat := 0
  deriving DecidableEq, Repr

structure State extends Registers where
  memory : Array Cell
  deriving DecidableEq, Repr

namespace State

def initial (image : List Cell) : State :=
  { memory := image.toArray }

/-- The state in which the present memory starts again. -/
def restarted (state : State) : State :=
  { memory := state.memory }

def size (state : State) : Nat :=
  state.memory.size

/-- An address moved into a memory of the given number of cells; zero if it has none. -/
def clampInto (size : Nat) (address : Int) : Nat :=
  (clamp address 0 (max ((size : Int) - 1) 0)).toNat

def clampAddress (state : State) (address : Int) : Nat :=
  clampInto state.size address

/-- The cell at an address; a memory without cells reads as empty. -/
def read (state : State) (address : Int) : Cell :=
  (state.memory[state.clampAddress address]?).getD .empty

def write (state : State) (address : Int) (cell : Cell) : State :=
  { state with memory := state.memory.setIfInBounds (state.clampAddress address) cell }

def jumpTo (state : State) (address : Int) : State :=
  { state with pc := state.clampAddress address }

/-- Continues at the next cell; past the last cell the machine stays there. -/
def advance (state : State) : State :=
  state.jumpTo (state.pc + 1)

/-- Appends an output; the oldest one goes when there are too many. -/
def emit (state : State) (value : Int) : State :=
  { state with outputs := lastOf outputLimit (state.outputs ++ [value]) }

theorem clampInto_lt {size : Nat} (positive : 0 < size) (address : Int) :
    clampInto size address < size := by
  rw [clampInto, clamp]
  omega

theorem clampInto_of_lt {size address : Nat} (inside : address < size) :
    clampInto size address = address := by
  rw [clampInto, clamp]
  omega

@[simp]
theorem size_write (state : State) (address : Int) (cell : Cell) :
    (state.write address cell).size = state.size :=
  Array.size_setIfInBounds

/-- A cell holds what was written last at an address that clamps to it, and otherwise what it held
before. -/
theorem read_write
    (state : State) (written address : Int) (cell : Cell) (positive : 0 < state.size) :
    (state.write written cell).read address =
      if state.clampAddress written = state.clampAddress address then cell
      else state.read address := by
  have inside : state.clampAddress written < state.memory.size := clampInto_lt positive written
  have same : (state.write written cell).clampAddress address = state.clampAddress address := by
    rw [clampAddress, size_write, clampAddress]
  unfold read
  rw [same]
  unfold write
  dsimp only
  by_cases hit : state.clampAddress written = state.clampAddress address
  · rw [if_pos hit, ← hit, Array.getElem?_setIfInBounds_self_of_lt inside, Option.getD_some]
  · rw [if_neg hit, Array.getElem?_setIfInBounds_ne hit]

def target? (state : State) : Option Int :=
  targetAddress? state.ir state.size

/-- The program counter meets a cell, the memory holds nothing but text, numbers and absent cells,
and the outputs are within their limit. -/
structure Valid (state : State) : Prop where
  pc_lt : state.pc < max state.size 1
  outputs_le : state.outputs.length ≤ outputLimit
  storable : ∀ cell ∈ state.memory, cell.isStorable = true

instance (state : State) : Decidable state.Valid :=
  decidable_of_iff
    (state.pc < max state.size 1 ∧ state.outputs.length ≤ outputLimit ∧
      ∀ cell ∈ state.memory, cell.isStorable = true)
    ⟨fun ⟨pc_lt, outputs_le, storable⟩ => ⟨pc_lt, outputs_le, storable⟩,
      fun ⟨pc_lt, outputs_le, storable⟩ => ⟨pc_lt, outputs_le, storable⟩⟩

end State

def registerLine
    (cycles : Number) (phase : Phase) (pc : Number) (ir : String) (acc : Cell)
    (outputs : List Cell) (halted : Bool) : String :=
  "[Cycle " ++ cycles.display ++ "] " ++
    Text.alignLeft 7 phase.name ++ " PC=" ++ pc.display ++
    " IR=" ++ ir ++ " ACC=" ++ acc.display ++
    " OUT=[" ++ ", ".intercalate (outputs.map Cell.display) ++ "]" ++
    if halted then " HALTED" else ""

def Registers.line (registers : Registers) : String :=
  registerLine (.int registers.cycles) registers.phase (.int registers.pc)
    registers.ir.quotedDisplay (.int registers.acc) (registers.outputs.map Cell.int)
    registers.halted

end Accumulator
