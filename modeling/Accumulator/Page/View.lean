import Accumulator.Simulator.Report

set_option autoImplicit false

/-!
What the page shows of a simulator: its last action, its registers, its memory with the cells that
matter marked, its outputs and the recent history.
-/

namespace Accumulator.Page

structure Row where
  address : Nat
  content : String
  markers : List String
  deriving DecidableEq, Repr

def Row.markerText (row : Row) : String :=
  " ".intercalate row.markers

structure Views where
  status : String
  registers : String
  memory : List Row
  outputs : String
  history : String
  deriving DecidableEq, Repr

def historyShown : Nat := 200

/-- Marks the cell at the program counter and the cell that the instruction register refers to. -/
def markers (state : State) (address : Nat) : List String :=
  (if address = state.pc then ["PC"] else []) ++
    if some (address : Int) = state.target? then ["target"] else []

/-- The content of a cell in the memory table; an absent cell is shown as blank. -/
def shownContent : Cell → String
  | .absent => ""
  | cell => cell.display

def memoryRows (state : State) : List Row :=
  state.memory.toList.mapIdx fun address cell =>
    { address := address
      content := shownContent cell
      markers := markers state address }

def registerLines (state : State) : List String :=
  ["REGISTERS",
    Text.rule 30 '=',
    "  PC:     " ++ Numeral.text state.pc,
    "  IR:     " ++ state.ir.display,
    "  Decoded: " ++ (decode state.ir).display,
    "  ACC:    " ++ Numeral.describe state.acc,
    "  Phase:  " ++ state.phase.name,
    "  Cycles: " ++ Numeral.text state.cycles,
    "  Halted: " ++ if state.halted then "Yes" else "No"]

def views (simulator : Simulator) : Views :=
  let state := simulator.state
  { status := simulator.lastAction.text
    registers := "\n".intercalate (registerLines state)
    memory := memoryRows state
    outputs := state.outputList
    history :=
      "\n".intercalate ((lastOf historyShown simulator.history.toList).map Entry.briefLine) }

end Accumulator.Page
