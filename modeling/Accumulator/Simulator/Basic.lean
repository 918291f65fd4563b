import Accumulator.Assembly.Image
import Accumulator.Assembly.Template
import Accumulator.Simulator.History
import Accumulator.Simulator.Log

set_option autoImplicit false

/-!
A simulator owns one machine. It loads and edits the memory, advances the machine, numbers the
transitions since the last restart and remembers the recent ones. Loading restarts the machine;
a load that fails leaves it as it was.
-/

namespace Accumulator

inductive Action
  | none
  | moved (event : Event)
  | memoryLoaded
  | programLoaded
  | sampleLoaded
  | memoryCleared
  | rejected (fault : Fault)
  deriving DecidableEq, Repr

def Action.text : Action → String
  | .none => ""
  | .moved event => event.line
  | .memoryLoaded => "Memory loaded"
  | .programLoaded => "Program assembled and loaded"
  | .sampleLoaded => "Sample program loaded"
  | .memoryCleared => "Memory cleared"
  | .rejected fault => fault.message

def defaultStepLimit : Int := 10000

structure Simulator where
  memorySize : Int
  stepLimit : Int
  state : State
  history : History
  steps : Nat
  lastAction : Action
  deriving DecidableEq, Repr

structure Outcome (Answer : Type) where
  simulator : Simulator
  answer : Except Fault Answer
  notes : List Note := []

namespace Simulator

def new (memorySize stepLimit : Int) : Simulator :=
  { memorySize := memorySize
    stepLimit := stepLimit
    state := State.initial (emptyMemory memorySize)
    history := {}
    steps := 0
    lastAction := .none }

def create [Provision] (memorySize stepLimit : Int) : Except Fault Simulator :=
  match sizeFault? memorySize with
  | some fault => .error fault
  | none => .ok (new memorySize stepLimit)

def restart (simulator : Simulator) (state : State) (action : Action) : Simulator :=
  { simulator with
    state := state
    history := {}
    steps := 0
    lastAction := action }

/-- The memory that a list of cells fills: cut off or padded to the size. -/
def fitted (memorySize : Int) (cells : List Cell) : List Cell :=
  let kept := cells.take memorySize.toNat
  kept ++ emptyMemory (memorySize - kept.length)

/-- A negative size counts from the end of the cells; what it leaves of them has no room. -/
def overflows (memorySize : Int) (cells : List Cell) : Bool :=
  memorySize < 0 && 0 < cells.length + memorySize

def loadCells (simulator : Simulator) (cells : List Cell) (action : Action) :
    Except Fault Simulator :=
  if overflows simulator.memorySize cells then .error .outOfMemory
  else .ok (simulator.restart (State.initial (fitted simulator.memorySize cells)) action)

def loadMemory (simulator : Simulator) (cells : List Cell) : Except Fault Simulator :=
  simulator.loadCells cells .memoryLoaded

def loadSample (simulator : Simulator) : Except Fault Simulator :=
  simulator.loadCells Assembly.sample .sampleLoaded

def assemblyNotes (source : String) (memorySize : Int) : List Note :=
  let length := (Assembly.programLines source.toList).length
  if Assembly.fits length memorySize then [.assembling length] else []

/-- Assembles a source text and loads the image. A program that does not fit changes nothing but
the last action. -/
def loadProgram [Provision] (simulator : Simulator) (source : String)
    (bindings : Assembly.Bindings) :
    Outcome Unit :=
  let notes := assemblyNotes source simulator.memorySize
  match Assembly.assemble source bindings simulator.memorySize with
  | .ok image =>
    { simulator := simulator.restart (State.initial image) .programLoaded
      answer := .ok ()
      notes := notes ++ [.loaded simulator.memorySize] }
  | .error (.capacity required memorySize) =>
    let fault := Fault.capacity required memorySize
    { simulator := { simulator with lastAction := .rejected fault }
      answer := .error fault
      notes := notes ++ [.rejected fault] }
  | .error fault =>
    { simulator := simulator
      answer := .error fault
      notes := notes }

def clearMemory (simulator : Simulator) : Simulator :=
  simulator.restart (State.initial (emptyMemory simulator.memorySize)) .memoryCleared

def reset (simulator : Simulator) : Simulator :=
  simulator.restart simulator.state.restarted .none

/-- The cell that a typed text makes: empty if blank, a number if it denotes one, else the text. -/
def cellOfText (text : String) : Cell :=
  if (Text.trim text.toList).isEmpty then .empty
  else
    match wordOfToken? text.toList with
    | some value => .int value
    | none => .text text

/-- The text that an entered value stands for; an absent value is blank. -/
def enteredText? : Cell → Option String
  | .absent => some ""
  | cell => cell.exactText?

/-- Writes the cell that a text makes, at an address clamped into the memory. -/
def editText (simulator : Simulator) (address : Int) (text : String) : Simulator :=
  { simulator with state := simulator.state.write address (cellOfText text) }

def editCell (simulator : Simulator) (address : Int) (entered : Cell) : Except Fault Simulator :=
  match enteredText? entered with
  | some text => .ok (simulator.editText address text)
  | none => .error .tooManyDigits

end Simulator

end Accumulator
