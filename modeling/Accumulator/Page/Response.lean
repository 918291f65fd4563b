import Accumulator.Page.Entry
import Accumulator.Page.View
import Accumulator.Simulator.Command

set_option autoImplicit false

/-!
Responses: what the page does about each of its events. A response names the parts of the page that
change; an event that fails has a fault instead. Either way the outcome says what has become of the
simulator that the page had.
-/

namespace Accumulator.Page

structure Display where
  simulator : Simulator
  views : Views
  deriving DecidableEq, Repr

structure Response where
  display? : Option Display := none
  active? : Option Bool := none
  interval? : Option Binary64 := none
  running? : Option Bool := none
  source? : Option String := none
  deriving DecidableEq, Repr

namespace Response

def displaying (simulator : Simulator) : Response :=
  { display? := some { simulator := simulator, views := views simulator } }

def displayingRun (simulator : Simulator) (running : Bool) : Response :=
  { displaying simulator with active? := some running, running? := some running }

end Response

variable [Provision]

/-- An answer that leaves the simulator alone. -/
def keeping (simulator : Simulator) (answer : Except Fault Response) : Outcome Response :=
  { simulator := simulator, answer := answer }

/-- Has a simulator perform a command and responds with what it is then. -/
def performing (simulator : Simulator) (command : Command) (response : Simulator → Response) :
    Outcome Response :=
  let outcome := simulator.perform command
  { outcome with answer := outcome.answer.map fun _ => response outcome.simulator }

def candidate (simulator : Simulator) (memorySize : Int) : Except Fault Simulator :=
  if memorySize = simulator.memorySize then .ok simulator
  else Simulator.create memorySize defaultStepLimit

def refuse (simulator : Simulator) (fault : Fault) : Response :=
  { display? :=
      some
        { simulator := simulator
          views := { views simulator with status := "Error: " ++ fault.message } } }

def requestedSize (memorySize : Cell) : Except Fault Int :=
  integerOr defaultMemorySize memorySize

/-- What is responded to a load: the simulator that was loaded, or the own one with the message when
the program does not fit. -/
def responseToLoad (own : Simulator) (outcome : Outcome Unit) : Except Fault Response :=
  match outcome.answer with
  | .ok _ => .ok (Response.displaying outcome.simulator)
  | .error (.capacity required available) => .ok (refuse own (.capacity required available))
  | .error fault => .error fault

/-- Assembles the entered source into a memory of the given size. -/
def assembleSized (simulator : Simulator) (source x y z : Cell) (size : Int) : Outcome Response :=
  match candidate simulator size, textOf source with
  | .ok target, .ok text =>
    let outcome := target.loadProgram text [("X", x), ("Y", y), ("Z", z)]
    -- A simulator that has the size is itself the one that was loaded into.
    let own := if size = simulator.memorySize then outcome.simulator else simulator
    { simulator := own, answer := responseToLoad own outcome, notes := outcome.notes }
  | .error fault, _ => keeping simulator (.error fault)
  | _, .error fault => keeping simulator (.error fault)

def assembleProgram (simulator : Simulator) (source x y z memorySize : Cell) : Outcome Response :=
  match requestedSize memorySize with
  | .ok size => assembleSized simulator source x y z size
  | .error fault => keeping simulator (.error fault)

def stepOnce (simulator : Simulator) : Outcome Response :=
  performing simulator .step Response.displaying

/-- Displays a simulator and runs the page on as long as the machine goes on. -/
def reporting (simulator : Simulator) : Response :=
  Response.displayingRun simulator (!simulator.state.halted)

/-- One step per tick; the timer stops when the machine halts. -/
def tick (simulator : Simulator) : Outcome Response :=
  if simulator.state.halted then keeping simulator (.ok (reporting simulator))
  else performing simulator .step reporting

def settingRun (running : Bool) : Response :=
  { active? := some running, running? := some running }

def startRun (simulator : Simulator) : Response :=
  settingRun (!simulator.state.halted)

def toggleRun (simulator : Simulator) (running : Bool) : Response :=
  if running then settingRun false else startRun simulator

/-- The interval of the timer in seconds, from an entry in milliseconds. -/
def changeSpeed (entry : Cell) : Except Fault Response := do
  let milliseconds ← realOf entry
  pure { interval? := some (milliseconds.divideBy 1000) }

/-- Has a simulator perform a command that ends the run of the page. -/
def pausing (simulator : Simulator) (command : Command) : Outcome Response :=
  performing simulator command fun changed => Response.displayingRun changed false

def resetMachine (simulator : Simulator) : Outcome Response :=
  pausing simulator .reset

def loadSample (simulator : Simulator) : Outcome Response :=
  pausing simulator .loadSample

def clearMemory (simulator : Simulator) : Outcome Response :=
  pausing simulator .clearMemory

def writeCell (simulator : Simulator) (address entered : Cell) : Outcome Response :=
  match integerOr 0 address with
  | .ok index => performing simulator (.editCell index entered) Response.displaying
  | .error fault => keeping simulator (.error fault)

def loadTemplate (entry : Cell) : Except Fault Response := do
  let mnemonic ← textOf entry
  pure { source? := some (Assembly.exercise mnemonic) }

end Accumulator.Page
