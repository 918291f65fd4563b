import Accumulator.Simulator.Run

set_option autoImplicit false

/-!
Everything that can be asked of a simulator, as data. A session is a list of commands; a command
that fails does not end it.
-/

namespace Accumulator

inductive Command
  | loadMemory (cells : List Cell)
  | loadProgram (source : String) (bindings : Assembly.Bindings)
  | loadSample
  | clearMemory
  | reset
  | editCell (address : Int) (entered : Cell)
  | step
  | stepInstruction
  | run (limit? : Option Int)
  deriving DecidableEq, Repr

namespace Simulator

def settled (simulator : Simulator) (changed : Except Fault Simulator) : Outcome (List Entry) :=
  match changed with
  | .ok next => { simulator := next, answer := .ok [] }
  | .error fault => { simulator := simulator, answer := .error fault }

def perform [Provision] (simulator : Simulator) : Command → Outcome (List Entry)
  | .loadMemory cells => simulator.settled (simulator.loadMemory cells)
  | .loadProgram source bindings =>
    let outcome := simulator.loadProgram source bindings
    { outcome with answer := outcome.answer.map fun _ => [] }
  | .loadSample => simulator.settled simulator.loadSample
  | .clearMemory => simulator.settled (.ok simulator.clearMemory)
  | .reset => simulator.settled (.ok simulator.reset)
  | .editCell address entered => simulator.settled (simulator.editCell address entered)
  | .step =>
    let (moved, transition) := simulator.step
    moved.answering [transition]
  | .stepInstruction => simulator.stepInstruction
  | .run limit? => simulator.run limit?

def session [Provision] (simulator : Simulator) (commands : List Command) : Simulator :=
  commands.foldl (fun current command => (current.perform command).simulator) simulator

end Simulator

end Accumulator
