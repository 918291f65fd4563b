import Accumulator.Simulator.Basic

set_option autoImplicit false

/-!
Reports on a simulator as text: the recorded transitions one to a line, and the final state.
-/

namespace Accumulator

namespace Entry

def reportLine (entry : Entry) : String :=
  "[" ++ Text.alignRight 4 (Numeral.text entry.index) ++ "] PC=" ++
    Text.alignLeft 3 (Numeral.text entry.pc) ++ " " ++ Text.alignLeft 7 entry.phase.name ++ " " ++
    entry.description

def briefLine (entry : Entry) : String :=
  "[" ++ Text.alignRight 4 (Numeral.text entry.index) ++ "] PC=" ++
    Text.alignLeft 3 (Numeral.text entry.pc) ++ " " ++ entry.description

end Entry

namespace State

def outputList (state : State) : String :=
  ", ".intercalate (state.outputs.map Numeral.describe)

end State

namespace Simulator

def heading (title : String) : List String :=
  [Text.rule 70 '=', title, Text.rule 70 '=']

def finalStateLines (state : State) : List String :=
  ["  ACC: " ++ Numeral.describe state.acc,
    "  PC: " ++ Numeral.text state.pc,
    "  IR: " ++ state.ir.display,
    "  Cycles: " ++ Numeral.text state.cycles,
    "  Halted: " ++ flagName state.halted,
    "  Outputs: [" ++ state.outputList ++ "]"]

/-- The history and the final state, line by line. -/
def traceReport (simulator : Simulator) : List String :=
  heading "EXECUTION TRACE" ++ simulator.history.toList.map Entry.reportLine ++
    "" :: heading "FINAL STATE" ++ finalStateLines simulator.state

def summaryLines (simulator : Simulator) : List String :=
  let state := simulator.state
  ["Cycles: " ++ Numeral.text state.cycles,
    "Halted: " ++ flagName state.halted,
    "ACC: " ++ Numeral.describe state.acc,
    "PC: " ++ Numeral.text state.pc,
    "Outputs: [" ++ state.outputList ++ "]",
    "Last: " ++ simulator.lastAction.text]

end Simulator

end Accumulator
