import Accumulator.Fault
import Accumulator.Assembly.Variable
import Accumulator.Machine.Event

set_option autoImplicit false

/-!
The log: what the assembler and the simulator note about their work. A note is data; its line is
made only when it is shown.
-/

namespace Accumulator

inductive Level
  | debug
  | info
  | warning
  | error
  deriving DecidableEq, Repr

namespace Level

def name : Level → String
  | .debug => "DEBUG"
  | .info => "INFO"
  | .warning => "WARNING"
  | .error => "ERROR"

def all : List Level :=
  [.debug, .info, .warning, .error]

def ofName? (name : String) : Option Level :=
  all.find? (·.name == name)

def rank : Level → Nat
  | .debug => 0
  | .info => 1
  | .warning => 2
  | .error => 3

end Level

inductive Note
  /-- A program of that many lines fits and is being assembled. -/
  | assembling (lines : Nat)
  | rejected (fault : Fault)
  | loaded (cells : Int)
  | stepped (event : Event) (registers : Registers)
  | limitReached (limit : Int) (pc : Nat)
  | finished (cycles : Nat) (acc : Int)
  deriving DecidableEq, Repr

namespace Note

def level : Note → Level
  | .assembling _ => .debug
  | .rejected _ => .warning
  | .loaded _ => .info
  | .stepped _ _ => .debug
  | .limitReached _ _ => .warning
  | .finished _ _ => .info

/-- The component that makes the note. -/
def origin : Note → String
  | .assembling _ => "vn_cpu.assembler"
  | _ => "vn_cpu.cpu"

def slotTable (lines : Nat) : String :=
  "\x7b" ++
    ", ".intercalate (Assembly.Variable.all.map fun letter =>
      "'" ++ letter.name ++ "': " ++ Numeral.text (letter.slot lines)) ++ "\x7d"

def text : Note → String
  | .assembling lines =>
    "Assembling " ++ Numeral.text lines ++ " lines, variable slots " ++ slotTable lines
  | .rejected fault => "Load rejected: " ++ fault.message
  | .loaded cells => "Loaded program into " ++ Numeral.text cells ++ " cells"
  | .stepped event registers => event.line ++ " | " ++ registers.line
  | .limitReached limit pc =>
    "Step limit (" ++ Numeral.text limit ++ ") exceeded at PC=" ++ Numeral.text pc
  | .finished cycles acc =>
    "Halted after " ++ Numeral.text cycles ++ " cycles, ACC=" ++ Numeral.describe acc

def line (note : Note) : String :=
  note.level.name ++ " " ++ note.origin ++ ": " ++ note.text

end Note

end Accumulator
