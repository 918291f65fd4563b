import Accumulator.Cell
import Accumulator.Text.UpperCase

set_option autoImplicit false

/-!
The three variables of a program. Each has a value, bound before assembly, and a slot: one of the
cells right after the program lines.
-/

namespace Accumulator.Assembly

inductive Variable
  | x
  | y
  | z
  deriving DecidableEq, Repr

namespace Variable

def all : List Variable :=
  [.x, .y, .z]

def name : Variable → String
  | .x => "X"
  | .y => "Y"
  | .z => "Z"

def index : Variable → Nat
  | .x => 0
  | .y => 1
  | .z => 2

def ofWord? (word : List Char) : Option Variable :=
  all.find? fun candidate => candidate.name == String.ofList (Text.upper word)

def slot (length : Int) (letter : Variable) : Int :=
  length + letter.index

end Variable

structure Valuation where
  x : Int := 0
  y : Int := 0
  z : Int := 0
  deriving DecidableEq, Repr

namespace Valuation

def get (valuation : Valuation) : Variable → Int
  | .x => valuation.x
  | .y => valuation.y
  | .z => valuation.z

def set (valuation : Valuation) (letter : Variable) (value : Int) : Valuation :=
  match letter with
  | .x => { valuation with x := value }
  | .y => { valuation with y := value }
  | .z => { valuation with z := value }

end Valuation

/-- Values given to names, in order. Of two bindings of one variable the later one counts, other
names are ignored, and a variable without a binding is zero. -/
abbrev Bindings := List (String × Cell)

def Bindings.valuation (bindings : Bindings) : Valuation :=
  bindings.foldl
    (fun valuation (name, cell) =>
      match Variable.ofWord? name.toList with
      | some letter => valuation.set letter cell.word
      | none => valuation)
    {}

end Accumulator.Assembly
