import Accumulator.Cell
import Accumulator.Text.UpperCase

set_option autoImplicit false

/-!
Programs that come with the machine: exercises that combine two variables into the third, and a
sample that is loaded as it stands.
-/

namespace Accumulator.Assembly

def exerciseSigns : List (String × String) :=
  [("ADD", "+"), ("SUB", "-"), ("MUL", "*"), ("DIV", "/")]

/-- Source text that computes `Z` from `X` and `Y` by a mnemonic, in either case. -/
def exercise (mnemonic : String) : String :=
  let name := String.ofList (Text.upper mnemonic.toList)
  let sign := (exerciseSigns.lookup name).getD "?"
  "\n".intercalate
    ["// X " ++ sign ++ " Y = Z", "LOAD X", name ++ " Y", "STORE Z", "OUT", "HLT"]

def sample : List Cell :=
  ["LOAD 5", "ADD 3", "STORE 40", "OUT", "HLT"].map Cell.text

end Accumulator.Assembly
