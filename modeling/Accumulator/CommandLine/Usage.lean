import Accumulator.CommandLine.Parameter
import Accumulator.Simulator.Log
import Accumulator.Text.Quoted

set_option autoImplicit false

/-!
Command lines that cannot be used: what is wrong with them, and how that is put to the user.
-/

namespace Accumulator.CommandLine

inductive UsageError
  | ambiguous (argument : String) (spellings : List String)
  /-- Nothing that can be a value follows the parameter. -/
  | expectedValue (parameter : Parameter)
  | invalidInteger (parameter : Parameter) (value : String)
  | invalidLevel (parameter : Parameter) (value : String)
  /-- A value is attached to a parameter that takes none. -/
  | ignoredValue (parameter : Parameter) (value : String)
  | unrecognized (arguments : List String)
  | noProgram
  deriving DecidableEq, Repr

namespace UsageError

def quoted (text : String) : String :=
  String.ofList (Text.quoted text.toList)

def levelChoices : String :=
  ", ".intercalate (Level.all.map fun level => quoted level.name)

/-- The parameter that an error is about. -/
def parameter? : UsageError → Option Parameter
  | .expectedValue parameter => some parameter
  | .invalidInteger parameter _ => some parameter
  | .invalidLevel parameter _ => some parameter
  | .ignoredValue parameter _ => some parameter
  | _ => none

def problem : UsageError → String
  | .ambiguous argument spellings =>
    "ambiguous option: " ++ argument ++ " could match " ++ ", ".intercalate spellings
  | .expectedValue _ => "expected one argument"
  | .invalidInteger _ value => "invalid int value: " ++ quoted value
  | .invalidLevel _ value =>
    "invalid choice: " ++ quoted value ++ " (choose from " ++ levelChoices ++ ")"
  | .ignoredValue _ value => "ignored explicit argument " ++ quoted value
  | .unrecognized arguments => "unrecognized arguments: " ++ " ".intercalate arguments
  | .noProgram => "Either --program or --inline is required"

def message (error : UsageError) : String :=
  match error.parameter? with
  | some parameter => "argument " ++ parameter.label ++ ": " ++ error.problem
  | none => error.problem

end UsageError

end Accumulator.CommandLine
