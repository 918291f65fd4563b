import Accumulator.CommandLine.Usage
import Accumulator.Simulator.Basic

set_option autoImplicit false

/-!
Options: what a list of arguments asks for. Arguments are taken in order and a later value of a
parameter replaces an earlier one. The separator `--` attached as a value stands for no value at
all. Arguments that cannot be used are an error, and so is a command line without a program; the
first error is the one that is told, except that ambiguous arguments come before all others.
-/

namespace Accumulator.CommandLine

inductive Refusal
  /-- The arguments ask for an explanation of the parameters instead. -/
  | help
  | usage (error : UsageError)
  deriving DecidableEq, Repr

/-- A size, a limit or a level is absent when the parameter was given no value. -/
structure Options where
  program : String := ""
  inline : String := ""
  x : Int := 0
  y : Int := 0
  z : Int := 0
  memorySize? : Option Int := some defaultMemorySize
  stepLimit? : Option Int := some defaultStepLimit
  trace : Bool := false
  quiet : Bool := false
  level? : Option Level := some .warning
  deriving DecidableEq, Repr

def separator : String := "--"

namespace Options

def integerValue (parameter : Parameter) (value : String) : Except Refusal Int :=
  match Numeral.decimalLiteral? value.toList with
  | some number => .ok number
  | none => .error (.usage (.invalidInteger parameter value))

def levelValue (parameter : Parameter) (value : String) : Except Refusal Level :=
  match Level.ofName? value with
  | some level => .ok level
  | none => .error (.usage (.invalidLevel parameter value))

def raise (options : Options) : Parameter → Except Refusal Options
  | .help => .error .help
  | .trace => .ok { options with trace := true }
  | .quiet => .ok { options with quiet := true }
  | parameter => .error (.usage (.expectedValue parameter))

/-- Gives no value to a parameter that takes one. Program texts are empty then, and numbers that
variables are bound to are zero. -/
def clear (options : Options) : Parameter → Except Refusal Options
  | .program => .ok { options with program := "" }
  | .inline => .ok { options with inline := "" }
  | .x => .ok { options with x := 0 }
  | .y => .ok { options with y := 0 }
  | .z => .ok { options with z := 0 }
  | .memorySize => .ok { options with memorySize? := none }
  | .stepLimit => .ok { options with stepLimit? := none }
  | .level => .ok { options with level? := none }
  | parameter => .error (.usage (.ignoredValue parameter separator))

def read (options : Options) (parameter : Parameter) (value : String) :
    Except Refusal Options :=
  match parameter with
  | .program => .ok { options with program := value }
  | .inline => .ok { options with inline := value }
  | .x => (integerValue parameter value).map fun number => { options with x := number }
  | .y => (integerValue parameter value).map fun number => { options with y := number }
  | .z => (integerValue parameter value).map fun number => { options with z := number }
  | .memorySize =>
    (integerValue parameter value).map fun number => { options with memorySize? := some number }
  | .stepLimit =>
    (integerValue parameter value).map fun number => { options with stepLimit? := some number }
  | .level =>
    (levelValue parameter value).map fun level => { options with level? := some level }
  | _ => .error (.usage (.ignoredValue parameter value))

def assign (options : Options) (parameter : Parameter) (value : String) :
    Except Refusal Options :=
  if value = separator then options.clear parameter else options.read parameter value

end Options

/-- The parameters named in one argument: flags, and then one parameter that may have its value
attached. -/
structure Cluster where
  flags : List Parameter
  last : Parameter
  value? : Option String
  deriving DecidableEq, Repr

namespace Cluster

def behind (flag : Parameter) (cluster : Cluster) : Cluster :=
  { cluster with flags := flag :: cluster.flags }

/-- Reads the text attached to a short spelling: a value, or further letters that share its dash. -/
def ofLetters : List Char → Parameter → Except Refusal Cluster
  | [], parameter =>
    if parameter.takesValue then .ok { flags := [], last := parameter, value? := some "" }
    else .error (.usage (.ignoredValue parameter ""))
  | letter :: rest, parameter =>
    if parameter.takesValue then
      .ok { flags := [], last := parameter, value? := some (String.ofList (letter :: rest)) }
    else
      match Parameter.ofSpelling? ['-', letter], rest with
      | none, _ => .error (.usage (.ignoredValue parameter (String.ofList (letter :: rest))))
      | some next, [] => .ok { flags := [parameter], last := next, value? := none }
      | some next, _ => (ofLetters rest next).map (behind parameter)

def ofNamed (parameter : Parameter) (short : Bool) : Option (List Char) → Except Refusal Cluster
  | none => .ok { flags := [], last := parameter, value? := none }
  | some attached =>
    if parameter.takesValue || short then ofLetters attached parameter
    else .error (.usage (.ignoredValue parameter (String.ofList attached)))

end Cluster

/-- The options so far, and the arguments that could not be used. -/
structure Progress where
  options : Options := {}
  unused : List String := []
  deriving DecidableEq, Repr

namespace Progress

def raiseAll (progress : Progress) (flags : List Parameter) : Except Refusal Progress := do
  let options ← flags.foldlM Options.raise progress.options
  pure { progress with options := options }

def assign (progress : Progress) (parameter : Parameter) (value : String) :
    Except Refusal Progress := do
  let options ← progress.options.assign parameter value
  pure { progress with options := options }

def leave (progress : Progress) (argument : String) : Progress :=
  { progress with unused := progress.unused ++ [argument] }

def take (progress : Progress) : List Argument → Except Refusal Progress
  | [] => .ok progress
  | .plain text :: rest => (progress.leave text).take rest
  | .unknown text :: rest => (progress.leave text).take rest
  | .ambiguous text spellings :: _ => .error (.usage (.ambiguous text spellings))
  | .named parameter short attached? :: rest => do
    let cluster ← Cluster.ofNamed parameter short attached?
    match cluster.value? with
    | some value => (← (← progress.raiseAll cluster.flags).assign cluster.last value).take rest
    | none =>
      if cluster.last.takesValue then
        match rest with
        | .plain value :: later =>
          (← (← progress.raiseAll cluster.flags).assign cluster.last value).take later
        | _ => .error (.usage (.expectedValue cluster.last))
      else (← progress.raiseAll (cluster.flags ++ [cluster.last])).take rest

/-- The options, if every argument could be used and there is a program. -/
def conclude (progress : Progress) (separated : List String) : Except Refusal Options :=
  let options := progress.options
  let unused := progress.unused ++ separated
  if !unused.isEmpty then .error (.usage (.unrecognized unused))
  else if options.program.isEmpty && options.inline.isEmpty then .error (.usage .noProgram)
  else .ok options

end Progress

/-- The arguments before the first separator, and those from there on. -/
def splitSeparator (arguments : List String) : List String × List String :=
  (arguments.takeWhile (· != separator), arguments.dropWhile (· != separator))

def Argument.ambiguity? : Argument → Option UsageError
  | .ambiguous text spellings => some (.ambiguous text spellings)
  | _ => none

/-- Reads a command line. An ambiguous argument is an error wherever it stands before a separator,
and nothing behind one can be used. -/
def parseOptions (arguments : List String) : Except Refusal Options := do
  let (given, separated) := splitSeparator arguments
  let forms := given.map Argument.ofText
  match forms.findSome? Argument.ambiguity? with
  | some error => .error (.usage error)
  | none =>
    let progress ← ({} : Progress).take forms
    progress.conclude separated

end Accumulator.CommandLine
