import Accumulator.CommandLine.Folder
import Accumulator.CommandLine.Options
import Accumulator.Simulator.Report
import Accumulator.Simulator.Run

set_option autoImplicit false

/-!
Carrying out a command line: read the program, assemble it, run it and report. The exit code is
zero exactly when the machine halted.
-/

namespace Accumulator.CommandLine

/-- What a command line leaves behind: its exit code, the lines it printed and its notes. -/
structure Report where
  exitCode : Nat
  output : List String
  notes : List Note := []
  deriving DecidableEq, Repr

inductive Source
  | text (content : String)
  | missing
  deriving DecidableEq, Repr

def textOfFile (content : String) : String :=
  String.ofList (Text.unifyNewlines content.toList)

/-- Inline programs separate their lines with semicolons. -/
def textOfInline (inline : String) : String :=
  String.ofList (inline.toList.map fun character => if character = ';' then '\n' else character)

/-- A program file is preferred to an inline program. -/
def readSource (options : Options) (find : String → Target) : Except Fault Source :=
  if options.program.isEmpty then .ok (.text (textOfInline options.inline))
  else
    match find options.program with
    | .missing => .ok .missing
    | .folder => .error .directory
    | .unreachable => .error .nameTooLong
    | .file content => .ok (.text (textOfFile content))

def banner (options : Options) : String :=
  if options.program.isEmpty then "Running inline assembly"
  else "Loading program: " ++ options.program

def executionHeading : List String :=
  [Text.rule 60 '-', "Executing...", Text.rule 60 '-']

def unlessQuiet (options : Options) (lines : List String) : List String :=
  if options.quiet then [] else lines

def closingLines (options : Options) (simulator : Simulator) : List String :=
  if options.trace then simulator.traceReport
  else if options.quiet then simulator.state.outputs.map Numeral.describe
  else "" :: simulator.summaryLines

def runLoaded (options : Options) (opening : List String) (loading : List Note)
    (simulator : Simulator) : Except Fault Report :=
  let outcome := simulator.run none
  let report (lines : List String) : Report :=
    { exitCode := if outcome.simulator.state.halted then 0 else 1
      output :=
        opening ++ unlessQuiet options executionHeading ++ lines ++
          closingLines options outcome.simulator
      notes := loading ++ outcome.notes }
  match outcome.answer with
  | .ok _ => .ok (report [])
  | .error (.stepLimit limit) =>
    .ok (report ["Execution error: " ++ (Fault.stepLimit limit).message])
  | .error fault => .error fault

def required {Value : Type} : Option Value → Except Fault Value
  | some value => .ok value
  | none => .error .noValue

/-- Assembles a program text, runs it and reports. The step limit is not needed before the run. -/
def runText [Provision] (options : Options) (text : String) : Except Fault Report := do
  let opening := unlessQuiet options [banner options]
  let memorySize ← required options.memorySize?
  let simulator ← Simulator.create memorySize (options.stepLimit?.getD defaultStepLimit)
  let outcome :=
    simulator.loadProgram text [("X", .int options.x), ("Y", .int options.y), ("Z", .int options.z)]
  match outcome.answer with
  | .ok _ => do
    let _ ← required options.stepLimit?
    runLoaded options opening outcome.notes outcome.simulator
  | .error (.capacity needed available) =>
    pure
      { exitCode := 1
        output := opening ++ ["Error: " ++ (Fault.capacity needed available).message]
        notes := outcome.notes }
  | .error fault => .error fault

def carryOut [Provision] (options : Options) (find : String → Target) : Except Fault Report := do
  let _ ← required options.level?
  match ← readSource options find with
  | .missing =>
    pure { exitCode := 1, output := ["Error: Program file not found: " ++ options.program] }
  | .text text => runText options text

def Options.shows (options : Options) (note : Note) : Bool :=
  (options.level?.map Level.rank).getD 0 ≤ note.level.rank

def Report.logLines (report : Report) (options : Options) : List String :=
  (report.notes.filter options.shows).map Note.line

end Accumulator.CommandLine
