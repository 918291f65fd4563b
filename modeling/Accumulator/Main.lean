import Accumulator.CommandLine.Session

set_option autoImplicit false

/-!
The program: reads its arguments and the program file, prints the report and exits with its code.
-/

namespace Accumulator.CommandLine

def folderCode : UInt32 := 21

/-- What a path leads to in the file system. Only the parts that count are followed. -/
def findOnDisk (path : String) : IO Target := do
  if path.contains '\x00' then return .missing
  let start := if path.startsWith "/" then "/" else "./"
  try
    return .file (← IO.FS.readFile (start ++ "/".intercalate (pathParts path)))
  catch failure =>
    match failure with
    | .noFileOrDirectory .. => return .missing
    | .inappropriateType _ code _ => return if code = folderCode then .folder else .missing
    | _ => return .unreachable

def printReport (options : Options) (report : Report) : IO UInt32 := do
  for line in report.logLines options do
    IO.eprintln line
  for line in report.output do
    IO.println line
  return report.exitCode.toUInt32

end Accumulator.CommandLine

open Accumulator.CommandLine in
open scoped Accumulator.Provision in
def main (arguments : List String) : IO UInt32 := do
  match parseOptions arguments with
  | .error .help => return 0
  | .error (.usage error) =>
    IO.eprintln ("error: " ++ error.message)
    return 2
  | .ok options =>
    let target ← if options.program.isEmpty then pure .missing else findOnDisk options.program
    match carryOut options (fun _ => target) with
    | .ok report => printReport options report
    | .error fault =>
      IO.eprintln fault.message
      return 1
