/-
# StepPattern.Main -- the program

Reads the configuration file that the command line names, runs the command line on
it, and prints what the run says.  The records of the log from warnings on go to the
error output.
-/
import StepPattern.CommandLine.Run

namespace StepPattern

set_option autoImplicit false

def look (path : Text) : IO Found := do
  try
    return .file (← IO.FS.readFile path.string).toList
  catch
    | .inappropriateType _ _ _ => return .directory
    | _ => return .nothing

/-- Prints the records of a log that are not for debugging. -/
def printLog (log : Log) : IO Unit :=
  for entry in log do
    if entry.level ≠ .debug then IO.eprintln entry.text

end StepPattern

open StepPattern

/-- The program: its words are those of the command line. -/
def main (arguments : List String) : IO UInt32 := do
  let words := arguments.map String.toList
  let found ← match (Arguments.read words).toOption.bind CommandLine.configPath? with
    | some path => look path
    | none => pure .nothing
  let (printed, log) := CommandLine.run (fun _ => found) words { read := Document.read }
  printLog log
  match printed with
  | .ok printed =>
      IO.print printed.output.string
      unless printed.error.isEmpty do IO.eprintln ("error: " ++ printed.error.string)
      return printed.code.toUInt32
  | .error fault =>
      IO.eprintln ("failed: " ++ reprStr fault)
      return 1
