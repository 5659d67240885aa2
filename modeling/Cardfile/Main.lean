import Cardfile.Program.Run
/-!
# The command line

Reads what a run of the program depends on and writes what it comes to.
The shell is the one task that reads and writes by turns.
-/

namespace Cardfile

namespace CommandLine

/-- The variables that the settings may come from. -/
def readVariables : IO (List (String × String)) := do
  let names := Program.Setting.all.filterMap Program.Setting.environmentName?
  let values ← names.mapM fun name => return (← IO.getEnv name).map fun value => (name, value)
  return values.filterMap id

/-- The octets of a file. -/
def readFile (path : String) : IO (Except FileFault (List UInt8)) := do
  try
    return .ok (← IO.FS.readBinFile path).toList
  catch
    | .noFileOrDirectory .. => return .error .missing
    | .inappropriateType _ 20 _ => return .error .notDirectory
    | .inappropriateType _ 21 _ => return .error .directory
    | .invalidArgument _ 36 _ => return .error .nameTooLong
    | fault => return .error (.other (toString fault))

/-- The next line of the input, or nothing at its end; a line that is not
UTF-8 counts as one octet that is not. -/
def readLine (input : IO.FS.Stream) : IO (Option (List UInt8)) := do
  try
    return (Text.lines (← input.getLine).toUTF8.toList).head?
  catch _ => return some [0xFF]

/-- Runs the shell until it ends. -/
partial def runShell (store : Store) (input output : IO.FS.Stream) : IO (Option ShellFault) := do
  output.putStr Shell.prompt
  output.flush
  let reply := Shell.reply store (← readLine input)
  output.putStr reply.output
  output.flush
  if reply.goesOn then runShell store input output else return reply.fault

/-- Writes what a run comes to, and answers its exit code. -/
def finish (outcome : Program.Outcome) : IO UInt32 := do
  (← IO.getStdout).putStr outcome.output
  (← IO.getStderr).putStr outcome.diagnostics
  return outcome.exitCode.toUInt32

/-- Does what is asked for. -/
def perform (request : Program.Request) : IO UInt32 := do
  if request.task.readsRecords then
    let file ← readFile request.path
    match request.task, request.store file with
    | .shell, .ok store =>
      match ← runShell store (← IO.getStdin) (← IO.getStdout) with
      | none => return 0
      | some fault => finish (Program.failure fault.report)
    | _, _ => finish (request.outcome file [])
  else finish (request.outcome (.error .missing) [])

end CommandLine

end Cardfile

/-- Runs the program with its arguments. -/
def main (arguments : List String) : IO UInt32 := do
  let environment ← Cardfile.CommandLine.readVariables
  match Cardfile.Program.readRequest (fun name => environment.lookup name) arguments with
  | .error halt => Cardfile.CommandLine.finish halt.outcome
  | .ok request => Cardfile.CommandLine.perform request
