import MockCluster.CommandLine.Report
import MockCluster.Script.Deployment

/-!
# The program

Reads the command line and one file, and prints the report. Everything that is decided is decided elsewhere.
-/

namespace MockCluster

/-- What is at a path on disk. -/
def findFile (path : String) : IO CommandLine.FileState := do
  if let some found := CommandLine.FileState.ofText? path then return found
  try
    return .content (← IO.FS.readBinFile path).toList
  catch
    | .noFileOrDirectory .. => return .missing
    | .inappropriateType _ 20 _ => return .throughFile
    | e => return .unreadable (toString e)

/-- Prints a failure and gives the exit code that goes with it. -/
def fail (messages : List String) : IO UInt32 := do
  IO.eprint (CommandLine.failureText messages)
  return 1

/-- Carries out a request. -/
def perform (request : CommandLine.Request) : IO UInt32 := do
  match request.run (← findFile request.path) with
  | .done output =>
    IO.print output
    return 0
  | .failed messages => fail messages
  | .start settings =>
    match Script.Stage.startFailure? (.idle false) settings with
    | some messages => fail messages
    | none => fail ["no network to listen on"]

end MockCluster

/-- Runs the program with the words of its command line. -/
def main (words : List String) : IO UInt32 := do
  match MockCluster.CommandLine.Request.ofWords words with
  | .ok request => MockCluster.perform request
  | .error fault =>
    if fault.exitCode = 0 then IO.print MockCluster.CommandLine.usageText
    else IO.eprint MockCluster.CommandLine.usageText
    return fault.exitCode.toUInt32
