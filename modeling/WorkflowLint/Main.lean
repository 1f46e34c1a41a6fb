import WorkflowLint.Program

/-!
# The command line

Runs the program on the disk, the environment and the terminal of the system.
-/

namespace WorkflowLint

/-- The number of a failure of the system. Some sources give it with the opposite sign. -/
def systemNumber (code : UInt32) : Nat :=
  if code < 0x80000000 then code.toNat else (0 - code).toNat

/-- What a failure to read a file means. -/
def ReadError.ofSystem : IO.Error → ReadError
  | .noFileOrDirectory .. => .missing
  | .otherError code details => .ofNumber (systemNumber code) details
  | .permissionDenied _ code details => .ofNumber (systemNumber code) details
  | .inappropriateType _ code details => .ofNumber (systemNumber code) details
  | .invalidArgument _ code details => .ofNumber (systemNumber code) details
  | .resourceExhausted _ code details => .ofNumber (systemNumber code) details
  | .hardwareFault code details => .ofNumber (systemNumber code) details
  | e => .refused (toString e) 0

/-- Reads a file of the disk. -/
def readDisk (location : String) : IO Contents := do
  if location.toList.contains '\x00' then return .error .nullInLocation
  try
    return Contents.ofOctets (← IO.FS.readBinFile location)
  catch e => return .error (ReadError.ofSystem e)

/-- The variables of the environment that the program looks at. -/
def variableNames : List String :=
  ["NO_COLOR", "CLICOLOR", "CLICOLOR_FORCE", "TERM", "RUST_LOG"]

/-- The place where the program runs. -/
def surroundings : IO Surroundings := do
  let settings ← variableNames.filterMapM fun name => do
    return (← IO.getEnv name).map fun value => (name, value)
  let term := (settings.find? (·.1 == "TERM")).map Prod.snd
  return {
    here := (← IO.currentDir).toString
    colorTerminal := (← (← IO.getStdout).isTty) && (term.getD "dumb") != "dumb"
    settings := settings }

/-- Ends as the program says, unless its output cannot be written. -/
def finish (e : Ending) : IO UInt32 := do
  let beside ← IO.getStderr
  for line in e.beside do
    beside.putStrLn line
  try
    let output ← IO.getStdout
    for piece in e.output do
      output.putStr piece
    output.flush
    return e.status.toUInt32
  catch error =>
    beside.putStrLn ("Error: " ++ (Failure.unwritable (toString error)).message)
    return 1

end WorkflowLint

/-- Runs the program with the arguments of the command line. -/
def main (arguments : List String) : IO UInt32 := do
  WorkflowLint.finish
    (← WorkflowLint.Program.run WorkflowLint.readDisk (← WorkflowLint.surroundings) arguments)
