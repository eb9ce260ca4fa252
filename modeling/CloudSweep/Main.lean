/-
The program. It reads the time from the first line of its input, writes the commands of the run to
its output, one a line, and reads what came of each from its input. Events go to the error output.
-/
import CloudSweep.CommandLine.Arguments
import CloudSweep.CommandLine.Start
import CloudSweep.Gcloud.Relay

namespace CloudSweep

/-- An event on one line. -/
def eventLine (e : Event) : String :=
  e.level.word ++ " " ++ e.message ++ String.join (e.fields.map fun (name, value) =>
    " " ++ name ++ "=" ++ match value with
      | .text s => Text.quote s
      | .number n => toString n
      | .flag b => toString b)

/-- Writes an event, unless it matters too little. -/
def report (least : Level) (e : Event) : IO Unit := do
  if least.rank ≤ e.level.rank then IO.eprintln (eventLine e)

/-- Has the tool run by whoever carries out the commands. -/
def relay (program : String) (_ : Site) (invocation : Gcloud.Invocation) :
    IO Gcloud.ToolResult := do
  let output ← IO.getStdout
  output.putStrLn (invocation.shellLine program)
  output.flush
  return .ofLine (← (← IO.getStdin).getLine)

end CloudSweep

open CloudSweep

/-- Runs the program. -/
def main (arguments : List String) : IO UInt32 := do
  let keyFile ← IO.getEnv "GOOGLE_APPLICATION_CREDENTIALS"
  match CommandLine.read arguments keyFile with
  | .error e =>
    if e.exitCode = 0 then IO.println e.message else IO.eprintln ("error: " ++ e.message)
    return e.exitCode.toUInt32
  | .ok options =>
    match Timestamp.read (← (← IO.getStdin).getLine) with
    | none =>
      IO.eprintln "error: the first line of the input must be the time"
      return 1
    | some now =>
      let least : Level := if options.verbose then .debug else .info
      let ending ← options.execute now (report least) (relay options.gcloud)
      if let .error e := ending then IO.eprint e.render
      return (CommandLine.Ending.exitCode ending).toUInt32
