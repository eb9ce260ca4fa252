/-
What is reported of the tool. `Config.perform` carries a call out by a run of the tool: the command is
reported before it runs, and afterwards what is remarkable about its end. `Config.log` is what a run of
a program reports in all when its calls are carried out in this way, read off its moves.
-/
import CloudSweep.Gcloud.Answer
import CloudSweep.Program.Run

namespace CloudSweep.Gcloud.Config

/-- What is reported before a call is carried out. -/
def callEvents (c : Config) (call : Call) : List Event :=
  let running := Event.runningCommand (c.commandLine call) (c.timeoutMillis / 1000)
  match call with
  | .activateAccount keyFile => [.activatingAccount keyFile, running]
  | .checkApi _ api => [.checkingApi api, running]
  | _ => [running]

/-- What is reported after a call was carried out. -/
def resultEvents (c : Config) : Call → ToolResult → List Event
  | call, .timedOut => [.commandTimedOut (c.commandLine call) (c.timeoutMillis / 1000)]
  | .checkApi _ api, .exited status output _ =>
    match succeeded status, ApiState.read (Text.ofBytes output) with
    | true, .unexpected word => [.unexpectedApiState api word]
    | _, _ => []
  | _, _ => []

/-- Carries a call out in a monad that runs the tool. -/
def perform {m : Type → Type} [Monad m] (c : Config) (report : Event → m Unit)
    (runTool : Site → Invocation → m ToolResult) (site : Site) (call : Call) : m call.Answer := do
  (c.callEvents call).forM report
  let result ← runTool site (c.invocation call)
  (c.resultEvents call result).forM report
  return c.answer call result

/-- What is reported with a move, the tool's runs included. -/
def moveLog (c : Config) (tool : Site → Invocation → ToolResult) : Move → List Event
  | .noted event => [event]
  | .asked site call _ =>
    c.callEvents call ++ c.resultEvents call (tool site (c.invocation call))
  | .started ticket => ticket.deletion.startEvents ++ c.callEvents ticket.call
  | .landed landing =>
    c.resultEvents landing.ticket.call
        (tool landing.ticket.site (c.invocation landing.ticket.call)) ++
      landing.ticket.deletion.landingEvents landing.result

/-- What is reported during some moves, the tool's runs included. -/
def log (c : Config) (tool : Site → Invocation → ToolResult) (moves : List Move) : List Event :=
  moves.flatMap (c.moveLog tool)

@[simp] theorem log_nil (c : Config) (tool : Site → Invocation → ToolResult) :
    c.log tool [] = [] := rfl

@[simp] theorem log_append (c : Config) (tool : Site → Invocation → ToolResult)
    (a b : List Move) : c.log tool (a ++ b) = c.log tool a ++ c.log tool b :=
  List.flatMap_append

end CloudSweep.Gcloud.Config
