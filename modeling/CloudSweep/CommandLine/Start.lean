/-
Starting a run. The options are turned into settings and checked before anything is called; then the
account is activated, if a key file is given; then the project is swept, and it is reported that the
run begins and how it ends. What stops a start is reported with its causes.
-/
import CloudSweep.Catalog.GoogleCloud
import CloudSweep.CommandLine.Options
import CloudSweep.Gcloud.Log
import CloudSweep.Sweep.Project

namespace CloudSweep.CommandLine

namespace Options

/-- The settings that the options come to; an age has to be given. -/
def settings (o : Options) (now : Instant) : Except SettingsError Settings :=
  if o.days.isNone && o.hours.isNone then .error .missingAge
  else do
    let cutoff ← Cutoff.ofMaxAge now (o.days.getD 0) (o.hours.getD (Binary64.ofNat 0))
    let settings : Settings := {
      project := o.project
      cutoff
      filter := o.filter
      batchSize := o.ratelimit
      workers := o.workers
      zones := Zone.merge o.additionalZones
      dryRun := o.dryRun }
    settings.validate
    return settings

/-- How the tool is run. -/
def toolConfig (o : Options) : Gcloud.Config where
  program := o.gcloud
  quotaProject := if o.quotaProject then some o.project else none
  timeoutMillis := o.callTimeout * 1000

end Options

/-- Why a run did not start. -/
inductive StartError
  | settings (error : SettingsError)
  | catalog (error : CatalogError)
  | activation (keyFile : String) (error : CallError)
  deriving DecidableEq

namespace StartError

/-- The error in words. -/
def message : StartError → String
  | .settings _ => "Invalid run configuration"
  | .catalog _ => "Invalid resource catalog"
  | .activation keyFile _ => "Failed to activate service account " ++ keyFile

/-- The causes of the error, each the cause of the one before it. -/
def causes : StartError → List String
  | .settings error => [error.message]
  | .catalog error => [error.message]
  | .activation _ error => error.message :: error.cause?.toList

/-- The error with its causes, in colours, for a terminal. -/
def render (e : StartError) : String :=
  "\n\x1b[1;31mError:\x1b[0m " ++ e.message ++ "\n" ++
    String.join (e.causes.map fun cause => "  \x1b[33mCaused by:\x1b[0m " ++ cause ++ "\n")

end StartError

/-- What a started program comes to. -/
abbrev Ending := Except StartError Report

/-- The status with which the program ends. -/
def Ending.exitCode : Ending → Nat
  | .ok report => report.exitCode
  | .error _ => 1

/-- Activates the account of a key file. -/
def activate (keyFile : Option String) : Program (Except StartError Unit) :=
  match keyFile with
  | none => .done (.ok ())
  | some path => do
    match ← Program.request .activation (.activateAccount path) with
    | .ok () => return .ok ()
    | .error error => return .error (.activation path error)

namespace Options

/-- What is reported before the sweep. -/
def opening (o : Options) (s : Settings) : List Event :=
  (o.toolConfig.quotaProject.map .usingQuotaProject).toList ++ [.runStarted s.project]

/-- What is reported after the sweep. -/
def closing (s : Settings) (report : Report) : List Event :=
  report.summary ++ [.runFinished s.project report.exitCode]

/-- A sweep of the project, with what is reported around it. -/
def sweep (o : Options) (s : Settings) : Program Ending := do
  .sayAll (o.opening s)
  let report ← Sweep.project s ClusterEndpoint.builtIn Catalog.googleCloud
  .sayAll (closing s report)
  return .ok report

/-- The run that the options ask for. -/
def run (o : Options) (now : Instant) : Program Ending :=
  match o.settings now with
  | .error error => .done (.error (.settings error))
  | .ok settings =>
    match Catalog.googleCloud.validate with
    | .error error => .done (.error (.catalog error))
    | .ok () => do
      match ← activate o.serviceAccount with
      | .error error => return .error error
      | .ok () => o.sweep settings

/-- Carries out the run that the options ask for, in a monad that runs the tool. -/
def execute {m : Type → Type} [Monad m] (o : Options) (now : Instant) (report : Event → m Unit)
    (runTool : Site → Gcloud.Invocation → m Gcloud.ToolResult) : m Ending :=
  (o.run now).interpret report (o.toolConfig.perform report runTool)

end Options
end CloudSweep.CommandLine
