/-
Answers of the `gcloud` tool. A run of the tool either did not start, or ran out of time, or ended
with a status and some output; `Config.answer` reads that as the answer to the call.
-/
import CloudSweep.Gcloud.Command
import CloudSweep.Listing.Decode
import CloudSweep.Text.Utf8

namespace CloudSweep.Gcloud

/-- What came of a run of the tool. -/
inductive ToolResult
  | notStarted (reason : String)
  | timedOut
  /-- It ended; both outputs are bytes. -/
  | exited (status : ExitStatus) (output complaint : List UInt8)

/-- Whether a service is enabled, as the tool says it. -/
inductive ApiState
  | enabled
  | disabled
  | unexpected (word : String)
  deriving DecidableEq

/-- Reads the state of a service. The tool says nothing about one that is not enabled. -/
def ApiState.read (output : String) : ApiState :=
  let word := Text.trim output
  if word = "" then .disabled
  else if word = "ENABLED" then .enabled
  else .unexpected word

/-- Reads a listing, or says why the output is none. -/
def Config.listing {α : Type} (c : Config) (form : Listing.Form)
    (decode? : Json.Value → Option (List α)) (output : String) : Except String (List α) :=
  match Listing.answer? decode? [] output with
  | some records => .ok records
  | none => .error (c.explain form (Text.trim output))

/-- Reads the output of a successful call, or says why it is no answer. -/
def Config.read (c : Config) : (call : Call) → String → Except String call.Value
  | .activateAccount _, _ | .updateSubnet .., _ | .delete _, _ => .ok ()
  | .checkApi .., output => .ok (ApiState.read output = .enabled)
  | .listResources _, output => c.listing .items Listing.items? output
  | .listSubnets .., output => c.listing .subnets Listing.subnets? output
  | .describeSubnet .., output => c.listing .ranges Listing.ranges? output
  | .listClusters .., output => c.listing .clusters Listing.clusters? output

/-- Whether the tool ended well. -/
def succeeded : ExitStatus → Bool
  | .code value => value = 0
  | .signalled => false

/-- The answer to a call, from what came of the run that carried it out. -/
def Config.answer (c : Config) (call : Call) : ToolResult → call.Answer
  | .notStarted reason => .error (.notStarted c.program reason)
  | .timedOut => .error (.timedOut (c.commandLine call) c.timeoutMillis)
  | .exited status output complaint =>
    if succeeded status then
      (c.read call (Text.ofBytes output)).mapError fun reason =>
        @CallError.unreadable (c.commandLine call) reason
    else .error (.ofFailure (c.commandLine call) status (Text.ofBytes complaint))

/-- A cloud reached through the tool, from what comes of each run of it. -/
def Config.cloud (c : Config) (tool : Site → Invocation → ToolResult) : Cloud where
  answer site call := c.answer call (tool site (c.invocation call))

end CloudSweep.Gcloud
