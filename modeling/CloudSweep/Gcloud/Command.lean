/-
Commands of the `gcloud` tool. `Gcloud.arguments` gives the words that carry out each call and
`Gcloud.environment` the variables that go with it: the project that pays, if one is set, and the
address of the service, if the call names one. Nothing is passed on from one call to the next.
-/
import CloudSweep.Call.Basic

namespace CloudSweep.Gcloud

/-- The usual name of the tool. -/
def usualProgram : String := "gcloud"

/-- The usual time for a call, in seconds. -/
def usualTimeout : Nat := 3600

/-- How the tool is run. -/
structure Config where
  /-- The program. -/
  program : String := usualProgram
  /-- The project to which calls are billed, if not the one they are about. -/
  quotaProject : Option String := none
  /-- How long a call may take, in milliseconds. -/
  timeoutMillis : Nat := usualTimeout * 1000
  /-- Why a text is no listing of a form, in the words of the library that decodes listings. -/
  explain : Listing.Form → String → String := fun _ _ => "invalid listing"

/-- One run of the tool: its arguments and the variables set for it. -/
structure Invocation where
  arguments : List String
  environment : List (String × String) := []
  deriving DecidableEq

/-- The columns of a resource listing. -/
def listFormat : String :=
  "--format=json(name,creationTimestamp.date(tz=UTC),createTime.date(tz=UTC),zone,region,isManaged)"

/-- The words that list a kind. -/
def listArguments (r : ListRequest) : List String :=
  r.kind.commandWords ++
    ["list", listFormat, "--project=" ++ r.project, "--filter=" ++ r.effectiveFilter]

/-- The words that delete instances of a kind. -/
def deleteArguments (r : DeleteRequest) : List String :=
  r.kind.commandWords ++ r.kind.managed.subcommand?.toList ++
    ["delete", "--project=" ++ r.project] ++ r.names ++ r.scope.flag?.toList ++
    r.kind.deleteFlags

/-- The words that ask whether a service is enabled. -/
def apiStateArguments (project api : String) : List String :=
  ["services", "-q", "list", "--project=" ++ project, "--filter=config.name=\"" ++ api ++ "\"",
    "--format=value(state)"]

/-- The words that carry out a call. -/
def arguments : Call → List String
  | .activateAccount keyFile => ["auth", "activate-service-account", "--key-file=" ++ keyFile]
  | .checkApi project api => apiStateArguments project api
  | .listResources request => listArguments request
  | .listSubnets project filter =>
    ["compute", "networks", "subnets", "list", "--project=" ++ project, "--filter=" ++ filter,
      "--format=json(name,region)"]
  | .describeSubnet project subnet =>
    ["compute", "networks", "subnets", "describe", subnet.name, "--project=" ++ project,
      "--region=" ++ subnet.region, "--format=json(secondaryIpRanges)"]
  | .updateSubnet project subnet ranges =>
    ["compute", "networks", "subnets", "update", subnet.name, "--project=" ++ project,
      "--region=" ++ subnet.region, "--remove-secondary-ranges=" ++ ",".intercalate ranges,
      "--quiet"]
  | .listClusters _ project filter =>
    ["container", "-q", "clusters", "list", "--project=" ++ project, "--filter=" ++ filter,
      "--format=json(name,createTime,region,zone)"]
  | .delete (.resources request) => deleteArguments request
  | .delete (.cluster _ project target) =>
    ["container", "-q", "clusters", "delete", target.name, "--project=" ++ project,
      target.location.flag]

/-- The address that a call is sent to, if it is not the usual one. -/
def endpoint? : Call → Option EndpointOverride
  | .listResources request => request.endpoint
  | .listClusters endpoint _ _ => some endpoint
  | .delete (.resources request) => request.endpoint
  | .delete (.cluster endpoint _ _) => some endpoint
  | .activateAccount _ | .checkApi .. | .listSubnets .. | .describeSubnet .. | .updateSubnet .. =>
    none

namespace Config

/-- The variables that are set for a call. -/
def environment (c : Config) (call : Call) : List (String × String) :=
  (c.quotaProject.map ("CLOUDSDK_BILLING_QUOTA_PROJECT", ·)).toList ++
    ((endpoint? call).map fun e => (e.variableName, e.url)).toList

/-- The run of the tool that carries out a call. -/
def invocation (c : Config) (call : Call) : Invocation :=
  { arguments := arguments call, environment := c.environment call }

/-- The command line of a call, for messages. -/
def commandLine (c : Config) (call : Call) : String :=
  " ".intercalate (c.program :: arguments call)

end Config
end CloudSweep.Gcloud
