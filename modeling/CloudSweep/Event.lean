/-
Events. A run reports what it does as events, each with a level, a message and named fields.
-/
import CloudSweep.Selection.Item
import CloudSweep.Call.Basic

namespace CloudSweep

/-- How much an event matters. -/
inductive Level
  | debug
  | info
  | warn
  | error
  deriving DecidableEq

namespace Level

/-- The name of the level. -/
def word : Level → String
  | .debug => "DEBUG"
  | .info => "INFO"
  | .warn => "WARN"
  | .error => "ERROR"

/-- The place of the level among the levels, the least one first. -/
def rank : Level → Nat
  | .debug => 0
  | .info => 1
  | .warn => 2
  | .error => 3

end Level

/-- Something that a run reports. Limits of commands are in seconds. -/
inductive Event
  | activatingAccount (keyFile : String)
  | usingQuotaProject (project : String)
  | runStarted (project : String)
  | runFinished (project : String) (status : Nat)
  | runningCommand (command : String) (limit : Nat)
  | commandTimedOut (command : String) (limit : Nat)
  | checkingApi (api : String)
  | unexpectedApiState (api state : String)
  | sweepStarted (project : String) (cutoff : Cutoff) (dryRun : Bool)
  | subnetsSwept (subnets updated skipped : Nat)
  | subnetsFailed (project : String) (error : SelectionError)
  | rangesUnknown (subnet : Subnet) (project : String) (error : CallError)
  | noRanges (subnet : Subnet)
  | namelessRange (subnet : Subnet) (range : SecondaryRange)
  | wouldRemoveRanges (subnet : Subnet) (ranges : List String)
  | removingRanges (subnet : Subnet) (ranges : List String)
  | rangesNotRemoved (subnet : Subnet) (project : String) (error : CallError)
  | endpointVisited (endpoint : ClusterEndpoint)
  | endpointUnreachable (endpoint : ClusterEndpoint) (project : String) (error : CallError)
  | endpointMalformed (endpoint : ClusterEndpoint) (project : String) (error : SelectionError)
  | staleCluster (endpoint : ClusterEndpoint) (cluster : ClusterTarget)
  | wouldDeleteClusters (endpoint : ClusterEndpoint) (count : Nat)
  | clusterDeleted (cluster : ClusterTarget)
  | clusterNotDeleted (project : String) (cluster : ClusterTarget) (error : CallError)
  | apiDisabled (api : String)
  | apiUnknown (api project : String) (error : CallError)
  | kindFailed (kind : ResourceKind) (project : String) (error : SelectionError)
  | clearAllOnly (kind : ResourceKind)
  | listingTolerated (kind : ResourceKind) (project : String) (error : CallError)
  | listed (kind : ResourceKind) (count : Nat)
  | outsideScope (kind : ResourceKind) (name : String)
  | staleItem (kind : ResourceKind) (name : String) (createdAt : Option Instant)
  | nothingToDelete (kind : ResourceKind)
  | deleting (kind : ResourceKind) (project : String) (names calls : Nat)
  | wouldDelete (request : DeleteRequest)
  | dispatching (request : DeleteRequest)
  | deleted (request : DeleteRequest)
  | notDeleted (request : DeleteRequest) (error : CallError)
  | sweepFinished (kinds calls deleted clustersDeleted disabledApis tolerated : Nat)
  | sweepFinishedWithFailures (failedKinds failedApis : List String)
      (failedDeletions clusterFailures : Nat) (malformedEndpoints : List String)

/-- The value of a field. -/
inductive FieldValue
  | text (value : String)
  | number (value : Nat)
  | flag (value : Bool)
  deriving DecidableEq

namespace Event

/-- How much the event matters. -/
def level : Event → Level
  | .runningCommand .. | .checkingApi _ | .subnetsSwept .. | .noRanges _ | .clearAllOnly _
  | .listed .. | .outsideScope .. | .staleItem .. | .nothingToDelete _ | .dispatching _
  | .deleted _ => .debug
  | .activatingAccount _ | .usingQuotaProject _ | .runStarted _ | .runFinished ..
  | .sweepStarted .. | .wouldRemoveRanges .. | .removingRanges .. | .endpointVisited _
  | .staleCluster .. | .wouldDeleteClusters .. | .clusterDeleted _ | .apiDisabled _
  | .deleting .. | .wouldDelete _ | .sweepFinished .. => .info
  | .commandTimedOut .. | .unexpectedApiState .. | .subnetsFailed .. | .rangesUnknown ..
  | .namelessRange .. | .rangesNotRemoved .. | .endpointUnreachable .. | .listingTolerated ..
  | .sweepFinishedWithFailures .. => .warn
  | .endpointMalformed .. | .clusterNotDeleted .. | .apiUnknown .. | .kindFailed ..
  | .notDeleted .. => .error

/-- What the event says. -/
def message : Event → String
  | .activatingAccount _ => "Activating service account"
  | .usingQuotaProject _ => "Using quota project"
  | .runStarted _ => "Starting janitor"
  | .runFinished .. => "Finished janitor"
  | .runningCommand .. => "Running command"
  | .commandTimedOut .. => "Command timed out, killing process"
  | .checkingApi _ => "Checking whether API is enabled"
  | .unexpectedApiState .. => "Unexpected API state, treating as disabled"
  | .sweepStarted .. => "Starting sweep"
  | .subnetsSwept .. => "Subnet cleanup finished"
  | .subnetsFailed .. => "Subnet cleanup failed, continuing"
  | .rangesUnknown .. => "Failed to describe subnet"
  | .noRanges _ => "No secondary ranges"
  | .namelessRange .. => "Secondary range without rangeName, skipping subnet"
  | .wouldRemoveRanges .. => "[dry run] Would remove secondary ranges"
  | .removingRanges .. => "Removing secondary ranges"
  | .rangesNotRemoved .. => "Failed to remove secondary ranges"
  | .endpointVisited _ => "Checking cluster endpoint"
  | .endpointUnreachable .. => "Endpoint unreachable, continuing"
  | .endpointMalformed .. => "Invalid cluster listing, skipping endpoint"
  | .staleCluster .. => "Found stale cluster"
  | .wouldDeleteClusters .. => "[dry run] Would delete clusters"
  | .clusterDeleted _ => "Deleted cluster"
  | .clusterNotDeleted .. => "Failed to delete cluster"
  | .apiDisabled _ => "API not enabled, skipping"
  | .apiUnknown .. => "Failed to check whether API is enabled"
  | .kindFailed .. => "Failed to sweep resource kind"
  | .clearAllOnly _ => "Kind has no creation time, only swept in clear-all mode"
  | .listingTolerated .. => "Listing failed, tolerated"
  | .listed .. => "Listed items"
  | .outsideScope .. => "Item outside scope, skipping"
  | .staleItem .. => "Found stale item"
  | .nothingToDelete _ => "Nothing to delete"
  | .deleting .. => "Deleting resources"
  | .wouldDelete _ => "[dry run] Would delete"
  | .dispatching _ => "Dispatching delete"
  | .deleted _ => "Deleted"
  | .notDeleted .. => "Failed to delete resources"
  | .sweepFinished .. => "Sweep finished"
  | .sweepFinishedWithFailures .. => "Sweep finished with failures"

/-- A list of texts, each in quotes. -/
def texts (values : List String) : FieldValue := .text (Text.quoteList values)

/-- The counts of a subnet sweep in words. -/
def subnetCounts (subnets updated skipped : Nat) : String :=
  "SubnetCleanupOutcome \x7b subnets: " ++ toString subnets ++ ", updated: " ++ toString updated ++
    ", skipped: " ++ toString skipped ++ " \x7d"

/-- A creation time in words. -/
def creationTime : Option Instant → String
  | some instant => "Some(" ++ instant.toText ++ ")"
  | none => "None"

/-- The fields of the event. -/
def fields : Event → List (String × FieldValue)
  | .activatingAccount keyFile => [("key_file", .text keyFile)]
  | .usingQuotaProject project | .runStarted project => [("project", .text project)]
  | .runFinished project status => [("project", .text project), ("status", .number status)]
  | .runningCommand command limit | .commandTimedOut command limit =>
    [("command", .text command), ("timeout_secs", .number limit)]
  | .checkingApi api => [("api", .text api)]
  | .unexpectedApiState api state => [("api", .text api), ("state", .text state)]
  | .sweepStarted project cutoff dryRun =>
    [("project", .text project), ("cutoff", .text cutoff.describe), ("dry_run", .flag dryRun)]
  | .subnetsSwept subnets updated skipped =>
    [("outcome", .text (subnetCounts subnets updated skipped))]
  | .subnetsFailed project error => [("project", .text project), ("error", .text error.message)]
  | .rangesUnknown subnet project error | .rangesNotRemoved subnet project error =>
    [("subnet", .text subnet.describe), ("project", .text project), ("error", .text error.message)]
  | .noRanges subnet => [("subnet", .text subnet.describe)]
  | .namelessRange subnet range =>
    [("subnet", .text subnet.describe), ("range", .text range.describe)]
  | .wouldRemoveRanges subnet ranges | .removingRanges subnet ranges =>
    [("subnet", .text subnet.describe), ("ranges", texts ranges)]
  | .endpointVisited endpoint =>
    [("endpoint", .text endpoint.name), ("url", .text endpoint.url)]
  | .endpointUnreachable endpoint project error =>
    [("endpoint", .text endpoint.name), ("project", .text project), ("error", .text error.message)]
  | .endpointMalformed endpoint project error =>
    [("endpoint", .text endpoint.name), ("project", .text project), ("error", .text error.message)]
  | .staleCluster endpoint cluster =>
    [("endpoint", .text endpoint.name), ("cluster", .text cluster.describe)]
  | .wouldDeleteClusters endpoint count =>
    [("endpoint", .text endpoint.name), ("count", .number count)]
  | .clusterDeleted cluster => [("cluster", .text cluster.describe)]
  | .clusterNotDeleted project cluster error =>
    [("kind", .text "container clusters"), ("project", .text project),
      ("cluster", .text cluster.describe), ("error", .text error.message)]
  | .apiDisabled api => [("api", .text api)]
  | .apiUnknown api project error =>
    [("api", .text api), ("project", .text project), ("error", .text error.message)]
  | .kindFailed kind project error =>
    [("kind", .text kind.title), ("project", .text project), ("error", .text error.message)]
  | .clearAllOnly kind | .nothingToDelete kind => [("kind", .text kind.title)]
  | .listingTolerated kind project error =>
    [("kind", .text kind.title), ("project", .text project), ("error", .text error.message)]
  | .listed kind count => [("kind", .text kind.title), ("count", .number count)]
  | .outsideScope kind name => [("kind", .text kind.title), ("name", .text name)]
  | .staleItem kind name createdAt =>
    [("kind", .text kind.title), ("name", .text name), ("created_at", .text (creationTime createdAt))]
  | .deleting kind project names calls =>
    [("kind", .text kind.title), ("project", .text project), ("names", .number names),
      ("calls", .number calls)]
  | .wouldDelete request | .dispatching request | .deleted request =>
    [("request", .text request.describe)]
  | .notDeleted request error =>
    [("kind", .text request.kind.title), ("project", .text request.project),
      ("names", texts request.names), ("tolerated", .flag request.kind.tolerated),
      ("error", .text error.message)]
  | .sweepFinished kinds calls names clusters disabledApis tolerated =>
    [("specs", .number kinds), ("calls", .number calls), ("deleted", .number names),
      ("clusters_deleted", .number clusters), ("disabled_apis", .number disabledApis),
      ("tolerated_failures", .number tolerated)]
  | .sweepFinishedWithFailures failedKinds failedApis failedDeletions clusterFailures
      malformedEndpoints =>
    [("failed_specs", texts failedKinds), ("failed_apis", texts failedApis),
      ("failed_deletions", .number failedDeletions), ("cluster_failures", .number clusterFailures),
      ("malformed_cluster_endpoints", texts malformedEndpoints)]

end Event
end CloudSweep
