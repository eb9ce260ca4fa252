/-
Reports. The report of a run adds up what became of the subnets, the cluster endpoints and the
services with their kinds, and says whether the run succeeded. Failures of tolerated kinds, of the
subnets and of endpoints that cannot be reached do not count against it.
-/
import CloudSweep.Deletion.Outcome
import CloudSweep.Event

namespace CloudSweep

/-- What came of visiting a cluster endpoint. -/
inductive EndpointOutcome
  /-- Its clusters could not be listed. -/
  | unreachable
  /-- Its listing had a defect. -/
  | malformed
  /-- Its stale clusters, if any, were deleted; `failed` of the deletions failed. -/
  | swept (deleted failed : Nat)
  deriving DecidableEq

/-- What came of the cluster endpoints. -/
structure ClusterReport where
  visited : Nat := 0
  unreachable : List String := []
  malformed : List String := []
  deleted : Nat := 0
  failedDeletions : Nat := 0
  deriving DecidableEq

namespace ClusterReport

/-- Whether a failure counts. -/
def isFailed (r : ClusterReport) : Bool := !r.malformed.isEmpty || 0 < r.failedDeletions

/-- The report with one more endpoint. -/
def record (r : ClusterReport) (endpoint : String) : EndpointOutcome → ClusterReport
  | .unreachable =>
    { r with visited := r.visited + 1, unreachable := r.unreachable ++ [endpoint] }
  | .malformed => { r with visited := r.visited + 1, malformed := r.malformed ++ [endpoint] }
  | .swept deleted failed =>
    { r with
      visited := r.visited + 1
      deleted := r.deleted + deleted
      failedDeletions := r.failedDeletions + failed }

/-- The report on endpoints in the order of their visits. -/
def ofOutcomes (outcomes : List (String × EndpointOutcome)) : ClusterReport :=
  outcomes.foldl (fun r (endpoint, outcome) => r.record endpoint outcome) {}

end ClusterReport

/-- What came of a kind: its deletions, or the reason why nothing could be selected. -/
abbrev KindOutcome := Except SelectionError DeletionOutcome

/-- What came of a service. -/
inductive ServiceOutcome
  /-- It is not enabled on the project. -/
  | disabled
  /-- It could not be told whether it is enabled. -/
  | unknown
  /-- Its kinds were swept, in order. -/
  | swept (kinds : List (ResourceKind × KindOutcome))

/-- The report of a run. -/
structure Report where
  kindsSwept : Nat := 0
  /-- Services that are not enabled. -/
  disabledApis : List String := []
  /-- Services of which it could not be told whether they are enabled. -/
  failedApis : List String := []
  /-- Kinds that could not be selected from, or of which a deletion failed. -/
  failedKinds : List String := []
  deletionCalls : Nat := 0
  deleted : Nat := 0
  failedDeletions : Nat := 0
  /-- Failed deletions of tolerated kinds. -/
  toleratedFailures : Nat := 0
  clusters : ClusterReport := {}
  subnetsFailed : Bool := false
  deriving DecidableEq

namespace Report

/-- The report with the deletions of one more kind. -/
def recordDeletions (r : Report) (title : String) (outcome : DeletionOutcome) : Report :=
  { r with
    kindsSwept := r.kindsSwept + 1
    deletionCalls := r.deletionCalls + outcome.calls
    deleted := r.deleted + outcome.deleted
    failedDeletions := r.failedDeletions + outcome.failures.length
    toleratedFailures := r.toleratedFailures + outcome.tolerated
    failedKinds := if outcome.isFailed then r.failedKinds ++ [title] else r.failedKinds }

/-- The report with one more kind. -/
def recordKind (r : Report) (kind : ResourceKind) : KindOutcome → Report
  | .ok outcome => r.recordDeletions kind.title outcome
  | .error _ =>
    { r with kindsSwept := r.kindsSwept + 1, failedKinds := r.failedKinds ++ [kind.title] }

/-- The report with one more service. -/
def recordService (r : Report) (api : String) : ServiceOutcome → Report
  | .disabled => { r with disabledApis := r.disabledApis ++ [api] }
  | .unknown => { r with failedApis := r.failedApis ++ [api] }
  | .swept kinds => kinds.foldl (fun r (kind, outcome) => r.recordKind kind outcome) r

/-- The report with services in the order in which they were swept. -/
def recordServices (r : Report) (outcomes : List (String × ServiceOutcome)) : Report :=
  outcomes.foldl (fun r (api, outcome) => r.recordService api outcome) r

/-- Whether nothing failed that counts. -/
def isSuccess (r : Report) : Bool :=
  r.failedKinds.isEmpty && r.failedApis.isEmpty && !r.clusters.isFailed

/-- The status with which the program ends. -/
def exitCode (r : Report) : Nat := if r.isSuccess then 0 else 1

/-- The events that sum the report up. -/
def summary (r : Report) : List Event :=
  .sweepFinished r.kindsSwept r.deletionCalls r.deleted r.clusters.deleted r.disabledApis.length
      r.toleratedFailures ::
    if r.isSuccess then []
    else
      [.sweepFinishedWithFailures r.failedKinds r.failedApis r.failedDeletions
        r.clusters.failedDeletions r.clusters.malformed]

end Report
end CloudSweep
