/-
Clusters. The endpoints are visited one after the other, and the stale clusters of one are all gone,
or have refused to go, before the next one is visited. An endpoint that cannot be reached, or whose
listing has a defect, is passed over.
-/
import CloudSweep.Program.Basic
import CloudSweep.Report
import CloudSweep.Selection.Cluster
import CloudSweep.Settings.Basic

namespace CloudSweep.Sweep

/-- The deletions of clusters of the endpoint with the given index. -/
def clusterTickets (s : Settings) (index : Nat) (endpoint : ClusterEndpoint)
    (targets : List ClusterTarget) : List Ticket :=
  targets.mapIdx fun i target =>
    { site := .cluster index i, deletion := .cluster endpoint.override s.project target }

/-- Whether a deletion failed. -/
def isFailure (l : Landing) : Bool := !l.result.isOk

/-- Sweeps the clusters of an endpoint. -/
def endpoint (s : Settings) (index : Nat) (e : ClusterEndpoint) : Program EndpointOutcome := do
  .say (.endpointVisited e)
  match ← Program.request (.clusterListing index) (.listClusters e.override s.project s.filter) with
  | .error error =>
    .say (.endpointUnreachable e s.project error)
    return .unreachable
  | .ok records =>
    match ClusterRecord.stale s.cutoff records with
    | .error error =>
      .say (.endpointMalformed e s.project error)
      return .malformed
    | .ok [] => return .swept 0 0
    | .ok targets =>
      .sayAll (targets.map (.staleCluster e))
      if s.dryRun then
        .say (.wouldDeleteClusters e targets.length)
        return .swept 0 0
      else
        let landings ← Program.deleteAll (max s.workers 1) (clusterTickets s index e targets)
        let failed := landings.countP isFailure
        return .swept (targets.length - failed) failed

/-- Sweeps the clusters of all endpoints. -/
def clusters (s : Settings) (endpoints : List ClusterEndpoint) : Program ClusterReport := do
  let outcomes ← Program.each (endpoint s) 0 endpoints
  return .ofOutcomes ((endpoints.map (·.name)).zip outcomes)

end CloudSweep.Sweep
