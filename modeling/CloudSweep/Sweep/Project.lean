/-
The sweep of a project: the secondary ranges of its subnets first, then its clusters, then the
resources of the catalog. No failure of one part keeps the next from being swept; the report has
them all.
-/
import CloudSweep.Sweep.Clusters
import CloudSweep.Sweep.Resources
import CloudSweep.Sweep.SubnetRanges

namespace CloudSweep.Sweep

/-- Sweeps a project. -/
def project (s : Settings) (endpoints : List ClusterEndpoint) (catalog : Catalog) :
    Program Report := do
  .say (.sweepStarted s.project s.cutoff s.dryRun)
  let subnetOutcomes ← subnets s
  .say (subnetsEvent s subnetOutcomes)
  let clusterReport ← clusters s endpoints
  let serviceOutcomes ← services s catalog
  let report : Report := { clusters := clusterReport, subnetsFailed := !subnetOutcomes.isOk }
  return report.recordServices serviceOutcomes

end CloudSweep.Sweep
