/-
Stale clusters. Every record of a cluster listing must carry a name, a creation time that can be read
and a place; one record that does not spoils the listing, even where nothing hangs on its age.
-/
import CloudSweep.Call.Target
import CloudSweep.Selection.Error
import CloudSweep.Settings.Cutoff
import CloudSweep.Time.Reader

namespace CloudSweep.ClusterRecord

/-- Clusters in words. -/
def label : String := "container clusters"

/-- Where a cluster lives; a zone is preferred to a region. -/
def location? (r : ClusterRecord) : Option ClusterLocation :=
  match r.zone, r.region with
  | some zone, _ => some (.zone zone)
  | none, some region => some (.region region)
  | none, none => none

/-- Reads a record: the cluster and when it was created. -/
def target? (r : ClusterRecord) : Except Defect (ClusterTarget × Instant) :=
  match r.name with
  | none | some "" => .error .namelessCluster
  | some name =>
    match r.createTime with
    | none => .error (.clusterWithoutTime name)
    | some raw =>
      match r.location? with
      | none => .error (.clusterWithoutLocation name)
      | some location =>
        match Timestamp.read raw with
        | none => .error (.unreadableClusterTime name raw)
        | some created => .ok ({ name, location }, created)

/-- The clusters of a listing that are old enough, in its order. -/
def stale (cutoff : Cutoff) (records : List ClusterRecord) :
    Except SelectionError (List ClusterTarget) :=
  match records.mapM target? with
  | .error defect => .error (.malformed label defect)
  | .ok targets => .ok ((targets.filter fun t => cutoff.includes t.2).map Prod.fst)

end CloudSweep.ClusterRecord
