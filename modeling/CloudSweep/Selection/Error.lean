/-
What can go wrong while something is selected for deletion: its listing fails, or the listing holds
a record that a listing of its kind must not hold. One such record spoils the whole listing.
-/
import CloudSweep.Call.Error
import CloudSweep.Listing.Record

namespace CloudSweep

/-- What is wrong with a listed record. -/
inductive Defect
  | namelessItem
  | missingManagedFlag (name : String)
  | noCreationTime (name : String)
  | unreadableCreationTime (name raw : String)
  | namelessCluster
  | clusterWithoutTime (name : String)
  | clusterWithoutLocation (name : String)
  | unreadableClusterTime (name raw : String)
  | incompleteSubnet (record : SubnetRecord)
  /-- A defect of another sort, in words. -/
  | other (reason : String)
  deriving DecidableEq

/-- The defect in words. -/
def Defect.reason : Defect → String
  | .namelessItem => "item has no name"
  | .missingManagedFlag name => "'" ++ name ++ "' is missing isManaged"
  | .noCreationTime name => "'" ++ name ++ "' has no creation time"
  | .unreadableCreationTime name raw =>
    "'" ++ name ++ "' has unparseable creation time '" ++ raw ++ "'"
  | .namelessCluster => "cluster has no name"
  | .clusterWithoutTime name => "'" ++ name ++ "' has no createTime"
  | .clusterWithoutLocation name => "'" ++ name ++ "' has neither zone nor region"
  | .unreadableClusterTime name raw =>
    "'" ++ name ++ "' has unparseable createTime '" ++ raw ++ "'"
  | .incompleteSubnet record => "subnet record " ++ record.describe ++ " lacks name or region"
  | .other reason => reason

/-- Why nothing could be selected; `kind` is the kind in words. -/
inductive SelectionError
  | malformed (kind : String) (defect : Defect)
  | listing (kind : String) (error : CallError)
  deriving DecidableEq

namespace SelectionError

/-- Whether a record was at fault. -/
def isMalformed : SelectionError → Bool
  | .malformed .. => true
  | .listing .. => false

/-- The error in words. -/
def message : SelectionError → String
  | .malformed kind defect => "Malformed " ++ kind ++ " item: " ++ defect.reason
  | .listing kind error => "Failed to list " ++ kind ++ ": " ++ error.message

end SelectionError
end CloudSweep
