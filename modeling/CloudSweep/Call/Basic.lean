/-
Calls to the cloud. `Call` lists what a run may ask for and `Call.Value` what each call gives back.
Every call of a run has a `Site`, which no other call of the run shares, so that a function from
sites and calls to answers is all that a run sees of a cloud: `Cloud`.
-/
import CloudSweep.Call.Error
import CloudSweep.Call.Target
import CloudSweep.Listing.Record

namespace CloudSweep

/-- A call that deletes something. -/
inductive Deletion
  | resources (request : DeleteRequest)
  | cluster (endpoint : EndpointOverride) (project : String) (target : ClusterTarget)
  deriving DecidableEq

/-- A call to the cloud. -/
inductive Call
  /-- Makes the account of a key file the one that later calls use. -/
  | activateAccount (keyFile : String)
  /-- Asks whether a service is enabled on the project. -/
  | checkApi (project api : String)
  | listResources (request : ListRequest)
  | listSubnets (project filter : String)
  /-- Asks for the secondary ranges of a subnet. -/
  | describeSubnet (project : String) (subnet : Subnet)
  /-- Takes the named secondary ranges off a subnet. -/
  | updateSubnet (project : String) (subnet : Subnet) (ranges : List String)
  | listClusters (endpoint : EndpointOverride) (project filter : String)
  | delete (deletion : Deletion)
  deriving DecidableEq

/-- What a successful call gives back. -/
abbrev Call.Value : Call → Type
  | .activateAccount _ | .updateSubnet .. | .delete _ => Unit
  | .checkApi .. => Bool
  | .listResources _ => List ListedItem
  | .listSubnets .. => List SubnetRecord
  | .describeSubnet .. => List SecondaryRange
  | .listClusters .. => List ClusterRecord

/-- The answer to a call. -/
abbrev Call.Answer (c : Call) : Type := Except CallError c.Value

/-- A place in a run at which a call is made. Things are counted from zero in the order in which
they are swept. -/
inductive Site
  | activation
  | subnetListing
  | subnetDescription (subnet : Nat)
  | subnetUpdate (subnet : Nat)
  | clusterListing (endpoint : Nat)
  | cluster (endpoint target : Nat)
  | apiCheck (service : Nat)
  | listing (service kind : Nat)
  | deletion (service kind request : Nat)
  deriving DecidableEq

/-- A cloud, as a run sees it: an answer for each call at each site. -/
structure Cloud where
  answer : Site → (call : Call) → call.Answer

end CloudSweep
