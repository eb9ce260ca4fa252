/-
What calls name: the subnets and clusters that listings turned up, the place that a deletion is
narrowed to, and the requests that list and delete resources.
-/
import CloudSweep.Catalog.Basic

namespace CloudSweep

/-- A subnet with its region. -/
structure Subnet where
  name : String
  region : String
  deriving DecidableEq

/-- The subnet in words. -/
def Subnet.describe (s : Subnet) : String := s.name ++ " (" ++ s.region ++ ")"

/-- Where a cluster lives. -/
inductive ClusterLocation
  | zone (name : String)
  | region (name : String)
  deriving DecidableEq

/-- The flag that names the location. -/
def ClusterLocation.flag : ClusterLocation → String
  | .zone name => "--zone=" ++ name
  | .region name => "--region=" ++ name

/-- A cluster that is to be deleted. -/
structure ClusterTarget where
  name : String
  location : ClusterLocation
  deriving DecidableEq

/-- The cluster in words. -/
def ClusterTarget.describe (t : ClusterTarget) : String := t.name ++ " " ++ t.location.flag

/-- An address at which clusters are served. -/
structure ClusterEndpoint where
  name : String
  url : String
  deriving DecidableEq

namespace ClusterEndpoint

/-- The override that sends a call to this address. -/
def override (e : ClusterEndpoint) : EndpointOverride := { service := "container", url := e.url }

/-- The addresses of Google Cloud, in the order in which they are swept. -/
def builtIn : List ClusterEndpoint := [
  { name := "test", url := "https://test-container.sandbox.googleapis.com/" },
  { name := "staging", url := "https://staging-container.sandbox.googleapis.com/" },
  { name := "staging2", url := "https://staging2-container.sandbox.googleapis.com/" },
  { name := "prod", url := "https://container.googleapis.com/" }]

end ClusterEndpoint

/-- A request to list the instances of a kind. -/
structure ListRequest where
  kind : ResourceKind
  project : String
  filter : String
  /-- The zones to which the listing is narrowed, if it is. -/
  zones : Option (List String) := none
  endpoint : Option EndpointOverride := none
  deriving DecidableEq

/-- The filter with the zones in it. -/
def ListRequest.effectiveFilter (r : ListRequest) : String :=
  match r.zones with
  | none | some [] => r.filter
  | some zones => r.filter ++ " AND zone:( " ++ " ".intercalate zones ++ " )"

/-- The place that a deletion is narrowed to. -/
inductive DeleteScope
  | none
  | global
  | zone (name : String)
  | region (name : String)
  deriving DecidableEq

/-- The flag that names the place. -/
def DeleteScope.flag? : DeleteScope → Option String
  | .none => Option.none
  | .global => some "--global"
  | .zone name => some ("--zone=" ++ name)
  | .region name => some ("--region=" ++ name)

/-- A request to delete instances of a kind, all in one place. -/
structure DeleteRequest where
  kind : ResourceKind
  project : String
  names : List String
  scope : DeleteScope
  endpoint : Option EndpointOverride := none
  deriving DecidableEq

/-- The request in words, such as `compute disks [a, b] --zone=z`. -/
def DeleteRequest.describe (r : DeleteRequest) : String :=
  r.kind.label ++ " [" ++ ", ".intercalate r.names ++ "]" ++
    match r.scope.flag? with
    | some flag => " " ++ flag
    | none => ""

end CloudSweep
