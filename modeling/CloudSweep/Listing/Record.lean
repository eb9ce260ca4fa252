/-
The records that listings hold: resource items, subnets, secondary ranges and clusters. Any field
may be missing from a record.
-/
import CloudSweep.Text.Quoted

namespace CloudSweep

/-- One item of a resource listing. -/
structure ListedItem where
  name : Option String := none
  creationTimestamp : Option String := none
  createTime : Option String := none
  zone : Option String := none
  region : Option String := none
  isManaged : Option Bool := none
  deriving DecidableEq

namespace ListedItem

/-- An item with a name and nothing else. -/
def named (name : String) : ListedItem := { name := some name }

/-- The item with a creation timestamp. -/
def created (item : ListedItem) (timestamp : String) : ListedItem :=
  { item with creationTimestamp := some timestamp }

/-- The item with a zone. -/
def inZone (item : ListedItem) (zone : String) : ListedItem := { item with zone := some zone }

/-- The item with a region. -/
def inRegion (item : ListedItem) (region : String) : ListedItem :=
  { item with region := some region }

/-- The item with the managed flag set. -/
def withManaged (item : ListedItem) (managed : Bool) : ListedItem :=
  { item with isManaged := some managed }

/-- When the item was created, as written: the creation timestamp, or else the create time. -/
def creationTime (item : ListedItem) : Option String := item.creationTimestamp.or item.createTime

end ListedItem

/-- One item of a subnet listing. -/
structure SubnetRecord where
  name : Option String := none
  region : Option String := none
  deriving DecidableEq

/-- The record with the names of its fields, for messages. -/
def SubnetRecord.describe (r : SubnetRecord) : String :=
  "SubnetRecord \x7b name: " ++ Text.quoteOption r.name ++ ", region: " ++
    Text.quoteOption r.region ++ " \x7d"

/-- A secondary address range of a subnet. -/
structure SecondaryRange where
  rangeName : Option String := none
  ipCidrRange : Option String := none
  deriving DecidableEq

/-- The range with the names of its fields, for messages. -/
def SecondaryRange.describe (r : SecondaryRange) : String :=
  "SecondaryRange \x7b range_name: " ++ Text.quoteOption r.rangeName ++ ", ip_cidr_range: " ++
    Text.quoteOption r.ipCidrRange ++ " \x7d"

/-- One item of a cluster listing. -/
structure ClusterRecord where
  name : Option String := none
  createTime : Option String := none
  zone : Option String := none
  region : Option String := none
  deriving DecidableEq

/-- What a listing lists. -/
inductive Listing.Form
  | items
  | subnets
  | ranges
  | clusters
  deriving DecidableEq

end CloudSweep
