/-
Subnets of a listing. Every record must carry a name and the address of a region that ends in the
region's name; one that does not spoils the listing.
-/
import CloudSweep.Call.Target
import CloudSweep.Selection.Error
import CloudSweep.Text.Segment

namespace CloudSweep.SubnetRecord

/-- Subnets in words. -/
def label : String := "compute networks subnets"

/-- Reads a record. -/
def subnet? (r : SubnetRecord) : Except SelectionError Subnet :=
  match r.name, r.region.map Text.lastSegment with
  | some name, some region =>
    if name = "" ∨ region = "" then .error (.malformed label (.incompleteSubnet r))
    else .ok { name, region }
  | _, _ => .error (.malformed label (.incompleteSubnet r))

/-- The subnets of a listing, in its order. -/
def subnets (records : List SubnetRecord) : Except SelectionError (List Subnet) :=
  records.mapM subnet?

end CloudSweep.SubnetRecord
