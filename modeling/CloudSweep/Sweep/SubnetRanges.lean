/-
Secondary ranges of subnets. A network cannot be deleted while a subnet of it carries secondary
ranges, and deleted clusters leave theirs behind. Each subnet is described and, if it has ranges,
updated once so that all of them go; a subnet one of whose ranges has no name is left alone.
-/
import CloudSweep.Program.Basic
import CloudSweep.Selection.Subnet
import CloudSweep.Settings.Basic

namespace CloudSweep

/-- What came of a subnet. -/
inductive SubnetOutcome
  /-- Its ranges were removed, or would have been. -/
  | updated
  /-- It has no ranges. -/
  | unchanged
  | skipped
  deriving DecidableEq

/-- The names of ranges, or the first range that has none. -/
def SecondaryRange.names : List SecondaryRange → Except SecondaryRange (List String)
  | [] => .ok []
  | range :: rest =>
    match range.rangeName with
    | none | some "" => .error range
    | some name => (names rest).map (name :: ·)

namespace Sweep

/-- Removes the secondary ranges of a subnet. -/
def subnet (s : Settings) (index : Nat) (target : Subnet) : Program SubnetOutcome := do
  match ← Program.request (.subnetDescription index) (.describeSubnet s.project target) with
  | .error error =>
    .say (.rangesUnknown target s.project error)
    return .skipped
  | .ok [] =>
    .say (.noRanges target)
    return .unchanged
  | .ok ranges =>
    match SecondaryRange.names ranges with
    | .error range =>
      .say (.namelessRange target range)
      return .skipped
    | .ok names =>
      if s.dryRun then
        .say (.wouldRemoveRanges target names)
        return .updated
      else
        .say (.removingRanges target names)
        match ← Program.request (.subnetUpdate index) (.updateSubnet s.project target names) with
        | .ok () => return .updated
        | .error error =>
          .say (.rangesNotRemoved target s.project error)
          return .skipped

/-- Removes the secondary ranges of all subnets. Nothing is removed when a listed subnet has a
defect. -/
def subnets (s : Settings) : Program (Except SelectionError (List SubnetOutcome)) := do
  match ← Program.request .subnetListing (.listSubnets s.project s.filter) with
  | .error error => return .error (.listing SubnetRecord.label error)
  | .ok records =>
    match SubnetRecord.subnets records with
    | .error error => return .error error
    | .ok targets => return .ok (← Program.each (subnet s) 0 targets)

/-- The event that sums up a sweep of the subnets. -/
def subnetsEvent (s : Settings) : Except SelectionError (List SubnetOutcome) → Event
  | .ok outcomes =>
    .subnetsSwept outcomes.length (outcomes.count .updated) (outcomes.count .skipped)
  | .error error => .subnetsFailed s.project error

end Sweep
end CloudSweep
