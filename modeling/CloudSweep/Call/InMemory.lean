/-
A cloud in memory. It answers calls from tables, the same call always in the same way, and fails the
ones it is told to fail. Nothing that is deleted from it goes away.
-/
import CloudSweep.Call.Basic

namespace CloudSweep

/-- The tables of a cloud in memory. What they do not mention is empty, enabled and does not fail. -/
structure InMemory where
  /-- The items of each kind, by the kind's title; a later entry replaces an earlier one. -/
  listings : List (String × List ListedItem) := []
  /-- Kinds whose listing fails. -/
  listFailures : List String := []
  /-- Kinds whose deletions fail. -/
  deleteFailures : List String := []
  /-- Names that no deletion may hold. -/
  protectedNames : List String := []
  disabledApis : List String := []
  /-- Services of which it cannot be told whether they are enabled. -/
  failingApis : List String := []
  subnets : List SubnetRecord := []
  /-- The ranges of each subnet, by its name. A subnet without an entry cannot be described. -/
  subnetRanges : List (String × List SecondaryRange) := []
  subnetListingFails : Bool := false
  /-- Subnets that cannot be updated. -/
  fixedSubnets : List String := []
  /-- The clusters at each address. -/
  clusters : List (String × List ClusterRecord) := []
  /-- Addresses that cannot be reached. -/
  unreachable : List String := []
  /-- Names of clusters that cannot be deleted. -/
  protectedClusters : List String := []

namespace InMemory

/-- The failure of a call that is told to fail. -/
def failure (command : String) : CallError := .ofFailure command (.code 1) "injected failure"

/-- Fails a call when it is told to, and otherwise answers it. -/
def respond {α : Type} (fails : Bool) (command : String) (value : α) : Except CallError α :=
  if fails then .error (failure command) else .ok value

/-- The last entry of a table for a key. -/
def lookup {α : Type} (key : String) (table : List (String × α)) : Option α :=
  table.reverse.lookup key

/-- Answers a call from the tables. -/
def answer (m : InMemory) : (call : Call) → call.Answer
  | .activateAccount _ => .ok ()
  | .checkApi _ api =>
    respond (m.failingApis.contains api) ("services list " ++ api) (!m.disabledApis.contains api)
  | .listResources request =>
    respond (m.listFailures.contains request.kind.title) ("list " ++ request.kind.title)
      ((lookup request.kind.title m.listings).getD [])
  | .listSubnets _ _ => respond m.subnetListingFails "subnets list" m.subnets
  | .describeSubnet _ subnet =>
    match lookup subnet.name m.subnetRanges with
    | some ranges => .ok ranges
    | none => .error (failure ("subnets describe " ++ subnet.name))
  | .updateSubnet _ subnet _ =>
    respond (m.fixedSubnets.contains subnet.name) ("subnets update " ++ subnet.name) ()
  | .listClusters endpoint _ _ =>
    respond (m.unreachable.contains endpoint.url) ("clusters list @ " ++ endpoint.url)
      ((lookup endpoint.url m.clusters).getD [])
  | .delete (.resources request) =>
    respond (m.deleteFailures.contains request.kind.title ||
        request.names.any m.protectedNames.contains)
      ("delete " ++ request.describe) ()
  | .delete (.cluster _ _ target) =>
    respond (m.protectedClusters.contains target.name) ("clusters delete " ++ target.describe) ()

/-- The tables as a cloud. -/
def cloud (m : InMemory) : Cloud where
  answer _ call := m.answer call

end InMemory
end CloudSweep
