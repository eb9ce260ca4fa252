/-
Resources. The services of the catalog are swept in order, each after it was found to be enabled, and
its kinds in order: a kind is listed, its stale items are selected, and all deletions that follow
from them are over before the next kind is listed. A failure never keeps what comes later from being
swept.
-/
import CloudSweep.Deletion.Plan
import CloudSweep.Program.Basic
import CloudSweep.Report
import CloudSweep.Settings.Basic

namespace CloudSweep.Sweep

/-- The request that lists a kind. -/
def listRequest (s : Settings) (endpoint : Option EndpointOverride) (kind : ResourceKind) :
    ListRequest :=
  { kind, project := s.project, filter := s.filter, endpoint
    zones := if kind.scope = .zone ∧ kind.zoneFilter then some s.zones else none }

/-- What is reported about a screened item. -/
def screeningEvents (kind : ResourceKind) : Screening → List Event
  | .outside name => [.outsideScope kind name]
  | .spared _ => []
  | .stale candidate => [.staleItem kind candidate.name candidate.createdAt]

/-- Lists a kind and groups its stale items. A failure to list a tolerated kind leaves nothing to
delete. -/
def select (s : Settings) (service index : Nat) (endpoint : Option EndpointOverride)
    (kind : ResourceKind) : Program (Except SelectionError Groups) := do
  let request := listRequest s endpoint kind
  match ← Program.request (.listing service index) (.listResources request) with
  | .error error =>
    if kind.tolerated then
      .say (.listingTolerated kind s.project error)
      return .ok []
    else return .error (.listing kind.label error)
  | .ok items =>
    .say (.listed kind items.length)
    .sayAll ((kind.screenings s.cutoff items).flatMap (screeningEvents kind))
    return kind.groups? s.cutoff items

/-- The deletions of a kind. -/
def requestTickets (service index : Nat) (requests : List DeleteRequest) : List Ticket :=
  requests.mapIdx fun i request =>
    { site := .deletion service index i, deletion := .resources request }

/-- The result of a landing, with its request. -/
def requestResult? (l : Landing) : Option (DeleteRequest × Except CallError Unit) :=
  match l.ticket.deletion with
  | .resources request => some (request, l.result)
  | .cluster .. => none

/-- Deletes groups of a kind. -/
def delete (s : Settings) (service index : Nat) (endpoint : Option EndpointOverride)
    (kind : ResourceKind) (groups : Groups) : Program DeletionOutcome := do
  let requests := kind.plan groups s.project s.batchSize endpoint
  if requests.isEmpty then return {}
  else
    let planned := DeletionOutcome.planned requests
    .say (.deleting kind s.project planned.deleted planned.calls)
    if s.dryRun then
      .sayAll (requests.map .wouldDelete)
      return planned
    else
      let landings ← Program.deleteAll (max s.workers 1) (requestTickets service index requests)
      return .ofResults (landings.filterMap requestResult?)

/-- Sweeps a kind. -/
def kind (s : Settings) (service : Nat) (endpoint : Option EndpointOverride) (index : Nat)
    (k : ResourceKind) : Program KindOutcome := do
  if k.clearAllOnly && !s.cutoff.isClearAll then
    .say (.clearAllOnly k)
    return .ok {}
  else
    match ← select s service index endpoint k with
    | .error error => return .error error
    | .ok [] =>
      .say (.nothingToDelete k)
      return .ok {}
    | .ok groups => return .ok (← delete s service index endpoint k groups)

/-- Sweeps a kind and reports it if that fails. -/
def reportedKind (s : Settings) (service : Nat) (endpoint : Option EndpointOverride) (index : Nat)
    (k : ResourceKind) : Program (ResourceKind × KindOutcome) := do
  let outcome ← kind s service endpoint index k
  match outcome with
  | .error error => .say (.kindFailed k s.project error)
  | .ok _ => pure ()
  return (k, outcome)

/-- Sweeps a service, if it is enabled. -/
def service (s : Settings) (index : Nat) (target : Service) : Program ServiceOutcome := do
  match ← Program.request (.apiCheck index) (.checkApi s.project target.api) with
  | .error error =>
    .say (.apiUnknown target.api s.project error)
    return .unknown
  | .ok false =>
    .say (.apiDisabled target.api)
    return .disabled
  | .ok true => return .swept (← Program.each (reportedKind s index target.endpoint) 0 target.kinds)

/-- Sweeps the services of a catalog. -/
def services (s : Settings) (catalog : Catalog) : Program (List (String × ServiceOutcome)) := do
  let outcomes ← Program.each (service s) 0 catalog.services
  return (catalog.services.map (·.api)).zip outcomes

end CloudSweep.Sweep
