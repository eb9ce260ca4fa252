/-
How the parts of a sweep may run. For each part there is one list of all the ways in which its runs
go, each with what the cloud answered, the moves that follow from it and the outcome; what holds of
a part under every cloud and every schedule is read off that list, case by case.
-/
import CloudSweep.Proofs.Program.Sequence
import CloudSweep.Sweep.Project

namespace CloudSweep.Sweep

open Program (Runs)

variable {cloud : Cloud} {s : Settings} {moves : List Move}

/-! ## Tickets -/

theorem mem_mapIdx_iff {α β : Type} {f : Nat → α → β} {as : List α} {b : β} :
    b ∈ as.mapIdx f ↔ ∃ i a, as[i]? = some a ∧ b = f i a := by
  simp only [List.mem_mapIdx, List.getElem?_eq_some_iff]
  constructor
  · rintro ⟨i, hi, rfl⟩
    exact ⟨i, as[i], ⟨hi, rfl⟩, rfl⟩
  · rintro ⟨i, _, ⟨hi, rfl⟩, rfl⟩
    exact ⟨i, hi, rfl⟩

theorem mem_requestTickets {service index : Nat} {requests : List DeleteRequest} {ticket : Ticket} :
    ticket ∈ requestTickets service index requests ↔
      ∃ r request, requests[r]? = some request ∧
        ticket = { site := .deletion service index r, deletion := .resources request } :=
  mem_mapIdx_iff

theorem mem_clusterTickets {index : Nat} {e : ClusterEndpoint} {targets : List ClusterTarget}
    {ticket : Ticket} :
    ticket ∈ clusterTickets s index e targets ↔
      ∃ i target, targets[i]? = some target ∧
        ticket = { site := .cluster index i, deletion := .cluster e.override s.project target } :=
  mem_mapIdx_iff

/-! ## Subnets -/

/-- The runs of `subnet`: its ranges cannot be told, or it has none, or one of them has no name, or
their removal is only reported, or they are removed, or that is refused. -/
inductive SubnetRun (cloud : Cloud) (s : Settings) (index : Nat) (target : Subnet) :
    List Move → SubnetOutcome → Prop
  | unknown {error : CallError}
      (description : cloud.answer (.subnetDescription index) (.describeSubnet s.project target) =
        .error error) :
      SubnetRun cloud s index target
        [.asked (.subnetDescription index) (.describeSubnet s.project target) (.error error),
          .noted (.rangesUnknown target s.project error)]
        .skipped
  | bare
      (description : cloud.answer (.subnetDescription index) (.describeSubnet s.project target) =
        .ok []) :
      SubnetRun cloud s index target
        [.asked (.subnetDescription index) (.describeSubnet s.project target) (.ok []),
          .noted (.noRanges target)]
        .unchanged
  | nameless {ranges : List SecondaryRange} {range : SecondaryRange}
      (description : cloud.answer (.subnetDescription index) (.describeSubnet s.project target) =
        .ok ranges)
      (unnamed : SecondaryRange.names ranges = .error range) :
      SubnetRun cloud s index target
        [.asked (.subnetDescription index) (.describeSubnet s.project target) (.ok ranges),
          .noted (.namelessRange target range)]
        .skipped
  | dry {ranges : List SecondaryRange} {names : List String}
      (description : cloud.answer (.subnetDescription index) (.describeSubnet s.project target) =
        .ok ranges)
      (nonempty : ranges ≠ []) (named : SecondaryRange.names ranges = .ok names)
      (dry : s.dryRun = true) :
      SubnetRun cloud s index target
        [.asked (.subnetDescription index) (.describeSubnet s.project target) (.ok ranges),
          .noted (.wouldRemoveRanges target names)]
        .updated
  | updated {ranges : List SecondaryRange} {names : List String}
      (description : cloud.answer (.subnetDescription index) (.describeSubnet s.project target) =
        .ok ranges)
      (nonempty : ranges ≠ []) (named : SecondaryRange.names ranges = .ok names)
      (live : s.dryRun = false)
      (update : cloud.answer (.subnetUpdate index) (.updateSubnet s.project target names) = .ok ()) :
      SubnetRun cloud s index target
        [.asked (.subnetDescription index) (.describeSubnet s.project target) (.ok ranges),
          .noted (.removingRanges target names),
          .asked (.subnetUpdate index) (.updateSubnet s.project target names) (.ok ())]
        .updated
  | refused {ranges : List SecondaryRange} {names : List String} {error : CallError}
      (description : cloud.answer (.subnetDescription index) (.describeSubnet s.project target) =
        .ok ranges)
      (nonempty : ranges ≠ []) (named : SecondaryRange.names ranges = .ok names)
      (live : s.dryRun = false)
      (update : cloud.answer (.subnetUpdate index) (.updateSubnet s.project target names) =
        .error error) :
      SubnetRun cloud s index target
        [.asked (.subnetDescription index) (.describeSubnet s.project target) (.ok ranges),
          .noted (.removingRanges target names),
          .asked (.subnetUpdate index) (.updateSubnet s.project target names) (.error error),
          .noted (.rangesNotRemoved target s.project error)]
        .skipped

theorem subnetRun {index : Nat} {target : Subnet} {outcome : SubnetOutcome}
    (run : (subnet s index target).Runs cloud moves outcome) :
    SubnetRun cloud s index target moves outcome := by
  unfold subnet at run
  rw [Program.bind_eq, Program.runs_request_bind] at run
  obtain ⟨rest, rfl, run⟩ := run
  rcases ha : cloud.answer (.subnetDescription index) (.describeSubnet s.project target) with
    error | _ | ⟨first, others⟩
  · rw [ha] at run
    simp only [Program.bind_eq, Program.pure_eq, Program.say_bind, Program.runs_note,
      Program.runs_done] at run
    obtain ⟨_, rfl, rfl, rfl⟩ := run
    exact .unknown ha
  · rw [ha] at run
    simp only [Program.bind_eq, Program.pure_eq, Program.say_bind, Program.runs_note,
      Program.runs_done] at run
    obtain ⟨_, rfl, rfl, rfl⟩ := run
    exact .bare ha
  -- The subnet has ranges.
  have nonempty : first :: others ≠ [] := List.cons_ne_nil first others
  rw [ha] at run
  rcases hn : SecondaryRange.names (first :: others) with range | names
  · simp only [hn, Program.bind_eq, Program.pure_eq, Program.say_bind, Program.runs_note,
      Program.runs_done] at run
    obtain ⟨_, rfl, rfl, rfl⟩ := run
    exact .nameless ha hn
  rcases hd : s.dryRun with _ | _
  · simp only [hn, hd, Bool.false_eq_true, if_false, Program.bind_eq, Program.say_bind,
      Program.runs_note] at run
    obtain ⟨_, rfl, run⟩ := run
    rw [Program.runs_request_bind] at run
    obtain ⟨rest, rfl, run⟩ := run
    rcases hu : cloud.answer (.subnetUpdate index) (.updateSubnet s.project target names) with
      error | _
    · rw [hu] at run
      simp only [Program.pure_eq, Program.runs_note, Program.runs_done] at run
      obtain ⟨_, rfl, rfl, rfl⟩ := run
      exact .refused ha nonempty hn hd hu
    · rw [hu] at run
      obtain ⟨rfl, rfl⟩ := Program.runs_done.1 run
      exact .updated ha nonempty hn hd hu
  · simp only [hn, hd, if_true, Program.bind_eq, Program.say_bind, Program.pure_eq,
      Program.runs_note, Program.runs_done] at run
    obtain ⟨_, rfl, rfl, rfl⟩ := run
    exact .dry ha nonempty hn hd

/-- The runs of `subnets`: they cannot be listed, or the listing has a defect, or they are swept one
by one. -/
inductive SubnetsRun (cloud : Cloud) (s : Settings) :
    List Move → Except SelectionError (List SubnetOutcome) → Prop
  | unlisted {error : CallError}
      (listing : cloud.answer .subnetListing (.listSubnets s.project s.filter) = .error error) :
      SubnetsRun cloud s [.asked .subnetListing (.listSubnets s.project s.filter) (.error error)]
        (.error (.listing SubnetRecord.label error))
  | malformed {records : List SubnetRecord} {error : SelectionError}
      (listing : cloud.answer .subnetListing (.listSubnets s.project s.filter) = .ok records)
      (selection : SubnetRecord.subnets records = .error error) :
      SubnetsRun cloud s [.asked .subnetListing (.listSubnets s.project s.filter) (.ok records)]
        (.error error)
  | swept {records : List SubnetRecord} {targets : List Subnet} {part : List Move}
      {outcomes : List SubnetOutcome}
      (listing : cloud.answer .subnetListing (.listSubnets s.project s.filter) = .ok records)
      (selection : SubnetRecord.subnets records = .ok targets)
      (sweep : (Program.each (subnet s) 0 targets).Runs cloud part outcomes) :
      SubnetsRun cloud s
        (.asked .subnetListing (.listSubnets s.project s.filter) (.ok records) :: part)
        (.ok outcomes)

theorem subnetsRun {outcome : Except SelectionError (List SubnetOutcome)}
    (run : (subnets s).Runs cloud moves outcome) : SubnetsRun cloud s moves outcome := by
  unfold subnets at run
  rw [Program.bind_eq, Program.runs_request_bind] at run
  obtain ⟨rest, rfl, run⟩ := run
  rcases ha : cloud.answer .subnetListing (.listSubnets s.project s.filter) with error | records
  · rw [ha] at run
    obtain ⟨rfl, rfl⟩ := Program.runs_done.1 run
    exact .unlisted ha
  rw [ha] at run
  rcases hs : SubnetRecord.subnets records with error | targets
  · simp only [hs, Program.pure_eq, Program.runs_done] at run
    obtain ⟨rfl, rfl⟩ := run
    exact .malformed ha hs
  · simp only [hs, Program.bind_eq, Program.pure_eq, Program.runs_bind, Program.runs_done] at run
    obtain ⟨part, outcomes, _, rfl, sweep, rfl, rfl⟩ := run
    rw [List.append_nil]
    exact .swept ha hs sweep

/-! ## Deletions of a kind -/

section Kind

variable (cloud : Cloud) (s : Settings) (service index : Nat) (endpoint : Option EndpointOverride)
  (k : ResourceKind)

/-- The runs of `delete`: the plan is empty, or it is only reported, or it is carried out by a
pool. -/
inductive DeleteRun (groups : Groups) : List Move → DeletionOutcome → Prop
  | nothing (empty : k.plan groups s.project s.batchSize endpoint = []) : DeleteRun groups [] {}
  | dry {requests : List DeleteRequest}
      (planned : k.plan groups s.project s.batchSize endpoint = requests) (nonempty : requests ≠ [])
      (dry : s.dryRun = true) :
      DeleteRun groups
        (notes (.deleting k s.project (DeletionOutcome.planned requests).deleted requests.length ::
          requests.map .wouldDelete))
        (.planned requests)
  | live {requests : List DeleteRequest} {deletions : List Move} {landed : List Landing}
      (planned : k.plan groups s.project s.batchSize endpoint = requests) (nonempty : requests ≠ [])
      (live : s.dryRun = false)
      (pool : Pool.Steps cloud (max s.workers 1)
        (.ofTickets (requestTickets service index requests)) deletions (.ofLandings landed)) :
      DeleteRun groups
        (.noted (.deleting k s.project (DeletionOutcome.planned requests).deleted requests.length) ::
          deletions)
        (.ofResults (landed.filterMap requestResult?))

variable {cloud s service index endpoint k}

theorem deleteRun {groups : Groups} {outcome : DeletionOutcome}
    (run : (delete s service index endpoint k groups).Runs cloud moves outcome) :
    DeleteRun cloud s service index endpoint k groups moves outcome := by
  unfold delete at run
  dsimp only at run
  rcases hr : k.plan groups s.project s.batchSize endpoint with _ | ⟨r, rs⟩
  · rw [hr] at run
    obtain ⟨rfl, rfl⟩ := Program.runs_done.1 run
    exact .nothing hr
  -- The plan has a request, so that it is reported before anything else happens.
  rw [hr] at run
  simp only [List.isEmpty_cons, Bool.false_eq_true, if_false, Program.bind_eq, Program.say_bind,
    Program.runs_note] at run
  obtain ⟨rest, rfl, run⟩ := run
  rcases hd : s.dryRun with _ | _
  · simp only [hd, Bool.false_eq_true, if_false, Program.deleteAll_bind, Program.pure_eq,
      Program.runs_dispatch, Program.runs_done] at run
    obtain ⟨deletions, landed, _, rfl, pool, rfl, rfl⟩ := run
    rw [List.append_nil]
    exact .live hr (List.cons_ne_nil r rs) hd pool
  · simp only [hd, if_true, Program.runs_sayAll_bind, Program.pure_eq, Program.runs_done] at run
    obtain ⟨_, rfl, rfl, rfl⟩ := run
    rw [List.append_nil]
    exact .dry hr (List.cons_ne_nil r rs) hd

/-! ## Kinds -/

/-- What is reported about a listing of a kind. -/
def listingEvents (s : Settings) (k : ResourceKind) (items : List ListedItem) : List Event :=
  .listed k items.length :: (k.screenings s.cutoff items).flatMap (screeningEvents k)

variable (cloud s service index endpoint k)

/-- The runs of `select`: the listing fails, which counts or does not, or its items are grouped. -/
inductive SelectRun : List Move → Except SelectionError Groups → Prop
  | unlisted {error : CallError}
      (listing : cloud.answer (.listing service index) (.listResources (listRequest s endpoint k)) =
        .error error)
      (counts : k.tolerated = false) :
      SelectRun
        [.asked (.listing service index) (.listResources (listRequest s endpoint k)) (.error error)]
        (.error (.listing k.label error))
  | excused {error : CallError}
      (listing : cloud.answer (.listing service index) (.listResources (listRequest s endpoint k)) =
        .error error)
      (tolerated : k.tolerated = true) :
      SelectRun
        (.asked (.listing service index) (.listResources (listRequest s endpoint k)) (.error error) ::
          notes [.listingTolerated k s.project error])
        (.ok [])
  | listed {items : List ListedItem} {result : Except SelectionError Groups}
      (listing : cloud.answer (.listing service index) (.listResources (listRequest s endpoint k)) =
        .ok items)
      (grouped : k.groups? s.cutoff items = result) :
      SelectRun
        (.asked (.listing service index) (.listResources (listRequest s endpoint k)) (.ok items) ::
          notes (listingEvents s k items))
        result

/-- The runs of `kind`: the kind is passed over, or nothing can be selected, or nothing is, or what
is selected is deleted. -/
inductive KindRun : List Move → KindOutcome → Prop
  | passedOver (only : k.clearAllOnly = true) (aged : s.cutoff.isClearAll = false) :
      KindRun [.noted (.clearAllOnly k)] (.ok {})
  | failed {part : List Move} {error : SelectionError}
      (swept : k.clearAllOnly = true → s.cutoff.isClearAll = true)
      (selection : SelectRun cloud s service index endpoint k part (.error error)) :
      KindRun part (.error error)
  | spared {part : List Move} (swept : k.clearAllOnly = true → s.cutoff.isClearAll = true)
      (selection : SelectRun cloud s service index endpoint k part (.ok [])) :
      KindRun (part ++ [.noted (.nothingToDelete k)]) (.ok {})
  | selected {part rest : List Move} {groups : Groups} {outcome : DeletionOutcome}
      (swept : k.clearAllOnly = true → s.cutoff.isClearAll = true)
      (selection : SelectRun cloud s service index endpoint k part (.ok groups))
      (nonempty : groups ≠ [])
      (deletion : DeleteRun cloud s service index endpoint k groups rest outcome) :
      KindRun (part ++ rest) (.ok outcome)

variable {cloud s service index endpoint k}

theorem selectRun {result : Except SelectionError Groups}
    (run : (select s service index endpoint k).Runs cloud moves result) :
    SelectRun cloud s service index endpoint k moves result := by
  unfold select at run
  -- Not `simp`: the type of the answer, on which the rest depends, hides the call from it.
  rw [Program.bind_eq, Program.runs_request_bind] at run
  obtain ⟨rest, rfl, run⟩ := run
  rcases ha : cloud.answer (.listing service index) (.listResources (listRequest s endpoint k)) with
    error | items
  · rw [ha] at run
    rcases ht : k.tolerated with _ | _
    · simp only [ht, Bool.false_eq_true, if_false, Program.pure_eq, Program.runs_done] at run
      obtain ⟨rfl, rfl⟩ := run
      exact .unlisted ha ht
    · simp only [ht, if_true, Program.bind_eq, Program.pure_eq, Program.say_bind,
        Program.runs_note, Program.runs_done] at run
      obtain ⟨_, rfl, rfl, rfl⟩ := run
      exact .excused ha ht
  · rw [ha] at run
    simp only [Program.bind_eq, Program.pure_eq, Program.say_bind, Program.runs_note,
      Program.runs_sayAll_bind, Program.runs_done] at run
    obtain ⟨_, rfl, _, rfl, rfl, rfl⟩ := run
    rw [List.append_nil]
    exact .listed ha rfl

theorem kindRun {outcome : KindOutcome}
    (run : (kind s service endpoint index k).Runs cloud moves outcome) :
    KindRun cloud s service index endpoint k moves outcome := by
  unfold kind at run
  split at run
  · rename_i h
    rw [Bool.and_eq_true, Bool.not_eq_true'] at h
    simp only [Program.bind_eq, Program.say_bind, Program.pure_eq, Program.runs_note,
      Program.runs_done] at run
    obtain ⟨_, rfl, rfl, rfl⟩ := run
    exact .passedOver h.1 h.2
  rename_i h
  have swept : k.clearAllOnly = true → s.cutoff.isClearAll = true := fun only => by
    simpa [only] using h
  simp only [Program.bind_eq, Program.runs_bind] at run
  obtain ⟨part, result, rest, rfl, selection, run⟩ := run
  replace selection := selectRun selection
  rcases result with error | _ | ⟨g, gs⟩
  · obtain ⟨rfl, rfl⟩ := Program.runs_done.1 run
    rw [List.append_nil]
    exact .failed swept selection
  · simp only [Program.say_bind, Program.pure_eq, Program.runs_note, Program.runs_done] at run
    obtain ⟨_, rfl, rfl, rfl⟩ := run
    exact .spared swept selection
  · simp only [Program.runs_bind, Program.pure_eq, Program.runs_done] at run
    obtain ⟨deletions, outcome, _, rfl, deletion, rfl, rfl⟩ := run
    rw [List.append_nil]
    exact .selected swept selection (List.cons_ne_nil g gs) (deleteRun deletion)

/-- What is reported when the kind is over. -/
def failureEvents (s : Settings) (k : ResourceKind) : KindOutcome → List Event
  | .error error => [.kindFailed k s.project error]
  | .ok _ => []

theorem reportedKindRun {outcome : ResourceKind × KindOutcome}
    (run : (reportedKind s service endpoint index k).Runs cloud moves outcome) :
    ∃ part result, moves = part ++ notes (failureEvents s k result) ∧ outcome = (k, result) ∧
      KindRun cloud s service index endpoint k part result := by
  unfold reportedKind at run
  simp only [Program.bind_eq, Program.runs_bind] at run
  obtain ⟨part, result, rest, rfl, sweep, run⟩ := run
  refine ⟨part, result, ?_⟩
  cases result with
  | error error =>
    simp only [Program.say_bind, Program.pure_eq, Program.runs_note, Program.runs_done] at run
    obtain ⟨_, rfl, rfl, rfl⟩ := run
    exact ⟨rfl, rfl, kindRun sweep⟩
  | ok outcome =>
    simp only [Program.pure_eq, Program.runs_done] at run
    obtain ⟨rfl, rfl⟩ := run
    exact ⟨rfl, rfl, kindRun sweep⟩

end Kind

/-! ## Services -/

/-- The runs of `service`: it cannot be told whether the service is enabled, or it is not, or its
kinds are swept. -/
inductive ServiceRun (cloud : Cloud) (s : Settings) (index : Nat) (target : Service) :
    List Move → ServiceOutcome → Prop
  | unknown {error : CallError}
      (check : cloud.answer (.apiCheck index) (.checkApi s.project target.api) = .error error) :
      ServiceRun cloud s index target
        [.asked (.apiCheck index) (.checkApi s.project target.api) (.error error),
          .noted (.apiUnknown target.api s.project error)]
        .unknown
  | disabled
      (check : cloud.answer (.apiCheck index) (.checkApi s.project target.api) = .ok false) :
      ServiceRun cloud s index target
        [.asked (.apiCheck index) (.checkApi s.project target.api) (.ok false),
          .noted (.apiDisabled target.api)]
        .disabled
  | swept {part : List Move} {outcomes : List (ResourceKind × KindOutcome)}
      (check : cloud.answer (.apiCheck index) (.checkApi s.project target.api) = .ok true)
      (kinds : (Program.each (reportedKind s index target.endpoint) 0 target.kinds).Runs cloud part
        outcomes) :
      ServiceRun cloud s index target
        (.asked (.apiCheck index) (.checkApi s.project target.api) (.ok true) :: part)
        (.swept outcomes)

theorem serviceRun {index : Nat} {target : Service} {outcome : ServiceOutcome}
    (run : (service s index target).Runs cloud moves outcome) :
    ServiceRun cloud s index target moves outcome := by
  unfold service at run
  rw [Program.bind_eq, Program.runs_request_bind] at run
  obtain ⟨rest, rfl, run⟩ := run
  rcases ha : cloud.answer (.apiCheck index) (.checkApi s.project target.api) with
    error | _ | _
  · rw [ha] at run
    simp only [Program.bind_eq, Program.pure_eq, Program.say_bind, Program.runs_note,
      Program.runs_done] at run
    obtain ⟨_, rfl, rfl, rfl⟩ := run
    exact .unknown ha
  · rw [ha] at run
    simp only [Program.bind_eq, Program.pure_eq, Program.say_bind, Program.runs_note,
      Program.runs_done] at run
    obtain ⟨_, rfl, rfl, rfl⟩ := run
    exact .disabled ha
  · rw [ha] at run
    simp only [Program.bind_eq, Program.pure_eq, Program.runs_bind, Program.runs_done] at run
    obtain ⟨part, outcomes, _, rfl, kinds, rfl, rfl⟩ := run
    rw [List.append_nil]
    exact .swept ha kinds

/-! ## Clusters -/

/-- The call that lists the clusters of an endpoint. -/
abbrev clusterListCall (s : Settings) (e : ClusterEndpoint) : Call :=
  .listClusters e.override s.project s.filter

/-- The runs of `endpoint`: its clusters cannot be listed, or the listing has a defect, or none of
them is stale, or the stale ones are only reported, or they are deleted by a pool. -/
inductive EndpointRun (cloud : Cloud) (s : Settings) (index : Nat) (e : ClusterEndpoint) :
    List Move → EndpointOutcome → Prop
  | unreachable {error : CallError}
      (listing : cloud.answer (.clusterListing index) (clusterListCall s e) = .error error) :
      EndpointRun cloud s index e
        [.noted (.endpointVisited e),
          .asked (.clusterListing index) (clusterListCall s e) (.error error),
          .noted (.endpointUnreachable e s.project error)]
        .unreachable
  | malformed {records : List ClusterRecord} {error : SelectionError}
      (listing : cloud.answer (.clusterListing index) (clusterListCall s e) = .ok records)
      (selection : ClusterRecord.stale s.cutoff records = .error error) :
      EndpointRun cloud s index e
        [.noted (.endpointVisited e),
          .asked (.clusterListing index) (clusterListCall s e) (.ok records),
          .noted (.endpointMalformed e s.project error)]
        .malformed
  | spared {records : List ClusterRecord}
      (listing : cloud.answer (.clusterListing index) (clusterListCall s e) = .ok records)
      (selection : ClusterRecord.stale s.cutoff records = .ok []) :
      EndpointRun cloud s index e
        [.noted (.endpointVisited e),
          .asked (.clusterListing index) (clusterListCall s e) (.ok records)]
        (.swept 0 0)
  | dry {records : List ClusterRecord} {targets : List ClusterTarget}
      (listing : cloud.answer (.clusterListing index) (clusterListCall s e) = .ok records)
      (selection : ClusterRecord.stale s.cutoff records = .ok targets) (dry : s.dryRun = true) :
      EndpointRun cloud s index e
        (.noted (.endpointVisited e) ::
          .asked (.clusterListing index) (clusterListCall s e) (.ok records) ::
          notes (targets.map (.staleCluster e) ++ [.wouldDeleteClusters e targets.length]))
        (.swept 0 0)
  | live {records : List ClusterRecord} {targets : List ClusterTarget} {deletions : List Move}
      {landed : List Landing}
      (listing : cloud.answer (.clusterListing index) (clusterListCall s e) = .ok records)
      (selection : ClusterRecord.stale s.cutoff records = .ok targets) (live : s.dryRun = false)
      (pool : Pool.Steps cloud (max s.workers 1)
        (.ofTickets (clusterTickets s index e targets)) deletions (.ofLandings landed)) :
      EndpointRun cloud s index e
        (.noted (.endpointVisited e) ::
          .asked (.clusterListing index) (clusterListCall s e) (.ok records) ::
          (notes (targets.map (.staleCluster e)) ++ deletions))
        (.swept (targets.length - landed.countP isFailure) (landed.countP isFailure))

theorem endpointRun {index : Nat} {e : ClusterEndpoint} {outcome : EndpointOutcome}
    (run : (endpoint s index e).Runs cloud moves outcome) :
    EndpointRun cloud s index e moves outcome := by
  unfold endpoint at run
  rw [Program.bind_eq, Program.say_bind, Program.runs_note] at run
  obtain ⟨_, rfl, run⟩ := run
  rw [Program.bind_eq, Program.runs_request_bind] at run
  obtain ⟨rest, rfl, run⟩ := run
  rcases ha : cloud.answer (.clusterListing index) (clusterListCall s e) with error | records
  · rw [ha] at run
    simp only [Program.bind_eq, Program.pure_eq, Program.say_bind, Program.runs_note,
      Program.runs_done] at run
    obtain ⟨_, rfl, rfl, rfl⟩ := run
    exact .unreachable ha
  rw [ha] at run
  rcases hs : ClusterRecord.stale s.cutoff records with error | _ | ⟨t, ts⟩
  · simp only [hs, Program.bind_eq, Program.pure_eq, Program.say_bind, Program.runs_note,
      Program.runs_done] at run
    obtain ⟨_, rfl, rfl, rfl⟩ := run
    exact .malformed ha hs
  · simp only [hs, Program.pure_eq, Program.runs_done] at run
    obtain ⟨rfl, rfl⟩ := run
    exact .spared ha hs
  -- Some cluster is stale.
  simp only [hs, Program.bind_eq, Program.runs_sayAll_bind] at run
  obtain ⟨rest, rfl, run⟩ := run
  rcases hd : s.dryRun with _ | _
  · simp only [hd, Bool.false_eq_true, if_false, Program.deleteAll_bind, Program.pure_eq,
      Program.runs_dispatch, Program.runs_done] at run
    obtain ⟨deletions, landed, _, rfl, pool, rfl, rfl⟩ := run
    rw [List.append_nil]
    exact .live ha hs hd pool
  · simp only [hd, if_true, Program.say_bind, Program.pure_eq, Program.runs_note,
      Program.runs_done] at run
    obtain ⟨_, rfl, rfl, rfl⟩ := run
    have moves := EndpointRun.dry ha hs hd
    rwa [notes_append] at moves

/-! ## Projects -/

/-- The runs of `project`: the subnets, then the endpoints, then the services. -/
inductive ProjectRun (cloud : Cloud) (s : Settings) (endpoints : List ClusterEndpoint)
    (catalog : Catalog) : List Move → Report → Prop
  | parts {subnetMoves endpointMoves serviceMoves : List Move}
      {subnetOutcomes : Except SelectionError (List SubnetOutcome)}
      {endpointOutcomes : List EndpointOutcome} {serviceOutcomes : List ServiceOutcome}
      (subnetSweep : (subnets s).Runs cloud subnetMoves subnetOutcomes)
      (endpointSweep : (Program.each (endpoint s) 0 endpoints).Runs cloud endpointMoves
        endpointOutcomes)
      (serviceSweep : (Program.each (service s) 0 catalog.services).Runs cloud serviceMoves
        serviceOutcomes) :
      ProjectRun cloud s endpoints catalog
        (.noted (.sweepStarted s.project s.cutoff s.dryRun) ::
          (subnetMoves ++ .noted (subnetsEvent s subnetOutcomes) ::
            (endpointMoves ++ serviceMoves)))
        (Report.recordServices
          { clusters := .ofOutcomes ((endpoints.map (·.name)).zip endpointOutcomes)
            subnetsFailed := !subnetOutcomes.isOk }
          ((catalog.services.map (·.api)).zip serviceOutcomes))

theorem projectRun {endpoints : List ClusterEndpoint} {catalog : Catalog} {report : Report}
    (run : (project s endpoints catalog).Runs cloud moves report) :
    ProjectRun cloud s endpoints catalog moves report := by
  unfold project clusters services at run
  simp only [Program.bind_eq, Program.say_bind, Program.pure_eq, Program.bind_assoc,
    Program.done_bind, Program.runs_note, Program.runs_bind, Program.runs_done] at run
  obtain ⟨_, rfl, _, _, _, rfl, subnetSweep, _, rfl, _, _, _, rfl, endpointSweep, _, _, _, rfl,
    serviceSweep, rfl, rfl⟩ := run
  rw [List.append_nil]
  exact .parts subnetSweep endpointSweep serviceSweep

end CloudSweep.Sweep
