/-
The calls of a sweep, as they follow from the cloud's answers. The sweep lists the subnets and works
on them, then visits the endpoints in their order, then the services with their kinds in theirs; each
of these has a block of calls that starts with a question, and the blocks follow one another in the
order in which they are declared, whatever fails and under every schedule.
-/
import CloudSweep.Call.InMemory
import CloudSweep.Proofs.Deletion.Plan
import CloudSweep.Proofs.Sweep.Tickets

namespace CloudSweep.Sweep

variable {cloud : Cloud} {s : Settings} {moves : List Move}

/-! ## Blocks -/

/-- The calls that carry out what is carried out of some deletions, with their sites. -/
def deletionCalls (s : Settings) (tickets : List Ticket) : List (Site × Call) :=
  (carriedOut s tickets).map fun ticket => (ticket.site, ticket.call)

section Blocks

variable (cloud : Cloud) (s : Settings)

/-- The call that takes the ranges off a subnet, if it has any, all have names and the run is not
dry. -/
def updateCalls (index : Nat) (target : Subnet) : List (Site × Call) :=
  match cloud.answer (.subnetDescription index) (.describeSubnet s.project target) with
  | .error _ | .ok [] => []
  | .ok ranges =>
    match SecondaryRange.names ranges with
    | .error _ => []
    | .ok names =>
      if s.dryRun then [] else [(.subnetUpdate index, .updateSubnet s.project target names)]

/-- The calls on a subnet. -/
def subnetCalls (index : Nat) (target : Subnet) : List (Site × Call) :=
  (.subnetDescription index, .describeSubnet s.project target) :: updateCalls cloud s index target

/-- The calls on the subnets, after they were listed. -/
def subnetsCalls : List (Site × Call) :=
  match cloud.answer .subnetListing (.listSubnets s.project s.filter) with
  | .error _ => []
  | .ok records =>
    match SubnetRecord.subnets records with
    | .error _ => []
    | .ok targets => targets.zipIdx.flatMap fun t => subnetCalls cloud s t.2 t.1

/-- The calls on an endpoint. -/
def endpointCalls (index : Nat) (e : ClusterEndpoint) : List (Site × Call) :=
  (.clusterListing index, clusterListCall s e) ::
    deletionCalls s (endpointTickets cloud s index e)

/-- The calls on a kind. -/
def kindCalls (service index : Nat) (endpoint : Option EndpointOverride) (k : ResourceKind) :
    List (Site × Call) :=
  if k.clearAllOnly && !s.cutoff.isClearAll then []
  else
    (.listing service index, .listResources (listRequest s endpoint k)) ::
      deletionCalls s (kindTickets cloud s service index endpoint k)

/-- The calls on a service, kind by kind. -/
def serviceCalls (index : Nat) (target : Service) : List (Site × Call) :=
  (.apiCheck index, .checkApi s.project target.api) ::
    match cloud.answer (.apiCheck index) (.checkApi s.project target.api) with
    | .error _ | .ok false => []
    | .ok true => target.kinds.zipIdx.flatMap fun k => kindCalls cloud s index k.2 target.endpoint k.1

end Blocks

/-! ## What a run calls -/

theorem SubnetRun.calls_eq {index : Nat} {target : Subnet} {outcome : SubnetOutcome}
    (run : SubnetRun cloud s index target moves outcome) :
    calls moves = subnetCalls cloud s index target := by
  unfold subnetCalls updateCalls
  cases run with
  | unknown description => simp [description]
  | bare description => simp [description]
  | @nameless ranges range description unnamed =>
    cases ranges with
    | nil => cases unnamed
    | cons => simp [description, unnamed]
  | @dry ranges names description nonempty named dry =>
    cases ranges with
    | nil => exact absurd rfl nonempty
    | cons => simp [description, named, dry]
  | @updated ranges names description nonempty named live =>
    cases ranges with
    | nil => exact absurd rfl nonempty
    | cons => simp [description, named, live]
  | @refused ranges names error description nonempty named live =>
    cases ranges with
    | nil => exact absurd rfl nonempty
    | cons => simp [description, named, live]

theorem SubnetsRun.calls_eq {outcome : Except SelectionError (List SubnetOutcome)}
    (run : SubnetsRun cloud s moves outcome) :
    calls moves = (.subnetListing, .listSubnets s.project s.filter) :: subnetsCalls cloud s := by
  unfold subnetsCalls
  cases run with
  | unlisted listing => simp [listing]
  | malformed listing selection => simp [listing, selection]
  | swept listing selection sweep =>
    have perSubnet := Program.calls_of_runs_each (g := subnetCalls cloud s) sweep
      fun _ _ _ _ run => (subnetRun run).calls_eq
    rw [calls_asked, perSubnet, listing]
    simp only [selection]

/-- The calls of an endpoint are its listing and what it starts. -/
theorem EndpointRun.calls_eq {index : Nat} {e : ClusterEndpoint} {outcome : EndpointOutcome}
    (run : EndpointRun cloud s index e moves outcome) :
    calls moves = endpointCalls cloud s index e := by
  have started : calls moves = (.clusterListing index, clusterListCall s e) ::
      (starts moves).map fun ticket => (ticket.site, ticket.call) := by
    cases run with
    | unreachable => rfl
    | malformed => rfl
    | spared => rfl
    | dry => simp
    | live _ _ _ pool => simp [pool.calls_eq]
  rw [started, run.starts_eq]
  rfl

section Kind

variable {service index : Nat} {endpoint : Option EndpointOverride} {k : ResourceKind}

theorem SelectRun.calls_eq {result : Except SelectionError Groups}
    (run : SelectRun cloud s service index endpoint k moves result) :
    calls moves = [(.listing service index, .listResources (listRequest s endpoint k))] := by
  cases run <;> simp

theorem DeleteRun.calls_eq {groups : Groups} {outcome : DeletionOutcome}
    (run : DeleteRun cloud s service index endpoint k groups moves outcome) :
    calls moves = (starts moves).map fun ticket => (ticket.site, ticket.call) := by
  cases run with
  | nothing => rfl
  | dry => rw [calls_notes, starts_notes, List.map_nil]
  | live _ _ _ pool => exact pool.calls_eq

/-- The calls of a kind are its listing and what it starts, unless it is passed over. -/
theorem KindRun.calls_eq {outcome : KindOutcome}
    (run : KindRun cloud s service index endpoint k moves outcome) :
    calls moves = kindCalls cloud s service index endpoint k := by
  have listed (swept : k.clearAllOnly = true → s.cutoff.isClearAll = true)
      (started : calls moves =
        (.listing service index, .listResources (listRequest s endpoint k)) ::
          (starts moves).map fun ticket => (ticket.site, ticket.call)) :
      calls moves = kindCalls cloud s service index endpoint k := by
    rw [kindCalls, if_neg (not_passedOver_iff.2 swept), started, run.starts_eq]
    rfl
  cases run with
  | passedOver only aged => simp [kindCalls, only, aged]
  | failed swept selection =>
    refine listed swept ?_
    rw [selection.calls_eq, selection.starts_eq]
    rfl
  | spared swept selection =>
    refine listed swept ?_
    rw [calls_append, starts_append, selection.calls_eq, selection.starts_eq]
    rfl
  | selected swept selection _ deletion =>
    refine listed swept ?_
    rw [calls_append, starts_append, selection.calls_eq, selection.starts_eq, deletion.calls_eq]
    rfl

end Kind

theorem ServiceRun.calls_eq {index : Nat} {target : Service} {outcome : ServiceOutcome}
    (run : ServiceRun cloud s index target moves outcome) :
    calls moves = serviceCalls cloud s index target := by
  unfold serviceCalls
  cases run with
  | unknown check => simp [check]
  | disabled check => simp [check]
  | swept check kinds =>
    have perKind := Program.calls_of_runs_each
      (g := fun j k => kindCalls cloud s index j target.endpoint k) kinds fun j k part result run => by
        obtain ⟨part, result, rfl, rfl, kindRun⟩ := reportedKindRun run
        rw [calls_append, calls_notes, List.append_nil, kindRun.calls_eq]
    rw [calls_asked, perKind, check]

/-- A run makes the calls of its blocks, one block after the other. -/
theorem ProjectRun.calls_eq {endpoints : List ClusterEndpoint} {catalog : Catalog} {report : Report}
    (run : ProjectRun cloud s endpoints catalog moves report) :
    calls moves =
      (.subnetListing, .listSubnets s.project s.filter) ::
        (subnetsCalls cloud s ++
          (endpoints.zipIdx.flatMap (fun e => endpointCalls cloud s e.2 e.1) ++
            catalog.services.zipIdx.flatMap fun a => serviceCalls cloud s a.2 a.1)) := by
  cases run with
  | parts subnetSweep endpointSweep serviceSweep =>
    have perEndpoint := Program.calls_of_runs_each (g := endpointCalls cloud s) endpointSweep
      fun _ _ _ _ run => (endpointRun run).calls_eq
    have perService := Program.calls_of_runs_each (g := serviceCalls cloud s) serviceSweep
      fun _ _ _ _ run => (serviceRun run).calls_eq
    rw [calls_noted, calls_append, (subnetsRun subnetSweep).calls_eq, calls_noted, calls_append,
      perEndpoint, perService, List.cons_append]

/-! ## The shape of the blocks -/

/-- The block starts with one call, and all that follows has a property. -/
def StartsWith (first : Site × Call) (follows : Site × Call → Prop) (block : List (Site × Call)) :
    Prop :=
  ∃ rest, block = first :: rest ∧ ∀ c ∈ rest, follows c

/-- The call describes or updates a subnet. -/
inductive WorksOnSubnet (s : Settings) : Site × Call → Prop
  | description (index : Nat) (target : Subnet) :
      WorksOnSubnet s (.subnetDescription index, .describeSubnet s.project target)
  | update (index : Nat) (target : Subnet) (ranges : List String) :
      WorksOnSubnet s (.subnetUpdate index, .updateSubnet s.project target ranges)

/-- The call deletes a cluster at the address of the endpoint. -/
inductive DeletesCluster (s : Settings) (index : Nat) (e : ClusterEndpoint) : Site × Call → Prop
  | intro (n : Nat) (target : ClusterTarget) :
      DeletesCluster s index e (.cluster index n, .delete (.cluster e.override s.project target))

/-- The call deletes instances of the kind. -/
inductive DeletesKind (service index : Nat) (k : ResourceKind) : Site × Call → Prop
  | intro (r : Nat) (request : DeleteRequest) (ofKind : request.kind = k) :
      DeletesKind service index k (.deletion service index r, .delete (.resources request))

theorem mem_carriedOut {tickets : List Ticket} {ticket : Ticket} :
    ticket ∈ carriedOut s tickets ↔ s.dryRun = false ∧ ticket ∈ tickets := by
  cases dry : s.dryRun with
  | false => simp [carriedOut_live dry]
  | true => simp [carriedOut_dry dry]

theorem forall_mem_deletionCalls {tickets : List Ticket} {P : Site × Call → Prop}
    (h : ∀ ticket ∈ tickets, P (ticket.site, ticket.call)) : ∀ c ∈ deletionCalls s tickets, P c := by
  intro c hc
  obtain ⟨ticket, ht, rfl⟩ := List.mem_map.1 hc
  exact h ticket (mem_carriedOut.1 ht).2

theorem mem_updateCalls {index : Nat} {target : Subnet} {c : Site × Call}
    (h : c ∈ updateCalls cloud s index target) :
    ∃ names, c = (.subnetUpdate index, .updateSubnet s.project target names) := by
  unfold updateCalls at h
  split at h
  · cases h
  · cases h
  split at h
  · cases h
  · rename_i names _
    split at h
    · cases h
    · exact ⟨names, List.mem_singleton.1 h⟩

theorem worksOnSubnet_of_mem {c : Site × Call} (h : c ∈ subnetsCalls cloud s) :
    WorksOnSubnet s c := by
  unfold subnetsCalls at h
  split at h
  · cases h
  split at h
  · cases h
  obtain ⟨t, -, hc⟩ := List.mem_flatMap.1 h
  rcases List.mem_cons.1 hc with rfl | hc
  · exact .description t.2 t.1
  · obtain ⟨names, rfl⟩ := mem_updateCalls hc
    exact .update t.2 t.1 names

theorem mem_endpointTickets {index : Nat} {e : ClusterEndpoint} {ticket : Ticket}
    (h : ticket ∈ endpointTickets cloud s index e) :
    ∃ n target, ticket =
      { site := .cluster index n, deletion := .cluster e.override s.project target } := by
  unfold endpointTickets at h
  split at h
  · cases h
  split at h
  · cases h
  obtain ⟨n, target, -, rfl⟩ := mem_clusterTickets.1 h
  exact ⟨n, target, rfl⟩

theorem startsWith_endpointCalls (cloud : Cloud) (s : Settings) (index : Nat) (e : ClusterEndpoint) :
    StartsWith (.clusterListing index, clusterListCall s e) (DeletesCluster s index e)
      (endpointCalls cloud s index e) := by
  refine ⟨_, rfl, forall_mem_deletionCalls fun ticket ht => ?_⟩
  obtain ⟨n, target, rfl⟩ := mem_endpointTickets ht
  exact .intro n target

section Kind

variable {service index : Nat} {endpoint : Option EndpointOverride} {k : ResourceKind}

theorem mem_kindTickets {ticket : Ticket}
    (h : ticket ∈ kindTickets cloud s service index endpoint k) :
    ∃ r names scope, ticket =
      { site := .deletion service index r
        deletion := .resources { kind := k, project := s.project, names, scope, endpoint } } := by
  unfold kindTickets at h
  split at h
  · cases h
  split at h
  · cases h
  unfold selectionTickets at h
  split at h
  · cases h
  obtain ⟨r, request, hr, rfl⟩ := mem_requestTickets.1 h
  obtain ⟨_, _, names, _, rfl⟩ := ResourceKind.mem_plan_iff.1 (List.mem_of_getElem? hr)
  exact ⟨r, names, _, rfl⟩

theorem kindCalls_eq_nil_iff :
    kindCalls cloud s service index endpoint k = [] ↔
      k.clearAllOnly = true ∧ s.cutoff ≠ .clearAll := by
  rw [← passedOver_iff, kindCalls]
  split
  · exact iff_of_true rfl (by assumption)
  · exact iff_of_false (List.cons_ne_nil _ _) (by assumption)

theorem startsWith_kindCalls (h : kindCalls cloud s service index endpoint k ≠ []) :
    StartsWith (.listing service index, .listResources (listRequest s endpoint k))
      (DeletesKind service index k) (kindCalls cloud s service index endpoint k) := by
  unfold kindCalls at h ⊢
  split
  · rename_i passedOver
    exact absurd (if_pos passedOver) h
  refine ⟨_, rfl, forall_mem_deletionCalls fun ticket ht => ?_⟩
  obtain ⟨r, names, scope, rfl⟩ := mem_kindTickets ht
  exact .intro r _ rfl

end Kind

theorem serviceCalls_of_enabled {index : Nat} {target : Service}
    (enabled : cloud.answer (.apiCheck index) (.checkApi s.project target.api) = .ok true) :
    serviceCalls cloud s index target = (.apiCheck index, .checkApi s.project target.api) ::
      target.kinds.zipIdx.flatMap fun k => kindCalls cloud s index k.2 target.endpoint k.1 := by
  rw [serviceCalls, enabled]

theorem serviceCalls_of_not_enabled {index : Nat} {target : Service}
    (h : cloud.answer (.apiCheck index) (.checkApi s.project target.api) ≠ .ok true) :
    serviceCalls cloud s index target = [(.apiCheck index, .checkApi s.project target.api)] := by
  unfold serviceCalls
  rcases check : cloud.answer (.apiCheck index) (.checkApi s.project target.api) with error | _ | _
  · rfl
  · rfl
  · exact absurd check h

/-- A sweep comes to its end, and under every schedule its calls are those on the subnets, on the
endpoints in their order and on the services in theirs, block by block, each at a site of its own. The
subnets are listed once, and described and updated after that; an endpoint is asked for its clusters
once, and what follows deletes clusters there; a service is checked once, and the blocks of its kinds
follow in their order when it turns out to be enabled, and nothing follows when not. The block of a
kind is empty when the kind asks for everything to be taken and not everything is; and otherwise the
kind is listed once, and what follows deletes instances of it. -/
theorem calls_of_runs (cloud : Cloud) (s : Settings) (endpoints : List ClusterEndpoint)
    (catalog : Catalog) :
    (∃ moves report, (project s endpoints catalog).Runs cloud moves report) ∧
      (∀ moves report, (project s endpoints catalog).Runs cloud moves report →
        calls moves =
            (.subnetListing, .listSubnets s.project s.filter) ::
              (subnetsCalls cloud s ++
                (endpoints.zipIdx.flatMap (fun e => endpointCalls cloud s e.2 e.1) ++
                  catalog.services.zipIdx.flatMap fun a => serviceCalls cloud s a.2 a.1)) ∧
          ((calls moves).map Prod.fst).Nodup) ∧
      (∀ c ∈ subnetsCalls cloud s, WorksOnSubnet s c) ∧
      (∀ i e, StartsWith (.clusterListing i, clusterListCall s e) (DeletesCluster s i e)
        (endpointCalls cloud s i e)) ∧
      (∀ i target,
        (cloud.answer (.apiCheck i) (.checkApi s.project target.api) = .ok true →
          serviceCalls cloud s i target = (.apiCheck i, .checkApi s.project target.api) ::
            target.kinds.zipIdx.flatMap fun k => kindCalls cloud s i k.2 target.endpoint k.1) ∧
        (cloud.answer (.apiCheck i) (.checkApi s.project target.api) ≠ .ok true →
          serviceCalls cloud s i target = [(.apiCheck i, .checkApi s.project target.api)])) ∧
      ∀ i j endpoint k,
        (kindCalls cloud s i j endpoint k = [] ↔ k.clearAllOnly = true ∧ s.cutoff ≠ .clearAll) ∧
        (kindCalls cloud s i j endpoint k ≠ [] →
          StartsWith (.listing i j, .listResources (listRequest s endpoint k)) (DeletesKind i j k)
            (kindCalls cloud s i j endpoint k)) := by
  refine ⟨⟨_, _, runs_project cloud endpoints catalog⟩, fun moves report run => ?_,
    fun c => worksOnSubnet_of_mem, startsWith_endpointCalls cloud s, fun i target => ?_,
    fun i j endpoint k => ⟨kindCalls_eq_nil_iff, startsWith_kindCalls⟩⟩
  · exact ⟨(projectRun run).calls_eq, nodup_sites_of_runs run⟩
  · exact ⟨serviceCalls_of_enabled, serviceCalls_of_not_enabled⟩

/-- A service with a kind that is passed over and one that is not, and a service that is disabled. -/
def troubledCatalog : Catalog where
  services := [
    { api := "compute", kinds := [
      { ResourceKind.of "compute" "routes" with clearAllOnly := true }, .of "compute" "disks"] },
    { api := "pubsub", kinds := [.of "pubsub" "topics"] }]

/-- A cloud in which subnets and clusters cannot be listed, with an old disk that stays. -/
def troubledCloud : InMemory where
  listings := [("compute disks", [(ListedItem.named "d").created "2020-01-01T00:00:00Z"])]
  deleteFailures := ["compute disks"]
  disabledApis := ["pubsub"]
  subnetListingFails := true
  unreachable := ["https://test/"]

theorem calls_of_runs_troubled :
    ∃ moves report,
      (project { project := "p", cutoff := .before ⟨1640995200, 0⟩ }
        [{ name := "test", url := "https://test/" }] troubledCatalog).Runs troubledCloud.cloud moves
          report ∧
      (calls moves).map Prod.fst =
        [.subnetListing, .clusterListing 0, .apiCheck 0, .listing 0 1, .deletion 0 1 0, .apiCheck 1] := by
  obtain ⟨⟨moves, report, run⟩, all, -⟩ := calls_of_runs troubledCloud.cloud
    { project := "p", cutoff := .before ⟨1640995200, 0⟩ } [{ name := "test", url := "https://test/" }]
    troubledCatalog
  refine ⟨moves, report, run, ?_⟩
  rw [(all moves report run).1]
  decide +kernel

end CloudSweep.Sweep
