/-
The accounts of the cluster sweep. Every endpoint is counted in exactly one way: it cannot be reached,
its listing has a defect, or its stale clusters are deleted, each by one call at its own address. What
came of an endpoint is settled by the cloud, whatever the order in which the deletions land, and so
the report has as many failures as deletions failed, and loses none of the clusters.
-/
import CloudSweep.Call.InMemory
import CloudSweep.Proofs.Report
import CloudSweep.Proofs.Sweep.Units
import Mathlib.Algebra.BigOperators.Group.List.Basic

namespace CloudSweep.Sweep

variable {cloud : Cloud} {s : Settings} {endpoints : List ClusterEndpoint} {moves : List Move}
  {report : ClusterReport}

/-! ## What comes of an endpoint -/

section Endpoint

variable (cloud : Cloud) (s : Settings) (index : Nat) (e : ClusterEndpoint)

/-- The stale clusters of the endpoint: its listing may fail, and it may have a defect. -/
def clusterSelection : Except CallError (Except SelectionError (List ClusterTarget)) :=
  (cloud.answer (.clusterListing index) (clusterListCall s e)).map (ClusterRecord.stale s.cutoff)

/-- The endpoint cannot be reached. -/
def isUnreachable : Bool := !(cloud.answer (.clusterListing index) (clusterListCall s e)).isOk

/-- The endpoint can be reached, but its listing has a defect. -/
def isSpoiled : Bool :=
  match clusterSelection cloud s index e with
  | .ok (.error _) => true
  | .ok (.ok _) | .error _ => false

/-- The stale clusters of the endpoint; none if they cannot be listed or the listing has a defect. -/
def staleClusters : List ClusterTarget :=
  match clusterSelection cloud s index e with
  | .ok (.ok targets) => targets
  | .ok (.error _) | .error _ => []

/-- How many deletions of clusters of the endpoint fail. -/
def failuresAt : Nat :=
  ((carriedOut s (endpointTickets cloud s index e)).map cloud.land).countP isFailure

/-- What comes of the endpoint. -/
def endpointOutcome : EndpointOutcome :=
  match clusterSelection cloud s index e with
  | .error _ => .unreachable
  | .ok (.error _) => .malformed
  | .ok (.ok _) =>
    .swept ((carriedOut s (endpointTickets cloud s index e)).length - failuresAt cloud s index e)
      (failuresAt cloud s index e)

variable {cloud s index e}

theorem staleClusters_of_listing {records : List ClusterRecord} {targets : List ClusterTarget}
    (listing : cloud.answer (.clusterListing index) (clusterListCall s e) = .ok records)
    (accepted : ClusterRecord.stale s.cutoff records = .ok targets) :
    staleClusters cloud s index e = targets := by
  simp [staleClusters, clusterSelection, Except.map, listing, accepted]

theorem isUnreachable_eq : isUnreachable cloud s index e = !(clusterSelection cloud s index e).isOk := by
  unfold isUnreachable clusterSelection
  cases cloud.answer (.clusterListing index) (clusterListCall s e) with
  | error => rfl
  | ok => rfl

theorem endpointTickets_eq :
    endpointTickets cloud s index e = clusterTickets s index e (staleClusters cloud s index e) := by
  unfold endpointTickets staleClusters clusterSelection
  rcases cloud.answer (.clusterListing index) (clusterListCall s e) with error | records
  · rfl
  dsimp only [Except.map]
  cases ClusterRecord.stale s.cutoff records with
  | error => rfl
  | ok targets => rfl

theorem length_endpointTickets :
    (endpointTickets cloud s index e).length = (staleClusters cloud s index e).length := by
  rw [endpointTickets_eq, clusterTickets, List.length_mapIdx]

/-- No more deletions fail than are carried out. -/
theorem failuresAt_le :
    failuresAt cloud s index e ≤ (carriedOut s (endpointTickets cloud s index e)).length := by
  have bound := @List.countP_le_length _ isFailure
    ((carriedOut s (endpointTickets cloud s index e)).map cloud.land)
  rwa [List.length_map] at bound

/-- Where there is nothing to delete no deletion fails. -/
theorem carriedOut_endpointTickets_eq_nil (h : staleClusters cloud s index e = []) :
    carriedOut s (endpointTickets cloud s index e) = [] := by
  rw [endpointTickets_eq, h]
  exact carriedOut_nil

/-- Under every schedule the endpoint comes to the same. -/
theorem EndpointRun.outcome_eq {outcome : EndpointOutcome}
    (run : EndpointRun cloud s index e moves outcome) :
    outcome = endpointOutcome cloud s index e := by
  unfold endpointOutcome
  cases run with
  | unreachable listing => simp [clusterSelection, Except.map, listing]
  | malformed listing selection => simp [clusterSelection, Except.map, listing, selection]
  | spared listing selection =>
    have nothing : staleClusters cloud s index e = [] := staleClusters_of_listing listing selection
    simp [clusterSelection, Except.map, listing, selection, failuresAt,
      carriedOut_endpointTickets_eq_nil nothing]
  | dry listing selection dry =>
    simp [clusterSelection, Except.map, listing, selection, failuresAt, carriedOut_dry dry]
  | @live records targets deletions landed listing selection live pool =>
    have stale : staleClusters cloud s index e = targets := staleClusters_of_listing listing selection
    have tickets : endpointTickets cloud s index e = clusterTickets s index e targets := by
      rw [endpointTickets_eq, stale]
    have failures : landed.countP isFailure = failuresAt cloud s index e := by
      rw [failuresAt, carriedOut_live live, tickets]
      exact pool.finished.2.2.countP_eq _
    rw [failures, carriedOut_live live, length_endpointTickets, stale]
    simp [clusterSelection, Except.map, listing, selection]

theorem endpointOutcome_eq_unreachable_iff :
    endpointOutcome cloud s index e = .unreachable ↔ isUnreachable cloud s index e = true := by
  rw [isUnreachable_eq, endpointOutcome]
  rcases clusterSelection cloud s index e with error | error | targets
  · exact iff_of_true rfl rfl
  · exact iff_of_false nofun nofun
  · exact iff_of_false nofun nofun

theorem endpointOutcome_eq_malformed_iff :
    endpointOutcome cloud s index e = .malformed ↔ isSpoiled cloud s index e = true := by
  rw [isSpoiled, endpointOutcome]
  rcases clusterSelection cloud s index e with error | error | targets
  · exact iff_of_false nofun nofun
  · exact iff_of_true rfl rfl
  · exact iff_of_false nofun nofun

/-- What is deleted and what is not add up to what is carried out. -/
theorem counts_endpointOutcome :
    (endpointOutcome cloud s index e).failed = failuresAt cloud s index e ∧
      (endpointOutcome cloud s index e).deleted + (endpointOutcome cloud s index e).failed =
        (carriedOut s (endpointTickets cloud s index e)).length := by
  -- An endpoint that is not swept has nothing to delete.
  have unswept (h : staleClusters cloud s index e = []) :
      0 = failuresAt cloud s index e ∧ 0 = (carriedOut s (endpointTickets cloud s index e)).length := by
    rw [failuresAt, carriedOut_endpointTickets_eq_nil h]
    exact ⟨rfl, rfl⟩
  have stale := @staleClusters.eq_def cloud s index e
  rw [endpointOutcome]
  rcases hs : clusterSelection cloud s index e with error | error | targets
  · rw [hs] at stale
    exact unswept stale
  · rw [hs] at stale
    exact unswept stale
  · exact ⟨rfl, Nat.sub_add_cancel failuresAt_le⟩

end Endpoint

/-! ## All endpoints -/

/-- What is made of a list, place by place. -/
theorem map_eq_map_zipIdx {α β : Type} (f : α → β) (as : List α) :
    as.map f = as.zipIdx.map fun a => f a.1 := by
  conv_lhs => rw [← List.zipIdx_map_fst 0 as, List.map_map]
  rfl

/-- The endpoints come to the same under every schedule, each under its name. -/
theorem zip_endpointOutcomes {outcomes : List EndpointOutcome}
    (sweep : (Program.each (endpoint s) 0 endpoints).Runs cloud moves outcomes) :
    (endpoints.map (·.name)).zip outcomes =
      endpoints.zipIdx.map fun e => (e.1.name, endpointOutcome cloud s e.2 e.1) := by
  have settled := Program.results_of_runs_each (g := endpointOutcome cloud s) sweep
    fun _ _ _ _ run => (endpointRun run).outcome_eq
  rw [settled, map_eq_map_zipIdx, List.zip_map']

/-- The runs of `clusters`: the endpoints in their order, each with what comes of it. -/
theorem clustersRun (run : (clusters s endpoints).Runs cloud moves report) :
    (∃ outcomes, (Program.each (endpoint s) 0 endpoints).Runs cloud moves outcomes) ∧
      report = .ofOutcomes
        (endpoints.zipIdx.map fun e => (e.1.name, endpointOutcome cloud s e.2 e.1)) := by
  unfold clusters at run
  simp only [Program.bind_eq, Program.pure_eq, Program.runs_bind, Program.runs_done] at run
  obtain ⟨part, outcomes, _, rfl, sweep, rfl, rfl⟩ := run
  rw [List.append_nil]
  refine ⟨⟨outcomes, sweep⟩, ?_⟩
  rw [zip_endpointOutcomes sweep]

/-- A sweep of the clusters comes to its end. -/
theorem runs_clusters (cloud : Cloud) (s : Settings) (endpoints : List ClusterEndpoint) :
    ∃ moves report, (clusters s endpoints).Runs cloud moves report := by
  have within : (clusters s endpoints).Within asks (Opens s) :=
    Program.within_bind (Program.within_each (fun i e _ => within_endpoint i e) 0) fun _ => trivial
  exact ⟨_, _, Program.runs_run cloud (within.mono (fun _ _ h => h) fun _ _ h => h.room)⟩

/-- The names of the endpoints that came to an outcome, in order. -/
theorem names_of_outcome {outcome : EndpointOutcome} {p : Nat → ClusterEndpoint → Bool}
    (h : ∀ i e, endpointOutcome cloud s i e = outcome ↔ p i e = true) :
    ((endpoints.zipIdx.map fun e => (e.1.name, endpointOutcome cloud s e.2 e.1)).filter
      (·.2 = outcome)).map (·.1) = (endpoints.zipIdx.filter fun e => p e.2 e.1).map (·.1.name) := by
  have same : ((fun o : String × EndpointOutcome => decide (o.2 = outcome)) ∘
      fun e : ClusterEndpoint × Nat => (e.1.name, endpointOutcome cloud s e.2 e.1)) =
        fun e => p e.2 e.1 := by
    funext e
    exact Bool.eq_iff_iff.2 (decide_eq_true_iff.trans (h e.2 e.1))
  rw [List.filter_map, List.map_map, same]
  rfl

/-- What the report of the cluster sweep says about a run. -/
structure ClusterAccounts (cloud : Cloud) (s : Settings) (endpoints : List ClusterEndpoint)
    (moves : List Move) (report : ClusterReport) : Prop where
  visited : report.visited = endpoints.length
  unreachable : report.unreachable =
    (endpoints.zipIdx.filter fun e => isUnreachable cloud s e.2 e.1).map (·.1.name)
  malformed : report.malformed =
    (endpoints.zipIdx.filter fun e => isSpoiled cloud s e.2 e.1).map (·.1.name)
  /-- Every deletion that starts is over in the end, with the cloud's answer. -/
  landed : (landings moves).Perm ((starts moves).map cloud.land)
  failed : report.failedDeletions = (landings moves).countP isFailure
  /-- An endpoint is asked for its clusters, and each stale one is deleted by one call there. -/
  called : s.dryRun = false → calls moves = endpoints.zipIdx.flatMap fun e =>
    (.clusterListing e.2, clusterListCall s e.1) ::
      (staleClusters cloud s e.2 e.1).mapIdx fun n target =>
        (.cluster e.2 n,
          .delete (.cluster { service := "container", url := e.1.url } s.project target))
  balanced : s.dryRun = false → report.deleted + report.failedDeletions =
    (endpoints.zipIdx.map fun e => (staleClusters cloud s e.2 e.1).length).sum
  /-- The failures of an endpoint can be taken off its stale clusters. -/
  bounded : ∀ i e, endpoints[i]? = some e →
    ((landings moves).filter fun l => (SweepUnit.endpoint i).owns l.ticket.site).countP isFailure ≤
      (staleClusters cloud s i e).length
  isFailed : report.isFailed = true ↔
    report.malformed ≠ [] ∨ ∃ l ∈ landings moves, l.result.isOk = false

section Runs

variable {outcomes : List EndpointOutcome}

/-- What is carried out on the endpoints starts endpoint by endpoint. -/
theorem starts_of_endpoints
    (sweep : (Program.each (endpoint s) 0 endpoints).Runs cloud moves outcomes) :
    starts moves =
      endpoints.zipIdx.flatMap fun e => carriedOut s (endpointTickets cloud s e.2 e.1) :=
  Program.starts_of_runs_each (g := fun i e => carriedOut s (endpointTickets cloud s i e)) sweep
    fun _ _ _ _ run => (endpointRun run).starts_eq

/-- The failures of the endpoints are the deletions that landed badly. -/
theorem sum_failuresAt
    (sweep : (Program.each (endpoint s) 0 endpoints).Runs cloud moves outcomes) :
    (endpoints.zipIdx.map fun e => failuresAt cloud s e.2 e.1).sum =
      (landings moves).countP isFailure := by
  rw [sweep.landings_perm.countP_eq, starts_of_endpoints sweep, List.map_flatMap, List.countP_flatMap]
  rfl

/-- In a live run each stale cluster is deleted by a call of its own. -/
theorem calls_of_endpoints (live : s.dryRun = false)
    (sweep : (Program.each (endpoint s) 0 endpoints).Runs cloud moves outcomes) :
    calls moves = endpoints.zipIdx.flatMap fun e =>
      (.clusterListing e.2, clusterListCall s e.1) ::
        (staleClusters cloud s e.2 e.1).mapIdx fun n target =>
          (.cluster e.2 n,
            .delete (.cluster { service := "container", url := e.1.url } s.project target)) := by
  refine Program.calls_of_runs_each (g := fun i e => (.clusterListing i, clusterListCall s e) ::
    (staleClusters cloud s i e).mapIdx fun n target => (.cluster i n,
      .delete (.cluster { service := "container", url := e.url } s.project target))) sweep
    fun i e part outcome run => ?_
  rw [(endpointRun run).calls_eq, endpointCalls, deletionCalls, carriedOut_live live,
    endpointTickets_eq, clusterTickets, List.mapIdx_eq_zipIdx_map, List.mapIdx_eq_zipIdx_map,
    List.map_map]
  rfl

/-- No more deletions fail on an endpoint than it has stale clusters. -/
theorem failures_at_endpoint_le {i : Nat} {e : ClusterEndpoint} (he : endpoints[i]? = some e)
    (sweep : (Program.each (endpoint s) 0 endpoints).Runs cloud moves outcomes) :
    ((landings moves).filter fun l => (SweepUnit.endpoint i).owns l.ticket.site).countP isFailure ≤
      (staleClusters cloud s i e).length := by
  have apart (a : ClusterEndpoint × Nat) (other : a.2 ≠ i) :
      ∀ t ∈ carriedOut s (endpointTickets cloud s a.2 a.1),
        (SweepUnit.endpoint i).owns t.site = false := by
    intro t ht
    obtain ⟨n, target, rfl⟩ := mem_endpointTickets (mem_carriedOut.1 ht).2
    simp [SweepUnit.owns, Site.unit?, SweepUnit.covers, other.symm]
  have own : (starts moves).filter (fun t => (SweepUnit.endpoint i).owns t.site) =
      (carriedOut s (endpointTickets cloud s i e)).filter
        fun t => (SweepUnit.endpoint i).owns t.site := by
    rw [starts_of_endpoints sweep, filter_flatMap_zipIdx apart, he]
    rfl
  have landed : ((landings moves).filter fun l => (SweepUnit.endpoint i).owns l.ticket.site).Perm
      (((starts moves).filter fun t => (SweepUnit.endpoint i).owns t.site).map cloud.land) := by
    have perm := sweep.landings_perm.filter fun l => (SweepUnit.endpoint i).owns l.ticket.site
    rwa [List.filter_map] at perm
  calc ((landings moves).filter fun l => (SweepUnit.endpoint i).owns l.ticket.site).countP isFailure
      ≤ ((landings moves).filter fun l => (SweepUnit.endpoint i).owns l.ticket.site).length :=
        List.countP_le_length
    _ = ((carriedOut s (endpointTickets cloud s i e)).filter
          fun t => (SweepUnit.endpoint i).owns t.site).length := by
        rw [landed.length_eq, List.length_map, own]
    _ ≤ (carriedOut s (endpointTickets cloud s i e)).length := List.length_filter_le _ _
    _ ≤ (endpointTickets cloud s i e).length := length_carriedOut_le
    _ = (staleClusters cloud s i e).length := length_endpointTickets

end Runs

/-- The cluster sweep comes to its end, and under every schedule its report accounts for each endpoint
once and for each stale cluster once. -/
theorem clusterAccounts_of_runs (cloud : Cloud) (s : Settings) (endpoints : List ClusterEndpoint) :
    (∃ moves report, (clusters s endpoints).Runs cloud moves report) ∧
      ∀ moves report, (clusters s endpoints).Runs cloud moves report →
        ClusterAccounts cloud s endpoints moves report := by
  refine ⟨runs_clusters cloud s endpoints, fun moves report run => ?_⟩
  obtain ⟨⟨outcomes, sweep⟩, rfl⟩ := clustersRun run
  rw [ClusterReport.ofOutcomes_eq]
  have failed : ((endpoints.zipIdx.map fun e => (e.1.name, endpointOutcome cloud s e.2 e.1)).map
      (·.2.failed)).sum = (landings moves).countP isFailure := by
    rw [← sum_failuresAt sweep, List.map_map]
    exact congrArg List.sum (List.map_congr_left fun e _ => counts_endpointOutcome.1)
  refine ⟨?_, names_of_outcome fun _ _ => endpointOutcome_eq_unreachable_iff,
    names_of_outcome fun _ _ => endpointOutcome_eq_malformed_iff, sweep.landings_perm, failed,
    fun live => calls_of_endpoints live sweep, fun live => ?_,
    fun i e he => failures_at_endpoint_le he sweep, ?_⟩
  · rw [List.length_map, List.length_zipIdx]
  · -- Endpoint by endpoint what is deleted and what is not are all the stale clusters.
    rw [List.map_map, List.map_map, ← List.sum_map_add]
    refine congrArg List.sum (List.map_congr_left fun e _ => ?_)
    refine counts_endpointOutcome.2.trans ?_
    rw [carriedOut_live live, length_endpointTickets]
  · rw [ClusterReport.isFailed_eq_true_iff]
    dsimp only
    rw [failed, List.countP_pos_iff]
    simp only [isFailure, Bool.not_eq_true']

/-- Endpoints of which the first cannot be reached and the second has a listing with a defect. -/
def fourEndpoints : List ClusterEndpoint := [
  { name := "away", url := "https://away/" }, { name := "odd", url := "https://odd/" },
  { name := "busy", url := "https://busy/" }, { name := "idle", url := "https://idle/" }]

/-- Two old clusters at the third of these endpoints, one of which cannot be deleted. -/
def fourAddresses : InMemory where
  clusters := [
    ("https://odd/", [{ name := some "a", createTime := some "2020-01-01T00:00:00Z" }]),
    ("https://busy/", [
      { name := some "b", createTime := some "2020-01-01T00:00:00Z", zone := some "z" },
      { name := some "c", createTime := some "2020-01-01T00:00:00Z", region := some "r" }])]
  unreachable := ["https://away/"]
  protectedClusters := ["b"]

theorem clusterAccounts_of_runs_four :
    ∃ moves report,
      (clusters { project := "p", cutoff := .clearAll } fourEndpoints).Runs fourAddresses.cloud moves
        report ∧
      report.visited = 4 ∧ report.unreachable = ["away"] ∧ report.malformed = ["odd"] ∧
      report.deleted + report.failedDeletions = 2 ∧ report.isFailed = true := by
  obtain ⟨⟨moves, report, run⟩, all⟩ := clusterAccounts_of_runs fourAddresses.cloud
    { project := "p", cutoff := .clearAll } fourEndpoints
  have accounts := all moves report run
  have malformed : report.malformed = ["odd"] := accounts.malformed.trans (by decide +kernel)
  refine ⟨moves, report, run, accounts.visited, accounts.unreachable.trans (by decide +kernel),
    malformed, (accounts.balanced rfl).trans (by decide +kernel), accounts.isFailed.2 (.inl ?_)⟩
  rw [malformed]
  exact List.cons_ne_nil _ _

end CloudSweep.Sweep
