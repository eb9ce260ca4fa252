/-
Places of cluster deletions. Each deletion of a cluster is for an old record of a listing that was
accepted, and its command ends in the flag of the record's zone, or of its region where there is no
zone. The record is taken at its word. One that gives the empty text for its place is accepted like
any other, even where an empty zone hides a region, and this is the one way in which a command comes to
end in a flag that names no place.
-/
import CloudSweep.Proofs.Gcloud.Environment
import CloudSweep.Proofs.Selection.Cluster
import CloudSweep.Proofs.Sweep.ClusterAccounts

namespace CloudSweep

/-! ## Records without a place -/

/-- The name of the zone or region. -/
def ClusterLocation.place : ClusterLocation → String
  | .zone name | .region name => name

namespace ClusterRecord

variable {cutoff : Cutoff} {r : ClusterRecord} {records : List ClusterRecord} {t : ClusterTarget}
  {targets : List ClusterTarget}

/-- What the record gives for its place: its zone, if it has one, and otherwise its region. -/
def place? (r : ClusterRecord) : Option String := r.zone.or r.region

/-- The record is old, and what it gives for its place is empty. -/
def Unplaced (cutoff : Cutoff) (r : ClusterRecord) : Prop :=
  r.isOld cutoff = true ∧ r.place? = some ""

theorem Describes.place?_eq (h : r.Describes t) : r.place? = some t.location.place := by
  cases h with
  | inZone _ there =>
    rw [place?, there]
    rfl
  | inRegion _ noZone there =>
    rw [place?, noZone, there]
    rfl

/-- The places of the clusters are those that the old records give. -/
theorem map_place?_eq (h : stale cutoff records = .ok targets) :
    (records.filter (isOld cutoff)).map place? = targets.map (some ·.location.place) := by
  have same : List.Forall₂ (fun r t => r.place? = some t.location.place)
      (records.filter (isOld cutoff)) targets :=
    (describes_of_stale h).imp fun _ _ => Describes.place?_eq
  rw [← List.forall₂_eq_eq_eq, List.forall₂_map_left_iff, List.forall₂_map_right_iff]
  exact same

theorem exists_empty_place_iff (h : stale cutoff records = .ok targets) :
    (∃ t ∈ targets, t.location.place = "") ↔ ∃ r ∈ records, r.Unplaced cutoff := by
  have same : some "" ∈ (records.filter (isOld cutoff)).map place? ↔
      some "" ∈ targets.map (some ·.location.place) := by rw [map_place?_eq h]
  simpa [Unplaced, and_assoc] using same.symm

/-- A cluster is that of an old record. -/
theorem exists_record_of_mem (h : stale cutoff records = .ok targets) (ht : t ∈ targets) :
    ∃ r ∈ records, r.isOld cutoff = true ∧ r.Describes t := by
  have described := describes_of_stale h
  obtain ⟨n, hn, rfl⟩ := List.getElem_of_mem ht
  have there : n < (records.filter (isOld cutoff)).length := described.length_eq ▸ hn
  obtain ⟨listed, old⟩ := List.mem_filter.1 (List.getElem_mem there)
  exact ⟨_, listed, old, described.get there hn⟩

end ClusterRecord

/-! ## Commands without a place -/

/-- The flag of a location says nothing exactly when the location has no name. -/
theorem ClusterLocation.bare_flag_iff (l : ClusterLocation) :
    l.flag = "--zone=" ∨ l.flag = "--region=" ↔ l.place = "" := by
  cases l with
  | zone name =>
    have apart : "--zone=" ++ name ≠ "--region=" := fun same => by
      simpa using congrArg String.toList same
    simp [flag, place, apart]
  | region name =>
    have apart : "--region=" ++ name ≠ "--zone=" := fun same => by
      simpa using congrArg String.toList same
    simp [flag, place, apart]

namespace Gcloud

/-- The command deletes a cluster, and its last word is the flag of a zone or region without a name. -/
inductive Placeless : Call → Prop
  | intro {override : EndpointOverride} {project : String} {target : ClusterTarget} {word : String}
      (last : (arguments (.delete (.cluster override project target))).getLast? = some word)
      (bare : word = "--zone=" ∨ word = "--region=") :
      Placeless (.delete (.cluster override project target))

/-- The command that deletes a cluster ends in the flag of its location. -/
theorem getLast?_arguments_cluster (override : EndpointOverride) (project : String)
    (target : ClusterTarget) :
    (arguments (.delete (.cluster override project target))).getLast? = some target.location.flag :=
  rfl

theorem placeless_cluster_iff {override : EndpointOverride} {project : String}
    {target : ClusterTarget} :
    Placeless (.delete (.cluster override project target)) ↔ target.location.place = "" := by
  rw [← ClusterLocation.bare_flag_iff]
  refine ⟨fun h => ?_, fun bare => .intro (getLast?_arguments_cluster ..) bare⟩
  cases h with
  | intro last bare =>
    cases last
    exact bare

end Gcloud

/-! ## Runs -/

namespace Sweep

variable {cloud : Cloud} {s : Settings} {endpoints : List ClusterEndpoint} {catalog : Catalog}
  {moves : List Move} {report : Report} {i : Nat} {e : ClusterEndpoint} {target : ClusterTarget}

/-- Stale clusters come from a listing that the endpoint gives and that is accepted. -/
theorem listing_of_mem_staleClusters (h : target ∈ staleClusters cloud s i e) :
    ∃ records, cloud.answer (.clusterListing i) (clusterListCall s e) = .ok records ∧
      ClusterRecord.stale s.cutoff records = .ok (staleClusters cloud s i e) := by
  rcases listing : cloud.answer (.clusterListing i) (clusterListCall s e) with error | records
  · simp [staleClusters, clusterSelection, Except.map, listing] at h
  rcases accepted : ClusterRecord.stale s.cutoff records with error | targets
  · simp [staleClusters, clusterSelection, Except.map, listing, accepted] at h
  · rw [staleClusters_of_listing listing accepted]
    exact ⟨records, rfl, accepted⟩

/-- The deletions in the block of an endpoint are those of its stale clusters. -/
theorem mem_endpointCalls_cluster_iff {site : Site} {override : EndpointOverride} {project : String} :
    (site, .delete (.cluster override project target)) ∈ endpointCalls cloud s i e ↔
      s.dryRun = false ∧ ∃ n, (staleClusters cloud s i e)[n]? = some target ∧
        site = .cluster i n ∧ override = e.override ∧ project = s.project := by
  unfold endpointCalls deletionCalls
  rw [endpointTickets_eq]
  constructor
  · intro called
    rcases List.mem_cons.1 called with first | later
    · cases first
    obtain ⟨ticket, ht, same⟩ := List.mem_map.1 later
    obtain ⟨live, planned⟩ := mem_carriedOut.1 ht
    obtain ⟨n, target', there, rfl⟩ := mem_clusterTickets.1 planned
    cases same
    exact ⟨live, n, there, rfl, rfl, rfl⟩
  · rintro ⟨live, n, there, rfl, rfl, rfl⟩
    have planned : Ticket.mk (.cluster i n) (.cluster e.override s.project target) ∈
        clusterTickets s i e (staleClusters cloud s i e) :=
      mem_clusterTickets.2 ⟨n, target, there, rfl⟩
    exact List.mem_cons_of_mem _ (List.mem_map.2 ⟨_, mem_carriedOut.2 ⟨live, planned⟩, rfl⟩)

/-- The deletions of clusters of a run are those of the stale clusters of its endpoints. -/
theorem mem_calls_cluster_iff (run : ProjectRun cloud s endpoints catalog moves report)
    {site : Site} {override : EndpointOverride} {project : String} :
    (site, .delete (.cluster override project target)) ∈ calls moves ↔
      s.dryRun = false ∧ ∃ i e n, endpoints[i]? = some e ∧
        (staleClusters cloud s i e)[n]? = some target ∧ site = .cluster i n ∧
        override = e.override ∧ project = s.project := by
  constructor
  · intro called
    obtain ⟨_, addressed⟩ := Gcloud.addressed_of_mem_calls run called
    cases addressed with
    | @cluster i e visited n target =>
      have inside : (Site.cluster i n).InEndpoint i := rfl
      have own := (run.mem_calls_of_endpoint visited inside).1 called
      obtain ⟨live, n, there, same⟩ := mem_endpointCalls_cluster_iff.1 own
      exact ⟨live, i, e, n, visited, there, same⟩
  · rintro ⟨live, i, e, n, visited, there, rfl, same⟩
    have inside : (Site.cluster i n).InEndpoint i := rfl
    exact (run.mem_calls_of_endpoint visited inside).2
      (mem_endpointCalls_cluster_iff.2 ⟨live, n, there, rfl, same⟩)

/-- A visited endpoint is listed, and its answer is in the trace. -/
theorem asked_listing (run : (project s endpoints catalog).Runs cloud moves report)
    (visited : endpoints[i]? = some e) :
    .asked (.clusterListing i) (clusterListCall s e)
      (cloud.answer (.clusterListing i) (clusterListCall s e)) ∈ moves := by
  have inside : (Site.clusterListing i).InEndpoint i := rfl
  have called : (.clusterListing i, clusterListCall s e) ∈ calls moves :=
    ((projectRun run).mem_calls_of_endpoint visited inside).2 List.mem_cons_self
  exact run.asked_of_mem_calls called id

/-- The endpoint in a place of the list gave a listing in this run, and the listing was accepted. -/
structure Accepted (s : Settings) (endpoints : List ClusterEndpoint) (moves : List Move) (i : Nat)
    (e : ClusterEndpoint) (records : List ClusterRecord) : Prop where
  visited : endpoints[i]? = some e
  asked : .asked (.clusterListing i) (clusterListCall s e) (.ok records) ∈ moves
  complete : ∀ r ∈ records, r.Complete

/-- The cluster of an endpoint is stale because a listing of this run says so. -/
theorem accepted_of_stale (run : (project s endpoints catalog).Runs cloud moves report)
    (visited : endpoints[i]? = some e) (h : target ∈ staleClusters cloud s i e) :
    ∃ records, Accepted s endpoints moves i e records ∧
      ClusterRecord.stale s.cutoff records = .ok (staleClusters cloud s i e) := by
  obtain ⟨records, listing, accepted⟩ := listing_of_mem_staleClusters h
  have asked := asked_listing run visited
  rw [listing] at asked
  exact ⟨records, ⟨visited, asked, ClusterRecord.complete_of_stale accepted⟩, accepted⟩

theorem Accepted.stale {records : List ClusterRecord}
    (run : (project s endpoints catalog).Runs cloud moves report)
    (h : Accepted s endpoints moves i e records) :
    ClusterRecord.stale s.cutoff records = .ok (staleClusters cloud s i e) := by
  obtain ⟨targets, accepted⟩ := ClusterRecord.exists_stale_iff.2 h.complete
  rw [staleClusters_of_listing (run.answer_eq h.asked) accepted]
  exact accepted

/-- Some deletion of a run has a command without a place exactly when the run is live and an old record
of an accepted listing gives an empty place. -/
theorem exists_placeless_iff (run : (project s endpoints catalog).Runs cloud moves report) :
    (∃ c ∈ calls moves, Gcloud.Placeless c.2) ↔
      s.dryRun = false ∧ ∃ i e records, Accepted s endpoints moves i e records ∧
        ∃ r ∈ records, r.Unplaced s.cutoff := by
  constructor
  · rintro ⟨⟨site, call⟩, called, placeless⟩
    cases id placeless with
    | @intro override project target word last bare =>
      have empty := Gcloud.placeless_cluster_iff.1 placeless
      obtain ⟨live, i, e, n, visited, there, -⟩ := (mem_calls_cluster_iff (projectRun run)).1 called
      have stale := List.mem_of_getElem? there
      obtain ⟨records, accepted, selected⟩ := accepted_of_stale run visited stale
      exact ⟨live, i, e, records, accepted,
        (ClusterRecord.exists_empty_place_iff selected).1 ⟨target, stale, empty⟩⟩
  · rintro ⟨live, i, e, records, accepted, unplaced⟩
    obtain ⟨target, stale, empty⟩ :=
      (ClusterRecord.exists_empty_place_iff (accepted.stale run)).2 unplaced
    obtain ⟨n, there⟩ := List.getElem?_of_mem stale
    exact ⟨_, (mem_calls_cluster_iff (projectRun run)).2
      ⟨live, i, e, n, accepted.visited, there, rfl, rfl, rfl⟩, Gcloud.placeless_cluster_iff.2 empty⟩

/-- A target of a selection has an empty place exactly when an old record gives one. A run comes to its
end; each deletion of a cluster in it is for an old record of an accepted listing, with the flag of
the record's zone or else of its region at the end of the command; and that flag names no place in some
command exactly when the run is live and some such record gives an empty place. -/
theorem placeless_of_runs_iff (cloud : Cloud) (s : Settings) (endpoints : List ClusterEndpoint)
    (catalog : Catalog) :
    (∀ cutoff records targets, ClusterRecord.stale cutoff records = .ok targets →
      ((∃ t ∈ targets, t.location.place = "") ↔ ∃ r ∈ records, r.Unplaced cutoff)) ∧
      (∃ moves report, (project s endpoints catalog).Runs cloud moves report) ∧
      ∀ moves report, (project s endpoints catalog).Runs cloud moves report →
        (∀ site override project target,
          (site, .delete (.cluster override project target)) ∈ calls moves →
          (∃ i e records, Accepted s endpoints moves i e records ∧ override = e.override ∧
            ∃ r ∈ records, r.isOld s.cutoff = true ∧ r.Describes target) ∧
          (Gcloud.arguments (.delete (.cluster override project target))).getLast? =
            some target.location.flag) ∧
        ((∃ c ∈ calls moves, Gcloud.Placeless c.2) ↔
          s.dryRun = false ∧ ∃ i e records, Accepted s endpoints moves i e records ∧
            ∃ r ∈ records, r.Unplaced s.cutoff) := by
  refine ⟨fun _ _ _ => ClusterRecord.exists_empty_place_iff,
    ⟨_, _, runs_project cloud endpoints catalog⟩,
    fun moves report run => ⟨?_, exists_placeless_iff run⟩⟩
  intro site override project target called
  refine ⟨?_, Gcloud.getLast?_arguments_cluster ..⟩
  obtain ⟨-, i, e, n, visited, there, -, rfl, -⟩ := (mem_calls_cluster_iff (projectRun run)).1 called
  have stale := List.mem_of_getElem? there
  obtain ⟨records, accepted, selected⟩ := accepted_of_stale run visited stale
  exact ⟨i, e, records, accepted, rfl, ClusterRecord.exists_record_of_mem selected stale⟩

/-- A cluster with an empty zone, which hides its region. -/
def hiddenRegion : ClusterRecord :=
  { name := some "c", createTime := some "2023-01-01T00:00:00", zone := some "", region := some "r" }

/-- A cloud with that cluster at one address. -/
def hiddenCloud : InMemory where
  clusters := [("https://test/", [hiddenRegion])]

/-- A sweep of everything from before the year 2024. -/
def beforeYear : Settings := { project := "p", cutoff := .before ⟨1704067200, 0⟩ }

/-- A sweep of the clusters at the address. -/
def hiddenSweep : Program Report :=
  project beforeYear [{ name := "test", url := "https://test/" }] ⟨[]⟩

/-- The cluster, in a zone without a name. -/
def hiddenTarget : ClusterTarget := { name := "c", location := .zone "" }

/-- The call that deletes the cluster. -/
def hiddenDeletion : Call := .delete (.cluster ⟨"container", "https://test/"⟩ "p" hiddenTarget)

theorem placeless_of_runs_iff_hidden :
    (∃ r ∈ [hiddenRegion], r.Unplaced .clearAll) ∧
      ∃ moves report, hiddenSweep.Runs hiddenCloud.cloud moves report ∧
        (.cluster 0 0, hiddenDeletion) ∈ calls moves ∧
        (Gcloud.arguments hiddenDeletion).getLast? = some "--zone=" ∧
        ∃ i e records, Accepted beforeYear [{ name := "test", url := "https://test/" }] moves i e
          records ∧ ∃ r ∈ records, r.Unplaced (.before ⟨1704067200, 0⟩) := by
  obtain ⟨selections, -, all⟩ := placeless_of_runs_iff hiddenCloud.cloud beforeYear
    [{ name := "test", url := "https://test/" }] ⟨[]⟩
  have selected : ClusterRecord.stale .clearAll [hiddenRegion] = .ok [hiddenTarget] := by
    decide +kernel
  have run : hiddenSweep.Runs hiddenCloud.cloud (hiddenSweep.moves hiddenCloud.cloud)
    (hiddenSweep.result hiddenCloud.cloud) := runs_project _ _ _
  have deleted : (.cluster 0 0, hiddenDeletion) ∈ calls (hiddenSweep.moves hiddenCloud.cloud) := by
    decide +kernel
  obtain ⟨origins, placeless_iff⟩ := all _ _ run
  refine ⟨(selections _ _ _ selected).1 ⟨_, List.mem_singleton_self _, rfl⟩, _, _, run, deleted,
    (origins _ _ _ _ deleted).2, ?_⟩
  exact (placeless_iff.1 ⟨_, deleted, .intro rfl (.inl rfl)⟩).2

/-- A cluster with an empty zone is taken as it is, and a run deletes it without a place. -/
theorem not_placed_of_hidden_region :
    (¬ ∀ cutoff records targets, ClusterRecord.stale cutoff records = .ok targets →
        ∀ t ∈ targets, t.location.place ≠ "") ∧
      ¬ ∀ (cloud : Cloud) (s : Settings) (endpoints : List ClusterEndpoint) (catalog : Catalog)
        (moves : List Move) (report : Report), (project s endpoints catalog).Runs cloud moves report →
        ∀ c ∈ calls moves, ¬ Gcloud.Placeless c.2 := by
  constructor
  · intro placed
    exact placed (.before ⟨1704067200, 0⟩) [hiddenRegion] [hiddenTarget]
      (by decide +kernel) _ (List.mem_singleton_self _) rfl
  · intro placed
    have deleted : (.cluster 0 0, hiddenDeletion) ∈
        calls (hiddenSweep.moves hiddenCloud.cloud) := by decide +kernel
    exact placed _ _ _ _ _ _ (runs_project _ _ _) _ deleted (.intro rfl (.inl rfl))

end Sweep
end CloudSweep
