/-
Soundness. Whatever the cloud answers and in whatever order deletions land, a run sends a request to
delete resources only when it is live, and every name in the request is that of an item which the
listing of the request's kind held in this run and which calls for the deletion, at the place to
which the request is narrowed.
-/
import CloudSweep.Call.InMemory
import CloudSweep.Proofs.Deletion.Plan
import CloudSweep.Proofs.Selection.Groups
import CloudSweep.Proofs.Sweep.Footprint
import CloudSweep.Proofs.Sweep.Runs

namespace CloudSweep

/-! ## Requests of a plan -/

/-- A request carries some names, each of which an item of the listing condemns at the request's
place. -/
structure DeleteRequest.Justified (request : DeleteRequest) (cutoff : Cutoff)
    (items : List ListedItem) : Prop where
  nonempty : request.names ≠ []
  condemned : ∀ name ∈ request.names, ∃ item ∈ items, ∃ scopeValue,
    request.kind.Condemns cutoff item name scopeValue ∧
      request.scope = request.kind.deleteScope scopeValue

/-- Every request of the plan for a listing is justified by it. -/
theorem ResourceKind.justified_of_mem_plan {k : ResourceKind} {cutoff : Cutoff}
    {items : List ListedItem} {groups : Groups} {project : String} {batchSize : Nat}
    {endpoint : Option EndpointOverride} {request : DeleteRequest}
    (selection : k.groups? cutoff items = .ok groups)
    (h : request ∈ k.plan groups project batchSize endpoint) : request.Justified cutoff items := by
  obtain ⟨g, hg, names, hb, rfl⟩ := mem_plan_iff.1 h
  refine ⟨ne_nil_of_mem_batches hb, fun name hn => ?_⟩
  have held : groups.Holds g.scopeValue name := ⟨g, hg, rfl, mem_of_mem_batches hb hn⟩
  obtain ⟨item, hi, condemns⟩ := (holds_groups? selection).1 held
  exact ⟨item, hi, g.scopeValue, condemns, rfl⟩

/-- What a justified request names is old, unless everything is taken. -/
theorem DeleteRequest.Justified.not_mem_names {request : DeleteRequest} {limit : Instant}
    {items : List ListedItem} (h : request.Justified (.before limit) items) {name : String}
    (young : ∀ item ∈ items, item.name = some name → ∀ raw created, item.creationTime = some raw →
      Timestamp.read raw = some created → ¬ created.Before limit) : name ∉ request.names := by
  intro hn
  obtain ⟨item, hi, v, condemns, -⟩ := h.condemned name hn
  rcases condemns.old with h | ⟨limit', raw, created, hl, hr, hc, before⟩
  · cases h
  · cases hl
    exact young item hi condemns.named raw created hr hc before

namespace Sweep

variable {cloud : Cloud} {s : Settings} {moves : List Move}

/-! ## Where deletions start -/

/-- What a kind deletes follows from the listing that it got. -/
theorem KindRun.started {service index : Nat} {endpoint : Option EndpointOverride}
    {k : ResourceKind} {outcome : KindOutcome} {ticket : Ticket}
    (run : KindRun cloud s service index endpoint k moves outcome) (h : .started ticket ∈ moves) :
    s.dryRun = false ∧ (k.clearAllOnly = true → s.cutoff = .clearAll) ∧
      ∃ items groups r request,
        .asked (.listing service index) (.listResources (listRequest s endpoint k)) (.ok items) ∈
          moves ∧
        k.groups? s.cutoff items = .ok groups ∧
        request ∈ k.plan groups s.project s.batchSize endpoint ∧
        ticket = { site := .deletion service index r, deletion := .resources request } := by
  -- Selecting starts nothing, so a deletion that started is one of the pool.
  have quiet {part : List Move} {result : Except SelectionError Groups}
      (selection : SelectRun cloud s service index endpoint k part result) :
      .started ticket ∉ part := by
    cases selection <;> simp [notes]
  cases run with
  | passedOver => simp at h
  | failed swept selection => exact absurd h (quiet selection)
  | spared swept selection =>
    rcases List.mem_append.1 h with h | h
    · exact absurd h (quiet selection)
    · simp at h
  | selected swept selection nonempty deletion =>
    rcases List.mem_append.1 h with h | h
    · exact absurd h (quiet selection)
    cases deletion with
    | nothing => cases h
    | dry => simp [notes] at h
    | @live requests deletions landed planned _ live pool =>
      have hd : .started ticket ∈ deletions := by simpa using h
      have ht : ticket ∈ requestTickets service index requests := by
        rw [← pool.finished.1]
        exact mem_starts.2 hd
      obtain ⟨r, request, hr, rfl⟩ := mem_requestTickets.1 ht
      cases selection with
      | excused => exact absurd rfl nonempty
      | @listed items _ _ grouped =>
        exact ⟨live, fun only => Cutoff.isClearAll_iff.1 (swept only), items, _, r, request,
          by simp, grouped, planned ▸ List.mem_of_getElem? hr, rfl⟩

theorem ServiceRun.exists_kindRun {index : Nat} {target : Service} {outcome : ServiceOutcome}
    {ticket : Ticket} (run : ServiceRun cloud s index target moves outcome)
    (h : .started ticket ∈ moves) :
    ∃ j k part result, target.kinds[j]? = some k ∧
      KindRun cloud s index j target.endpoint k part result ∧ .started ticket ∈ part ∧
      part ⊆ moves := by
  cases run with
  | unknown => simp at h
  | disabled => simp at h
  | @swept kindMoves outcomes check kinds =>
    have hk : .started ticket ∈ kindMoves := by simpa using h
    obtain ⟨j, k, reported, outcome, hj, run, hm, sub⟩ := Program.exists_part_of_mem kinds hk
    obtain ⟨part, result, rfl, rfl, kindRun⟩ := reportedKindRun run
    have hp : .started ticket ∈ part := by simpa [notes] using hm
    refine ⟨j, k, part, result, hj, kindRun, hp, fun m hm => ?_⟩
    exact List.mem_cons_of_mem _ (sub (List.mem_append_left _ hm))

/-- Only a service starts to delete resources. -/
theorem ProjectRun.exists_serviceRun {endpoints : List ClusterEndpoint} {catalog : Catalog}
    {report : Report} {ticket : Ticket} {request : DeleteRequest}
    (run : ProjectRun cloud s endpoints catalog moves report) (h : .started ticket ∈ moves)
    (resources : ticket.deletion = .resources request) :
    ∃ i target part outcome, catalog.services[i]? = some target ∧
      ServiceRun cloud s i target part outcome ∧ .started ticket ∈ part ∧ part ⊆ moves := by
  cases run with
  | @parts subnetMoves endpointMoves serviceMoves _ _ _ subnetSweep endpointSweep serviceSweep =>
    have placed : .started ticket ∈ endpointMoves ∨ .started ticket ∈ serviceMoves := by
      simpa [(subnets_deletes_nothing subnetSweep).1 ticket] using h
    rcases placed with h | h
    · -- An endpoint starts deletions of clusters only.
      obtain ⟨i, e, part, outcome, -, run, hm, -⟩ := Program.exists_part_of_mem endpointSweep h
      cases endpointRun run with
      | unreachable => simp at hm
      | malformed => simp at hm
      | spared => simp at hm
      | dry => simp [notes] at hm
      | @live records targets deletions landed _ _ _ pool =>
        have hd : .started ticket ∈ deletions := by simpa [notes] using hm
        have ht : ticket ∈ clusterTickets s i e targets := by
          rw [← pool.finished.1]
          exact mem_starts.2 hd
        obtain ⟨n, target, -, rfl⟩ := mem_clusterTickets.1 ht
        cases resources
    · obtain ⟨i, target, part, outcome, hi, run, hm, sub⟩ :=
        Program.exists_part_of_mem serviceSweep h
      refine ⟨i, target, part, outcome, hi, serviceRun run, hm, fun m hm => ?_⟩
      simp [sub hm]

/-! ## Soundness -/

/-- Every request to delete resources is sent by a live run, in the place of a kind of the catalog,
with the project of the settings and the endpoint of the kind's service, and it is justified by the
listing that the run got for this kind. In particular it names nothing that is preserved, and nothing
that was seen only at or after the cutoff. -/
theorem justified_of_mem_calls {endpoints : List ClusterEndpoint} {catalog : Catalog}
    {report : Report} {site : Site} {request : DeleteRequest}
    (run : (project s endpoints catalog).Runs cloud moves report)
    (h : (site, .delete (.resources request)) ∈ calls moves) :
    s.dryRun = false ∧
      ∃ i j r target k items, site = .deletion i j r ∧ catalog.services[i]? = some target ∧
        target.kinds[j]? = some k ∧
        .asked (.listing i j) (.listResources (listRequest s target.endpoint k)) (.ok items) ∈
          moves ∧
        request.kind = k ∧ request.project = s.project ∧ request.endpoint = target.endpoint ∧
        (k.clearAllOnly = true → s.cutoff = .clearAll) ∧ request.Justified s.cutoff items ∧
        (∀ name ∈ request.names, name ∉ k.preserved) ∧
        ∀ limit, s.cutoff = .before limit → ∀ name,
          (∀ item ∈ items, item.name = some name → ∀ raw created, item.creationTime = some raw →
            Timestamp.read raw = some created → ¬ created.Before limit) →
          name ∉ request.names := by
  -- A deletion is never asked for outside a pool.
  have started : .started { site, deletion := .resources request } ∈ moves := by
    rcases mem_calls.1 h with ⟨answer, hm⟩ | ⟨⟨_, _⟩, hm, rfl, hc⟩
    · exact absurd trivial (run.within (within_project endpoints catalog) _ hm)
    · cases hc
      exact hm
  obtain ⟨i, target, serviceMoves, _, hi, serviceRun, hs, subService⟩ :=
    (projectRun run).exists_serviceRun started rfl
  obtain ⟨j, k, kindMoves, _, hj, kindRun, hk, subKind⟩ := serviceRun.exists_kindRun hs
  obtain ⟨live, swept, items, groups, r, request', asked, selection, planned, ticket⟩ :=
    kindRun.started hk
  cases ticket
  have justified := ResourceKind.justified_of_mem_plan selection planned
  obtain ⟨g, -, names, -, hr⟩ := ResourceKind.mem_plan_iff.1 planned
  cases hr
  refine ⟨live, i, j, r, target, k, items, rfl, hi, hj, subService (subKind asked), rfl, rfl, rfl,
    swept, justified, fun name hn => ?_, fun limit hl name young => ?_⟩
  · obtain ⟨item, -, v, condemns, -⟩ := justified.condemned name hn
    exact condemns.unpreserved
  · rw [hl] at justified
    exact justified.not_mem_names young

/-- Zonal disks, one of which is preserved. -/
def disks : ResourceKind :=
  { (ResourceKind.of "compute" "disks").withScope .zone with preserved := ["keep"] }

/-- A cloud with an old disk, a new one, and an old one that is preserved. -/
def diskCloud : InMemory where
  listings := [(disks.title, [
    ((ListedItem.named "old").created "2020-01-01T00:00:00Z").inZone "zones/a",
    ((ListedItem.named "new").created "2024-01-01T00:00:00Z").inZone "zones/a",
    ((ListedItem.named "keep").created "2020-01-01T00:00:00Z").inZone "zones/a"])]

/-- A live sweep of the disks from before the year 2022. -/
def diskSweep : Program Report :=
  project { project := "p", cutoff := .before ⟨1640995200, 0⟩ } []
    ⟨[{ api := "compute", kinds := [disks] }]⟩

/-- The request for the old disk. -/
def diskRequest : DeleteRequest :=
  { kind := disks, project := "p", names := ["old"], scope := .zone "a" }

theorem justified_of_mem_calls_disk :
    diskSweep.Runs diskCloud.cloud (diskSweep.moves diskCloud.cloud)
        (diskSweep.result diskCloud.cloud) ∧
      (.deletion 0 0 0, .delete (.resources diskRequest)) ∈
        calls (diskSweep.moves diskCloud.cloud) ∧
      ∃ items, diskRequest.Justified (.before ⟨1640995200, 0⟩) items := by
  have run : diskSweep.Runs diskCloud.cloud (diskSweep.moves diskCloud.cloud)
      (diskSweep.result diskCloud.cloud) := runs_project _ _ _
  have sent : (.deletion 0 0 0, .delete (.resources diskRequest)) ∈
      calls (diskSweep.moves diskCloud.cloud) := by decide +kernel
  obtain ⟨-, _, _, _, _, _, items, -, -, -, -, -, -, -, -, justified, -⟩ :=
    justified_of_mem_calls run sent
  exact ⟨run, sent, items, justified⟩

end Sweep
end CloudSweep
