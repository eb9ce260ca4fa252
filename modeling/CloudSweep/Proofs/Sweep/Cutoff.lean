/-
The sweep and the cutoff. Of two sweeps that differ in nothing but their cutoffs, and that read the
same, the one with the larger cutoff submits for deletion whatever the other one does, in the same
order, and in between what else is old enough. What it submits besides is never paid for with a
failure: a listing that the smaller cutoff can be applied to is one that the larger can be applied to.
-/
import CloudSweep.Proofs.Selection.Cutoff
import CloudSweep.Proofs.Sweep.ClusterAccounts
import CloudSweep.Proofs.Sweep.DryRun

namespace CloudSweep

/-! ## What is submitted -/

/-- The settings with another cutoff. -/
def Settings.withCutoff (s : Settings) (cutoff : Cutoff) : Settings := { s with cutoff }

namespace Settings

variable {s : Settings} {cutoff : Cutoff}

@[simp] theorem cutoff_withCutoff : (s.withCutoff cutoff).cutoff = cutoff := rfl

@[simp] theorem project_withCutoff : (s.withCutoff cutoff).project = s.project := rfl

@[simp] theorem dryRun_withCutoff : (s.withCutoff cutoff).dryRun = s.dryRun := rfl

@[simp] theorem listRequest_withCutoff (endpoint : Option EndpointOverride) (k : ResourceKind) :
    Sweep.listRequest (s.withCutoff cutoff) endpoint k = Sweep.listRequest s endpoint k := rfl

@[simp] theorem clusterListCall_withCutoff (e : ClusterEndpoint) :
    Sweep.clusterListCall (s.withCutoff cutoff) e = Sweep.clusterListCall s e := rfl

end Settings

/-- The cluster of a deletion of one. -/
def Deletion.target? : Deletion → Option ClusterTarget
  | .resources _ => none
  | .cluster _ _ target => some target

namespace Call

/-- The request, if resources are to be deleted. -/
def request? : Call → Option DeleteRequest
  | .delete deletion => deletion.request?
  | _ => none

/-- The cluster, if one is to be deleted. -/
def target? : Call → Option ClusterTarget
  | .delete deletion => deletion.target?
  | _ => none

end Call

/-- The names that requests carry for a place. -/
def namesAt (scope : DeleteScope) (requests : List DeleteRequest) : List String :=
  (requests.filter (·.scope = scope)).flatMap (·.names)

/-- The names of a kind that a run submits for deletion in a place, in order. -/
def namesSubmitted (i j : Nat) (scope : DeleteScope) (moves : List Move) : List String :=
  namesAt scope (((SweepUnit.kind i j).callsIn moves).filterMap (·.2.request?))

/-- The clusters of an endpoint that a run submits for deletion, in order. -/
def clustersSubmitted (i : Nat) (moves : List Move) : List ClusterTarget :=
  ((SweepUnit.endpoint i).callsIn moves).filterMap (·.2.target?)

theorem namesAt_eq (scope : DeleteScope) (requests : List DeleteRequest) :
    namesAt scope requests =
      ((ResourceKind.placedNames requests).filter (·.1 = scope)).map Prod.snd := by
  induction requests with
  | nil => rfl
  | cons request requests ih =>
    rw [ResourceKind.placedNames, List.flatMap_cons, List.filter_append, List.map_append,
      ← ResourceKind.placedNames, ← ih, namesAt, namesAt]
    by_cases here : request.scope = scope
    · simp [here, List.filter_map, Function.comp_def]
    · simp [here, List.filter_map, Function.comp_def]

namespace Sweep

variable {cloud cloud' : Cloud} {s : Settings} {c c' : Cutoff} {endpoints : List ClusterEndpoint}
  {catalog : Catalog} {moves moves' : List Move} {report report' : Report} {i j : Nat}

/-- What follows from all deletions follows from those that are carried out: in a dry run there are
none of them, whatever the cutoff. -/
theorem carriedOut_sublist {β : Type} (f : List Ticket → List β) {tickets tickets' : List Ticket}
    (h : (f tickets).Sublist (f tickets')) :
    (f (carriedOut (s.withCutoff c) tickets)).Sublist
      (f (carriedOut (s.withCutoff c') tickets')) := by
  unfold carriedOut
  rw [Settings.dryRun_withCutoff, Settings.dryRun_withCutoff]
  split
  · exact List.Sublist.refl _
  · exact h

/-! ## Kinds -/

section Kind

variable {endpoint : Option EndpointOverride} {k : ResourceKind}

/-- The requests of a kind are those of the deletions that are carried out. -/
theorem requests_kindCalls :
    (kindCalls cloud s i j endpoint k).filterMap (·.2.request?) =
      (carriedOut s (kindTickets cloud s i j endpoint k)).filterMap (·.deletion.request?) := by
  unfold kindCalls
  split
  · rename_i passedOver
    rw [kindTickets, if_pos passedOver, carriedOut_nil]
    rfl
  · rw [List.filterMap_cons_none rfl, deletionCalls, List.filterMap_map]
    rfl

end Kind

/-- Nothing is submitted of a kind for which nothing is to be carried out. -/
theorem ProjectRun.namesSubmitted_eq_nil {target : Service} {k : ResourceKind}
    (run : ProjectRun cloud s endpoints catalog moves report)
    (ha : catalog.services[i]? = some target) (hk : target.kinds[j]? = some k)
    (nothing : kindTickets cloud s i j target.endpoint k = []) (scope : DeleteScope) :
    namesSubmitted i j scope moves = [] := by
  rw [namesSubmitted, run.callsIn_kind, kindBlock_eq ha hk]
  split
  · rfl
  · rfl
  · rw [requests_kindCalls, nothing, carriedOut_nil]
    rfl

/-! ## Endpoints -/

section Endpoint

variable {e : ClusterEndpoint}

/-- The clusters that an endpoint's block deletes are those of the deletions that are carried out. -/
theorem targets_endpointCalls :
    (endpointCalls cloud s i e).filterMap (·.2.target?) =
      (carriedOut s (endpointTickets cloud s i e)).filterMap (·.deletion.target?) := by
  rw [endpointCalls, List.filterMap_cons_none rfl, deletionCalls, List.filterMap_map]
  rfl

theorem targets_clusterTickets (targets : List ClusterTarget) :
    (clusterTickets s i e targets).filterMap (·.deletion.target?) = targets := by
  have deleted : (clusterTickets s i e targets).filterMap (·.deletion.target?) =
      targets.zipIdx.map Prod.fst := by
    rw [clusterTickets, List.mapIdx_eq_zipIdx_map, List.filterMap_map, ← List.filterMap_eq_map]
    rfl
  rw [deleted, List.zipIdx_map_fst]

/-- Nothing is submitted at an endpoint at which nothing is to be carried out. -/
theorem ProjectRun.clustersSubmitted_eq_nil
    (run : ProjectRun cloud s endpoints catalog moves report) (he : endpoints[i]? = some e)
    (nothing : endpointTickets cloud s i e = []) : clustersSubmitted i moves = [] := by
  rw [clustersSubmitted, run.callsIn_endpoint, endpointBlock_eq he, targets_endpointCalls, nothing,
    carriedOut_nil]
  rfl

end Endpoint

/-! ## Two cutoffs -/

section Reads

variable (le : c ≤ c')
  (reads : ∀ site call, call.isRead = true → cloud.answer site call = cloud'.answer site call)
include le reads

/-- Under a larger cutoff more names of a kind are to be deleted. -/
theorem namesAt_kindTickets_sublist (endpoint : Option EndpointOverride) (k : ResourceKind)
    (scope : DeleteScope) :
    (namesAt scope ((kindTickets cloud (s.withCutoff c) i j endpoint k).filterMap
      (·.deletion.request?))).Sublist
        (namesAt scope ((kindTickets cloud' (s.withCutoff c') i j endpoint k).filterMap
          (·.deletion.request?))) := by
  have listing := reads (.listing i j) (.listResources (listRequest s endpoint k)) rfl
  by_cases swept : k.clearAllOnly = true → c.isClearAll = true
  · have swept' : k.clearAllOnly = true → c'.isClearAll = true := fun only =>
      Cutoff.isClearAll_of_le le (swept only)
    rw [kindTickets_of_swept (s := s.withCutoff c) swept,
      kindTickets_of_swept (s := s.withCutoff c') swept', Settings.listRequest_withCutoff,
      Settings.listRequest_withCutoff, ← listing]
    rcases cloud.answer (.listing i j) (.listResources (listRequest s endpoint k)) with error | items
    · exact List.nil_sublist _
    dsimp only
    rw [Settings.cutoff_withCutoff, Settings.cutoff_withCutoff]
    rcases selection : k.groups? c items with error | groups
    · exact List.nil_sublist _
    -- Both listings are cut into groups, and of both plans the names for the place are taken.
    obtain ⟨groups', selection'⟩ := ResourceKind.groups?_of_le le selection
    rw [selection', selectionTickets, selectionTickets, requests_requestTickets,
      requests_requestTickets, namesAt_eq, namesAt_eq]
    exact ((ResourceKind.placedNames_sublist_of_le le selection selection').filter _).map _
  · obtain ⟨only, aged⟩ := Classical.not_imp.1 swept
    rw [kindTickets_of_passedOver (s := s.withCutoff c) only (mt Cutoff.isClearAll_iff.2 aged)]
    exact List.nil_sublist _

/-- Under a larger cutoff more clusters of an endpoint are stale. -/
theorem staleClusters_sublist (e : ClusterEndpoint) :
    (staleClusters cloud (s.withCutoff c) i e).Sublist
      (staleClusters cloud' (s.withCutoff c') i e) := by
  have listing := reads (.clusterListing i) (clusterListCall s e) rfl
  simp only [staleClusters, clusterSelection, Settings.cutoff_withCutoff,
    Settings.clusterListCall_withCutoff, ← listing]
  rcases cloud.answer (.clusterListing i) (clusterListCall s e) with error | records
  · exact List.nil_sublist _
  dsimp only [Except.map]
  rcases stale : ClusterRecord.stale c records with error | targets
  · exact List.nil_sublist _
  obtain ⟨targets', stale', more⟩ := ClusterRecord.stale_of_le le stale
  rw [stale']
  exact more

theorem ProjectRun.namesSubmitted_sublist
    (run : ProjectRun cloud (s.withCutoff c) endpoints catalog moves report)
    (run' : ProjectRun cloud' (s.withCutoff c') endpoints catalog moves' report')
    (scope : DeleteScope) :
    (namesSubmitted i j scope moves).Sublist (namesSubmitted i j scope moves') := by
  rw [namesSubmitted, namesSubmitted, run.callsIn_kind, run'.callsIn_kind]
  by_cases there : ∃ target k, catalog.services[i]? = some target ∧ target.kinds[j]? = some k
  · obtain ⟨target, k, ha, hk⟩ := there
    have check := reads (.apiCheck i) (.checkApi s.project target.api) rfl
    rw [kindBlock_eq ha hk, kindBlock_eq ha hk, Settings.project_withCutoff,
      Settings.project_withCutoff, ← check]
    rcases cloud.answer (.apiCheck i) (.checkApi s.project target.api) with error | _ | _
    · exact List.nil_sublist _
    · exact List.nil_sublist _
    dsimp only
    rw [requests_kindCalls, requests_kindCalls]
    exact carriedOut_sublist (fun tickets => namesAt scope (tickets.filterMap (·.deletion.request?)))
      (namesAt_kindTickets_sublist le reads target.endpoint k scope)
  · rw [kindBlock_eq_nil there]
    exact List.nil_sublist _

theorem ProjectRun.clustersSubmitted_sublist
    (run : ProjectRun cloud (s.withCutoff c) endpoints catalog moves report)
    (run' : ProjectRun cloud' (s.withCutoff c') endpoints catalog moves' report') :
    (clustersSubmitted i moves).Sublist (clustersSubmitted i moves') := by
  rw [clustersSubmitted, clustersSubmitted, run.callsIn_endpoint, run'.callsIn_endpoint]
  rcases he : endpoints[i]? with _ | e
  · rw [endpointBlock, he]
    exact List.nil_sublist _
  rw [endpointBlock_eq he, endpointBlock_eq he, targets_endpointCalls, targets_endpointCalls]
  refine carriedOut_sublist (fun tickets => tickets.filterMap (·.deletion.target?)) ?_
  rw [endpointTickets_eq, endpointTickets_eq, targets_clusterTickets, targets_clusterTickets]
  exact staleClusters_sublist le reads e

end Reads

/-! ## Projects -/

/-- Of two sweeps that differ in nothing but their cutoffs, and in which the same is read, the one with
the larger cutoff submits for deletion what the other one submits, in the same order: of every kind and
in every place, and at every endpoint. Nothing is submitted of a kind that is passed over, or where a
listing has a defect. The listing of a kind fails alike whatever age is asked for, and one that does not
fail then does not fail when everything is taken; whether a listing of clusters fails does not depend
on the cutoff at all. -/
theorem submitted_sublist_of_le (cloud cloud' : Cloud) (s : Settings) {c c' : Cutoff} (le : c ≤ c')
    (endpoints : List ClusterEndpoint) (catalog : Catalog)
    (reads : ∀ site call, call.isRead = true → cloud.answer site call = cloud'.answer site call) :
    (∃ moves report, (project (s.withCutoff c) endpoints catalog).Runs cloud moves report) ∧
      (∃ moves report, (project (s.withCutoff c') endpoints catalog).Runs cloud' moves report) ∧
      (∀ moves report moves' report',
        (project (s.withCutoff c) endpoints catalog).Runs cloud moves report →
        (project (s.withCutoff c') endpoints catalog).Runs cloud' moves' report' →
        (∀ i j scope, (namesSubmitted i j scope moves).Sublist (namesSubmitted i j scope moves')) ∧
        ∀ i, (clustersSubmitted i moves).Sublist (clustersSubmitted i moves')) ∧
      (∀ t moves report, (project (s.withCutoff t) endpoints catalog).Runs cloud moves report →
        (∀ i j target k, catalog.services[i]? = some target → target.kinds[j]? = some k →
          ((k.clearAllOnly = true ∧ t ≠ .clearAll) ∨ ∃ items error,
            cloud.answer (.listing i j) (.listResources (listRequest s target.endpoint k)) =
              .ok items ∧ k.groups? t items = .error error) →
          ∀ scope, namesSubmitted i j scope moves = []) ∧
        ∀ i e records error, endpoints[i]? = some e →
          cloud.answer (.clusterListing i) (clusterListCall s e) = .ok records →
          ClusterRecord.stale t records = .error error → clustersSubmitted i moves = []) ∧
      (∀ (k : ResourceKind) items (a b : Instant) error,
        k.groups? (.before a) items = .error error ↔ k.groups? (.before b) items = .error error) ∧
      (∀ (k : ResourceKind) items a groups, k.groups? (.before a) items = .ok groups →
        ∃ groups', k.groups? .clearAll items = .ok groups') ∧
      ∀ records (a b : Cutoff) error,
        ClusterRecord.stale a records = .error error ↔ ClusterRecord.stale b records = .error error := by
  refine ⟨⟨_, _, runs_project cloud endpoints catalog⟩, ⟨_, _, runs_project cloud' endpoints catalog⟩,
    ?_, ?_, fun k items a b error => ResourceKind.groups?_before_eq_error_iff a b,
    fun k items a groups => ResourceKind.groups?_clearAll,
    fun records a b error => ClusterRecord.stale_eq_error_iff_of_cutoffs a b⟩
  · intro moves report moves' report' run run'
    have swept := projectRun run
    have swept' := projectRun run'
    constructor
    · intro i j scope
      exact swept.namesSubmitted_sublist le reads swept' scope
    · intro i
      exact swept.clustersSubmitted_sublist le reads swept'
  · intro t moves report run
    have swept := projectRun run
    constructor
    · intro i j target k ha hk spared
      refine swept.namesSubmitted_eq_nil ha hk ?_
      rcases spared with ⟨only, aged⟩ | ⟨items, error, listing, failed⟩
      · exact kindTickets_of_passedOver only aged
      · exact kindTickets_of_malformed listing failed
    · intro i e records error he listing failed
      exact swept.clustersSubmitted_eq_nil he (endpointTickets_of_malformed listing failed)

/-- Disks and clusters of two years. -/
def twoYears : InMemory where
  listings := [("compute disks", [
    (ListedItem.named "younger").created "2021-01-01T00:00:00Z",
    (ListedItem.named "older").created "2020-01-01T00:00:00Z"])]
  clusters := [("https://test/", [
    { name := some "older", createTime := some "2020-01-01T00:00:00Z", zone := some "z" },
    { name := some "younger", createTime := some "2021-01-01T00:00:00Z", zone := some "z" }])]

/-- The same, but the disks stay. -/
def twoYearsKept : InMemory := { twoYears with deleteFailures := ["compute disks"] }

theorem submitted_sublist_of_le_years :
    Cutoff.before ⟨1590969600, 0⟩ ≤ .clearAll ∧
    (∀ site call, call.isRead = true →
      twoYearsKept.cloud.answer site call = twoYears.cloud.answer site call) ∧
    ∃ moves report moves' report',
      (project (everything.withCutoff (.before ⟨1590969600, 0⟩)) oneEndpoint oneKind).Runs
        twoYearsKept.cloud moves report ∧
      (project (everything.withCutoff .clearAll) oneEndpoint oneKind).Runs twoYears.cloud moves'
        report' ∧
      namesSubmitted 0 0 .none moves = ["older"] ∧
      namesSubmitted 0 0 .none moves' = ["younger", "older"] ∧
      (namesSubmitted 0 0 .none moves).Sublist (namesSubmitted 0 0 .none moves') ∧
      (clustersSubmitted 0 moves).Sublist (clustersSubmitted 0 moves') ∧
      (clustersSubmitted 0 moves).length = 1 ∧ (clustersSubmitted 0 moves').length = 2 := by
  have le : Cutoff.before ⟨1590969600, 0⟩ ≤ .clearAll := trivial
  have reads (site : Site) (call : Call) (read : call.isRead = true) :
      twoYearsKept.cloud.answer site call = twoYears.cloud.answer site call := by
    cases call with
    | delete _ => cases read
    | _ => rfl
  obtain ⟨-, -, more, -⟩ := submitted_sublist_of_le twoYearsKept.cloud twoYears.cloud everything le
    oneEndpoint oneKind reads
  have run := runs_project (s := everything.withCutoff (.before ⟨1590969600, 0⟩)) twoYearsKept.cloud
    oneEndpoint oneKind
  have run' := runs_project (s := everything.withCutoff .clearAll) twoYears.cloud oneEndpoint oneKind
  obtain ⟨names, clusters⟩ := more _ _ _ _ run run'
  exact ⟨le, reads, _, _, _, _, run, run', by decide +kernel, by decide +kernel, names 0 0 .none,
    clusters 0, by decide +kernel, by decide +kernel⟩

end Sweep
end CloudSweep
