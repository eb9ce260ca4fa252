/-
Listings with a defect. A unit whose listing can be had, but holds a record with a defect, is asked for
the listing and for nothing else: whatever stands before the record, nothing is deleted and nothing is
updated. The report names the unit once, and no count of it has anything from the unit.
-/
import CloudSweep.Proofs.Report
import CloudSweep.Proofs.Selection.Partition
import CloudSweep.Proofs.Selection.Records
import CloudSweep.Proofs.Sweep.ClusterAccounts

namespace CloudSweep

/-! ## Units that are left alone -/

/-- The unit is asked for its listing and nothing else is done with it, and the counts of the report
are what they are without it. -/
structure SweepUnit.LeftAlone (u : SweepUnit) (listing : Site × Call) (moves : List Move)
    (found : Ledger) : Prop where
  calls : u.callsIn moves = [listing]
  counts : ∀ counter, found.report.counter counter = (found.without u).report.counter counter

/-- The report names the unit once, in one of its lists. -/
structure SweepUnit.NamedOnce (u : SweepUnit) (column : Column) (name : String) (found : Ledger) :
    Prop where
  there : (found.column column).filter (·.1 = u) = [(u, name)]
  nowhere : ∀ other, other ≠ column → (found.column other).filter (·.1 = u) = []

namespace Ledger

variable {found : Ledger} {u : SweepUnit} {finding : Finding}

/-- A finding without an amount makes no difference to the counts. -/
theorem counter_report_without (on : found.on u = [(u, finding)])
    (nothing : ∀ counter, finding.amount counter = 0) (counter : Counter) :
    found.report.counter counter = (found.without u).report.counter counter := by
  have split := found.amount_eq_add (fun w => decide (w = u)) counter
  have own : Ledger.amount (found.on u) counter = 0 := by
    rw [on, amount, List.map_singleton, List.sum_singleton, nothing]
  rw [counter_report, counter_report, split]
  exact (congrArg (· + _) own).trans (Nat.zero_add _)

/-- The names that a unit has in a list are those of its findings. -/
theorem filter_column_on (on : found.on u = [(u, finding)]) (column : Column) :
    (found.column column).filter (·.1 = u) = ((finding.name? column).map (u, ·)).toList := by
  have kept := filter_column (fun w => decide (w = u)) found column
  have own : found.filter (fun e => decide (e.1 = u)) = [(u, finding)] := on
  rw [kept, own, Ledger.column, List.filterMap_cons, List.filterMap_nil]
  cases finding.name? column <;> rfl

/-- A unit with one finding is named once if one list has a name for the finding. -/
theorem namedOnce_of_on {column : Column} {name : String} (on : found.on u = [(u, finding)])
    (here : finding.name? column = some name)
    (elsewhere : ∀ other, other ≠ column → finding.name? other = none) :
    u.NamedOnce column name found where
  there := by
    rw [filter_column_on on, here]
    rfl
  nowhere other apart := by
    rw [filter_column_on on, elsewhere other apart]
    rfl

end Ledger

namespace Sweep

variable {cloud : Cloud} {s : Settings} {endpoints : List ClusterEndpoint} {catalog : Catalog}
  {moves : List Move} {report : Report} {found : Ledger} {i j : Nat}

/-- What is asked at a site is a call of the unit that owns it. -/
theorem mem_callsIn {u : SweepUnit} {site : Site} {call : Call} {answer : call.Answer}
    (own : u.owns site = true) (asked : .asked site call answer ∈ moves) :
    (site, call) ∈ u.callsIn moves :=
  List.mem_filter.2 ⟨mem_calls.2 (.inl ⟨answer, asked⟩), own⟩

/-! ## Kinds -/

section Kind

variable {target : Service} {k : ResourceKind} {items : List ListedItem} {error : SelectionError}

/-- A kind that has calls is one of a service that is enabled, and the calls are its block. -/
theorem enabled_of_mem_kindBlock (ha : catalog.services[i]? = some target)
    (hk : target.kinds[j]? = some k) {c : Site × Call} (h : c ∈ kindBlock cloud s catalog i j) :
    cloud.answer (.apiCheck i) (.checkApi s.project target.api) = .ok true ∧
      kindBlock cloud s catalog i j = kindCalls cloud s i j target.endpoint k := by
  rw [kindBlock_eq ha hk] at h ⊢
  split at h
  · cases h
  · cases h
  · rename_i check
    rw [check]
    exact ⟨rfl, rfl⟩

/-- A kind whose listing has a defect is listed, and that is all. -/
theorem kindCalls_of_malformed {endpoint : Option EndpointOverride}
    (swept : kindCalls cloud s i j endpoint k ≠ [])
    (listing : cloud.answer (.listing i j) (.listResources (listRequest s endpoint k)) = .ok items)
    (failed : k.groups? s.cutoff items = .error error) :
    kindCalls cloud s i j endpoint k =
      [(.listing i j, .listResources (listRequest s endpoint k))] := by
  unfold kindCalls at swept ⊢
  split
  · rename_i passedOver
    exact absurd (if_pos passedOver) swept
  · rw [kindTickets_of_malformed listing failed, deletionCalls, carriedOut_nil, List.map_nil]

/-- What comes of a kind whose listing has a defect. -/
theorem KindRun.outcome_of_malformed {endpoint : Option EndpointOverride} {outcome : KindOutcome}
    (run : KindRun cloud s i j endpoint k moves outcome)
    (swept : kindCalls cloud s i j endpoint k ≠ [])
    (listing : cloud.answer (.listing i j) (.listResources (listRequest s endpoint k)) = .ok items)
    (failed : k.groups? s.cutoff items = .error error) : outcome = .error error := by
  have selected {part : List Move} {result : Except SelectionError Groups}
      (selection : SelectRun cloud s i j endpoint k part result) : result = .error error := by
    cases selection with
    | unlisted listing' => cases listing'.symm.trans listing
    | excused listing' => cases listing'.symm.trans listing
    | listed listing' grouped =>
      cases listing'.symm.trans listing
      exact grouped.symm.trans failed
  cases run with
  | passedOver only aged => exact absurd (by simp [kindCalls, only, aged]) swept
  | failed _ selection =>
    cases selected selection
    rfl
  | spared _ selection => cases selected selection
  | selected _ selection => cases selected selection

theorem leftAlone_of_malformed_kind (kept : (ledger s endpoints catalog).Runs cloud moves found)
    (ha : catalog.services[i]? = some target) (hk : target.kinds[j]? = some k)
    (asked : .asked (.listing i j) (.listResources (listRequest s target.endpoint k)) (.ok items) ∈
      moves)
    (failed : k.groups? s.cutoff items = .error error) :
    (SweepUnit.kind i j).LeftAlone
        (.listing i j, .listResources (listRequest s target.endpoint k)) moves found ∧
      (SweepUnit.kind i j).NamedOnce .failedKinds k.title found := by
  have run := ledgerRun kept
  have listing := kept.answer_eq asked
  have own : (SweepUnit.kind i j).owns (.listing i j) = true := by
    simp [SweepUnit.owns, Site.unit?, SweepUnit.covers]
  -- The kind was listed, so that its service is enabled and it is not passed over.
  have called := mem_callsIn own asked
  rw [run.projectRun.callsIn_kind] at called
  obtain ⟨enabled, block⟩ := enabled_of_mem_kindBlock ha hk called
  have swept : kindCalls cloud s i j target.endpoint k ≠ [] := block ▸ List.ne_nil_of_mem called
  obtain ⟨part, outcome, kindRun, on⟩ := run.on_kind ha hk enabled
  cases kindRun.outcome_of_malformed swept listing failed
  refine ⟨⟨?_, Ledger.counter_report_without on fun counter => by cases counter <;> rfl⟩,
    Ledger.namedOnce_of_on on rfl fun other apart => ?_⟩
  · rw [run.projectRun.callsIn_kind, block, kindCalls_of_malformed swept listing failed]
  · cases other <;> first | rfl | exact absurd rfl apart

end Kind

/-! ## Endpoints -/

theorem leftAlone_of_malformed_endpoint {e : ClusterEndpoint} {records : List ClusterRecord}
    {error : SelectionError} (kept : (ledger s endpoints catalog).Runs cloud moves found)
    (he : endpoints[i]? = some e)
    (asked : .asked (.clusterListing i) (clusterListCall s e) (.ok records) ∈ moves)
    (failed : ClusterRecord.stale s.cutoff records = .error error) :
    (SweepUnit.endpoint i).LeftAlone (.clusterListing i, clusterListCall s e) moves found ∧
      (SweepUnit.endpoint i).NamedOnce .malformed e.name found := by
  have run := ledgerRun kept
  have listing := kept.answer_eq asked
  obtain ⟨part, outcome, endpointRun, on⟩ := run.on_endpoint he
  have malformed : outcome = .malformed := by
    rw [endpointRun.outcome_eq, endpointOutcome_eq_malformed_iff]
    simp [isSpoiled, clusterSelection, Except.map, listing, failed]
  subst malformed
  refine ⟨⟨?_, Ledger.counter_report_without on fun counter => by cases counter <;> rfl⟩,
    Ledger.namedOnce_of_on on rfl fun other apart => ?_⟩
  · rw [run.projectRun.callsIn_endpoint, endpointBlock_eq he, endpointCalls,
      endpointTickets_of_malformed listing failed, deletionCalls, carriedOut_nil, List.map_nil]
  · cases other <;> first | rfl | exact absurd rfl apart

/-! ## Subnets -/

theorem leftAlone_of_malformed_subnets {records : List SubnetRecord} {error : SelectionError}
    (kept : (ledger s endpoints catalog).Runs cloud moves found)
    (asked : .asked .subnetListing (.listSubnets s.project s.filter) (.ok records) ∈ moves)
    (failed : SubnetRecord.subnets records = .error error) :
    SweepUnit.subnets.LeftAlone (.subnetListing, .listSubnets s.project s.filter) moves found ∧
      found.report.subnetsFailed = true := by
  have run := ledgerRun kept
  have listing := kept.answer_eq asked
  have none : subnetsCalls cloud s = [] := by
    simp [subnetsCalls, listing, failed]
  have calls := run.projectRun.callsIn_subnets
  rw [none] at calls
  obtain ⟨_, _, -, on⟩ := run.on_subnets
  obtain ⟨part, outcome, subnetsRun, reported⟩ := run.projectRun.subnetsFailed_eq
  refine ⟨⟨calls, Ledger.counter_report_without on fun counter => by cases counter <;> rfl⟩, ?_⟩
  cases subnetsRun with
  | unlisted listing' => cases listing'.symm.trans listing
  | malformed => exact reported
  | swept listing' selection =>
    cases listing'.symm.trans listing
    cases selection.symm.trans failed

/-! ## Projects -/

/-- In every run of a sweep, whatever else happens, a unit whose listing holds a record with a defect
is listed and left alone. Of a kind, and of an endpoint, the report has the name once, for this reason;
of the subnets it says that they failed. -/
theorem leftAlone_of_malformed (cloud : Cloud) (s : Settings) (endpoints : List ClusterEndpoint)
    (catalog : Catalog) :
    (∃ moves report, (project s endpoints catalog).Runs cloud moves report) ∧
      ∀ moves report, (project s endpoints catalog).Runs cloud moves report →
        ∃ found, (ledger s endpoints catalog).Runs cloud moves found ∧ report = found.report ∧
          (∀ column, report.column column = (found.column column).map Prod.snd) ∧
          (∀ i j target k items, catalog.services[i]? = some target → target.kinds[j]? = some k →
            .asked (.listing i j) (.listResources (listRequest s target.endpoint k)) (.ok items) ∈
              moves →
            ((∃ error, k.groups? s.cutoff items = .error error) ↔
              ∃ item ∈ items, k.defect? s.cutoff item ≠ none) ∧
            ((∃ item ∈ items, k.defect? s.cutoff item ≠ none) →
              (SweepUnit.kind i j).LeftAlone
                  (.listing i j, .listResources (listRequest s target.endpoint k)) moves found ∧
                (SweepUnit.kind i j).NamedOnce .failedKinds k.title found)) ∧
          (∀ i e records, endpoints[i]? = some e →
            .asked (.clusterListing i) (clusterListCall s e) (.ok records) ∈ moves →
            ((∃ error, ClusterRecord.stale s.cutoff records = .error error) ↔
              ∃ record ∈ records, ∃ defect, record.target? = .error defect) ∧
            ((∃ record ∈ records, ∃ defect, record.target? = .error defect) →
              (SweepUnit.endpoint i).LeftAlone (.clusterListing i, clusterListCall s e) moves
                  found ∧
                (SweepUnit.endpoint i).NamedOnce .malformed e.name found)) ∧
          ∀ records,
            .asked .subnetListing (.listSubnets s.project s.filter) (.ok records) ∈ moves →
            ((∃ error, SubnetRecord.subnets records = .error error) ↔
              ∃ record ∈ records, ∃ error, record.subnet? = .error error) ∧
            ((∃ record ∈ records, ∃ error, record.subnet? = .error error) →
              SweepUnit.subnets.LeftAlone (.subnetListing, .listSubnets s.project s.filter) moves
                  found ∧
                report.subnetsFailed = true) := by
  refine ⟨⟨_, _, runs_project cloud endpoints catalog⟩, fun moves report run => ?_⟩
  obtain ⟨found, kept, rfl⟩ := runs_project_iff.1 run
  refine ⟨found, kept, rfl, found.column_report, ?_, ?_, ?_⟩
  · intro i j target k items ha hk asked
    refine ⟨ResourceKind.exists_groups?_error_iff, fun malformed => ?_⟩
    obtain ⟨error, failed⟩ := ResourceKind.exists_groups?_error_iff.2 malformed
    exact leftAlone_of_malformed_kind kept ha hk asked failed
  · intro i e records he asked
    refine ⟨ClusterRecord.exists_stale_error_iff, fun malformed => ?_⟩
    obtain ⟨error, failed⟩ := ClusterRecord.exists_stale_error_iff.2 malformed
    exact leftAlone_of_malformed_endpoint kept he asked failed
  · intro records asked
    refine ⟨SubnetRecord.exists_subnets_error_iff, fun malformed => ?_⟩
    obtain ⟨error, failed⟩ := SubnetRecord.exists_subnets_error_iff.2 malformed
    exact leftAlone_of_malformed_subnets kept asked failed

/-- Items, each time something old and a record without a name. -/
def namelessItems : List ListedItem := [.named "d", {}]

def namelessClusters : List ClusterRecord :=
  [{ name := some "c", createTime := some "2020-01-01T00:00:00Z", zone := some "z" }, {}]

def namelessSubnets : List SubnetRecord := [{ name := some "s", region := some "r" }, {}]

/-- A cloud with nothing but such listings, in which no call fails. -/
def namelessCloud : Cloud where
  answer _
    | .checkApi .. => .ok true
    | .listResources _ => .ok namelessItems
    | .listClusters .. => .ok namelessClusters
    | .listSubnets .. => .ok namelessSubnets
    | .describeSubnet .. => .ok []
    | .activateAccount _ | .updateSubnet .. | .delete _ => .ok ()

/-- A sweep of disks, and of the clusters at one address, whatever their age. -/
def namelessSweep : Program Report :=
  project { project := "p", cutoff := .clearAll } [{ name := "test", url := "https://test/" }]
    ⟨[{ api := "compute", kinds := [.of "compute" "disks"] }]⟩

theorem leftAlone_of_malformed_nameless :
    ∃ moves report, namelessSweep.Runs namelessCloud moves report ∧
      (SweepUnit.kind 0 0).callsIn moves = [(.listing 0 0, .listResources
        { kind := .of "compute" "disks", project := "p", filter := "name !~ ^default" })] ∧
      (SweepUnit.endpoint 0).callsIn moves =
        [(.clusterListing 0, .listClusters ⟨"container", "https://test/"⟩ "p" "name !~ ^default")] ∧
      SweepUnit.subnets.callsIn moves = [(.subnetListing, .listSubnets "p" "name !~ ^default")] ∧
      report.failedKinds = ["compute disks"] ∧ report.clusters.malformed = ["test"] ∧
      report.subnetsFailed = true := by
  have run : namelessSweep.Runs namelessCloud (namelessSweep.moves namelessCloud)
    (namelessSweep.result namelessCloud) := runs_project _ _ _
  obtain ⟨-, all⟩ := leftAlone_of_malformed namelessCloud
    { project := "p", cutoff := .clearAll } [{ name := "test", url := "https://test/" }]
    ⟨[{ api := "compute", kinds := [.of "compute" "disks"] }]⟩
  obtain ⟨found, -, -, -, kinds, endpoints, subnets⟩ := all _ _ run
  have disks := (kinds 0 0 _ _ namelessItems rfl rfl
    (run.asked_of_mem_calls (by decide +kernel) id)).2 ⟨{}, by decide, by decide⟩
  have clusters := (endpoints 0 _ namelessClusters rfl
    (run.asked_of_mem_calls (by decide +kernel) id)).2 ⟨{}, by decide, _, rfl⟩
  have ranges := (subnets namelessSubnets
    (run.asked_of_mem_calls (by decide +kernel) id)).2 ⟨{}, by decide, _, rfl⟩
  exact ⟨_, _, run, disks.1.calls, clusters.1.calls, ranges.1.calls, by decide +kernel,
    by decide +kernel, ranges.2⟩

end Sweep
end CloudSweep
