/-
The ledger of a sweep. Whatever a sweep finds out belongs to a unit of it: to the subnets, to an
endpoint, to a service or to a kind of a service. The ledger has the findings in the order of the
sweep, each with its unit, and the report is the ledger added up; so each name in a list of the report
stands there for a unit.
-/
import CloudSweep.Proofs.Sweep.Runs
import Mathlib.Algebra.GroupWithZero.Nat

namespace CloudSweep

/-! ## Units -/

/-- A part of a sweep that can fail for itself. Things are counted from zero in the order in which they
are swept, and the kinds of a service are parts of it. -/
inductive SweepUnit
  | subnets
  | endpoint (index : Nat)
  | service (index : Nat)
  | kind (service index : Nat)
  deriving DecidableEq

/-- The innermost unit that makes its calls at the site. -/
def Site.unit? : Site → Option SweepUnit
  | .activation => none
  | .subnetListing | .subnetDescription _ | .subnetUpdate _ => some .subnets
  | .clusterListing i | .cluster i _ => some (.endpoint i)
  | .apiCheck i => some (.service i)
  | .listing i j | .deletion i j _ => some (.kind i j)

namespace SweepUnit

/-- Whether the second unit is the first one or a part of it. -/
def covers : SweepUnit → SweepUnit → Bool
  | .service i, .kind j _ => i = j
  | u, w => u = w

/-- Whether calls at the site are made by the unit. -/
def owns (u : SweepUnit) (site : Site) : Bool := site.unit?.any u.covers

theorem owns_eq {u w : SweepUnit} {site : Site} (h : site.unit? = some w) :
    u.owns site = u.covers w := by
  rw [owns, h]
  rfl

end SweepUnit

/-! ## Findings -/

/-- What a sweep finds out about one of its units. -/
inductive Finding
  | subnets (outcome : Except SelectionError (List SubnetOutcome))
  | endpoint (name : String) (outcome : EndpointOutcome)
  /-- The service is not enabled. -/
  | disabled (api : String)
  /-- It could not be told whether the service is enabled. -/
  | unknown (api : String)
  | kind (k : ResourceKind) (outcome : KindOutcome)

/-- Findings with their units, in the order of a sweep. -/
abbrev Ledger := List (SweepUnit × Finding)

/-- The report with one more finding. -/
def Report.add (r : Report) : Finding → Report
  | .subnets outcome => { r with subnetsFailed := !outcome.isOk }
  | .endpoint name outcome => { r with clusters := r.clusters.record name outcome }
  | .disabled api => r.recordService api .disabled
  | .unknown api => r.recordService api .unknown
  | .kind k outcome => r.recordKind k outcome

/-- The report with all findings of a ledger. -/
def Report.addAll (r : Report) (ledger : Ledger) : Report := ledger.foldl (fun r e => r.add e.2) r

/-- The report that a ledger adds up to. -/
def Ledger.report (ledger : Ledger) : Report := Report.addAll {} ledger

namespace Sweep

/-! ## The ledger of a sweep -/

/-- The findings of a service. -/
def serviceFindings (index : Nat) (api : String) : ServiceOutcome → Ledger
  | .disabled => [(.service index, .disabled api)]
  | .unknown => [(.service index, .unknown api)]
  | .swept kinds => kinds.zipIdx.map fun k => (.kind index k.2, .kind k.1.1 k.1.2)

/-- The findings of a service belong to the service or to one of its kinds. -/
theorem covers_of_mem_serviceFindings {index : Nat} {api : String} {o : ServiceOutcome}
    {e : SweepUnit × Finding} (h : e ∈ serviceFindings index api o) :
    (SweepUnit.service index).covers e.1 = true := by
  cases o with
  | disabled | unknown =>
    rw [List.mem_singleton.1 h]
    simp [SweepUnit.covers]
  | swept kinds =>
    obtain ⟨_, -, rfl⟩ := List.mem_map.1 h
    simp [SweepUnit.covers]

/-- The findings of a sweep from what came of its parts. -/
def findings (subnetOutcomes : Except SelectionError (List SubnetOutcome))
    (endpointOutcomes : List (String × EndpointOutcome))
    (serviceOutcomes : List (String × ServiceOutcome)) : Ledger :=
  (.subnets, .subnets subnetOutcomes) ::
    (endpointOutcomes.zipIdx.map (fun e => (.endpoint e.2, .endpoint e.1.1 e.1.2)) ++
      serviceOutcomes.zipIdx.flatMap fun o => serviceFindings o.2 o.1.1 o.1.2)

/-- Sweeps a project and keeps the ledger. -/
def ledger (s : Settings) (endpoints : List ClusterEndpoint) (catalog : Catalog) : Program Ledger := do
  .say (.sweepStarted s.project s.cutoff s.dryRun)
  let subnetOutcomes ← subnets s
  .say (subnetsEvent s subnetOutcomes)
  let endpointOutcomes ← Program.each (endpoint s) 0 endpoints
  let serviceOutcomes ← Program.each (service s) 0 catalog.services
  return findings subnetOutcomes ((endpoints.map (·.name)).zip endpointOutcomes)
    ((catalog.services.map (·.api)).zip serviceOutcomes)

theorem addAll_endpoints (r : Report) (outcomes : List (String × EndpointOutcome)) (start : Nat) :
    r.addAll ((outcomes.zipIdx start).map fun e => (.endpoint e.2, .endpoint e.1.1 e.1.2)) =
      { r with
        clusters := outcomes.foldl (fun c (name, outcome) => c.record name outcome) r.clusters } := by
  induction outcomes generalizing r start with
  | nil => rfl
  | cons o outcomes ih => exact ih _ _

theorem addAll_kinds (r : Report) (index : Nat) (kinds : List (ResourceKind × KindOutcome))
    (start : Nat) :
    r.addAll ((kinds.zipIdx start).map fun k => (.kind index k.2, .kind k.1.1 k.1.2)) =
      kinds.foldl (fun r (kind, outcome) => r.recordKind kind outcome) r := by
  induction kinds generalizing r start with
  | nil => rfl
  | cons k kinds ih => exact ih _ _

theorem addAll_service (r : Report) (index : Nat) (api : String) (outcome : ServiceOutcome) :
    r.addAll (serviceFindings index api outcome) = r.recordService api outcome := by
  cases outcome with
  | disabled => rfl
  | unknown => rfl
  | swept kinds => exact addAll_kinds r index kinds 0

theorem addAll_services (r : Report) (outcomes : List (String × ServiceOutcome)) (start : Nat) :
    r.addAll ((outcomes.zipIdx start).flatMap fun o => serviceFindings o.2 o.1.1 o.1.2) =
      r.recordServices outcomes := by
  induction outcomes generalizing r start with
  | nil => rfl
  | cons o outcomes ih =>
    rw [List.zipIdx_cons, List.flatMap_cons, Report.addAll, List.foldl_append]
    exact (ih _ _).trans (congrArg (Report.recordServices · outcomes) (addAll_service r start o.1 o.2))

/-- A report is its ledger added up. -/
theorem report_findings (subnetOutcomes : Except SelectionError (List SubnetOutcome))
    (endpointOutcomes : List (String × EndpointOutcome))
    (serviceOutcomes : List (String × ServiceOutcome)) :
    (findings subnetOutcomes endpointOutcomes serviceOutcomes).report =
      Report.recordServices
        { clusters := .ofOutcomes endpointOutcomes, subnetsFailed := !subnetOutcomes.isOk }
        serviceOutcomes := by
  rw [Ledger.report, findings, Report.addAll, List.foldl_cons, List.foldl_append]
  refine (addAll_services _ serviceOutcomes 0).trans (congrArg (Report.recordServices · _) ?_)
  exact addAll_endpoints _ endpointOutcomes 0

/-- A sweep keeps a ledger and adds it up. -/
theorem project_eq (s : Settings) (endpoints : List ClusterEndpoint) (catalog : Catalog) :
    project s endpoints catalog =
      (ledger s endpoints catalog).bind fun findings => .done findings.report := by
  simp only [project, ledger, clusters, services, Program.bind_eq, Program.pure_eq,
    Program.bind_assoc, Program.done_bind, report_findings]

theorem runs_project_iff {cloud : Cloud} {s : Settings} {endpoints : List ClusterEndpoint}
    {catalog : Catalog} {moves : List Move} {report : Report} :
    (project s endpoints catalog).Runs cloud moves report ↔
      ∃ findings, (ledger s endpoints catalog).Runs cloud moves findings ∧
        report = findings.report := by
  simp only [project_eq, Program.runs_bind, Program.runs_done]
  constructor
  · rintro ⟨first, findings, _, rfl, run, rfl, rfl⟩
    exact ⟨findings, (List.append_nil first).symm ▸ run, rfl⟩
  · rintro ⟨findings, run, rfl⟩
    exact ⟨moves, findings, [], (List.append_nil moves).symm, run, rfl, rfl⟩

/-- The runs of `ledger`: the subnets, then the endpoints, then the services. -/
inductive LedgerRun (cloud : Cloud) (s : Settings) (endpoints : List ClusterEndpoint)
    (catalog : Catalog) : List Move → Ledger → Prop
  | parts {subnetMoves endpointMoves serviceMoves : List Move}
      {subnetOutcomes : Except SelectionError (List SubnetOutcome)}
      {endpointOutcomes : List EndpointOutcome} {serviceOutcomes : List ServiceOutcome}
      (subnetSweep : (subnets s).Runs cloud subnetMoves subnetOutcomes)
      (endpointSweep : (Program.each (endpoint s) 0 endpoints).Runs cloud endpointMoves
        endpointOutcomes)
      (serviceSweep : (Program.each (service s) 0 catalog.services).Runs cloud serviceMoves
        serviceOutcomes) :
      LedgerRun cloud s endpoints catalog
        (.noted (.sweepStarted s.project s.cutoff s.dryRun) ::
          (subnetMoves ++ .noted (subnetsEvent s subnetOutcomes) ::
            (endpointMoves ++ serviceMoves)))
        (findings subnetOutcomes ((endpoints.map (·.name)).zip endpointOutcomes)
          ((catalog.services.map (·.api)).zip serviceOutcomes))

theorem ledgerRun {cloud : Cloud} {s : Settings} {endpoints : List ClusterEndpoint}
    {catalog : Catalog} {moves : List Move} {found : Ledger}
    (run : (ledger s endpoints catalog).Runs cloud moves found) :
    LedgerRun cloud s endpoints catalog moves found := by
  unfold ledger at run
  simp only [Program.bind_eq, Program.say_bind, Program.pure_eq, Program.runs_note,
    Program.runs_bind, Program.runs_done] at run
  obtain ⟨_, rfl, _, _, _, rfl, subnetSweep, _, rfl, _, _, _, rfl, endpointSweep, _, _, _, rfl,
    serviceSweep, rfl, rfl⟩ := run
  rw [List.append_nil]
  exact .parts subnetSweep endpointSweep serviceSweep

end Sweep

/-! ## The lists of a report -/

/-- A list of names in a report. -/
inductive Column
  | disabledApis
  | failedApis
  | failedKinds
  | unreachable
  | malformed

/-- The list of a report. -/
def Report.column (r : Report) : Column → List String
  | .disabledApis => r.disabledApis
  | .failedApis => r.failedApis
  | .failedKinds => r.failedKinds
  | .unreachable => r.clusters.unreachable
  | .malformed => r.clusters.malformed

/-- The name that a finding puts into a list. -/
def Finding.name? : Finding → Column → Option String
  | .disabled api, .disabledApis => some api
  | .unknown api, .failedApis => some api
  | .kind k (.ok outcome), .failedKinds => if outcome.isFailed then some k.title else none
  | .kind k (.error _), .failedKinds => some k.title
  | .endpoint name .unreachable, .unreachable => some name
  | .endpoint name .malformed, .malformed => some name
  | _, _ => none

/-- The names that a ledger puts into a list, each with its unit. -/
def Ledger.column (ledger : Ledger) (column : Column) : List (SweepUnit × String) :=
  ledger.filterMap fun e => (e.2.name? column).map (e.1, ·)

theorem Report.column_add (r : Report) (finding : Finding) (column : Column) :
    (r.add finding).column column = r.column column ++ (finding.name? column).toList := by
  rcases finding with outcome | ⟨name, _ | _ | _⟩ | api | api | ⟨k, error | outcome⟩ <;>
    cases column <;>
    simp only [add, recordService, recordKind, recordDeletions, ClusterReport.record, Report.column,
      Finding.name?, Option.toList_none, Option.toList_some, List.append_nil]
  split <;> simp

/-- The lists of a report are those of its ledger. -/
theorem Ledger.column_report (ledger : Ledger) (column : Column) :
    ledger.report.column column = (ledger.column column).map Prod.snd := by
  have fold (r : Report) :
      (r.addAll ledger).column column = r.column column ++ (ledger.column column).map Prod.snd := by
    induction ledger generalizing r with
    | nil => exact (List.append_nil _).symm
    | cons e ledger ih =>
      rw [Report.addAll, List.foldl_cons]
      refine (ih (r.add e.2)).trans ?_
      rw [Report.column_add, List.append_assoc, Ledger.column, Ledger.column, List.filterMap_cons]
      cases e.2.name? column <;> rfl
  refine (fold {}).trans ?_
  cases column <;> rfl

/-- What is kept of a list of names is the list of what is kept. -/
theorem Ledger.filter_column (keep : SweepUnit → Bool) (ledger : Ledger) (column : Column) :
    (ledger.column column).filter (keep ·.1) = Ledger.column (ledger.filter (keep ·.1)) column := by
  rw [Ledger.column, Ledger.column, List.filter_filterMap, List.filterMap_filter]
  refine List.filterMap_congr fun e _ => ?_
  cases e.2.name? column <;> simp [Option.filter_some]

/-! ## The counts of a report -/

/-- A count of deletions in a report. -/
inductive Counter
  | calls
  | deleted
  | failed
  | tolerated
  | clustersDeleted
  | clustersFailed

/-- The count of a report. -/
def Report.counter (r : Report) : Counter → Nat
  | .calls => r.deletionCalls
  | .deleted => r.deleted
  | .failed => r.failedDeletions
  | .tolerated => r.toleratedFailures
  | .clustersDeleted => r.clusters.deleted
  | .clustersFailed => r.clusters.failedDeletions

/-- What a finding adds to a count. -/
def Finding.amount : Finding → Counter → Nat
  | .kind _ (.ok outcome), .calls => outcome.calls
  | .kind _ (.ok outcome), .deleted => outcome.deleted
  | .kind _ (.ok outcome), .failed => outcome.failures.length
  | .kind _ (.ok outcome), .tolerated => outcome.tolerated
  | .endpoint _ (.swept deleted _), .clustersDeleted => deleted
  | .endpoint _ (.swept _ failed), .clustersFailed => failed
  | _, _ => 0

/-- What a ledger adds to a count. -/
def Ledger.amount (ledger : Ledger) (counter : Counter) : Nat :=
  (ledger.map (·.2.amount counter)).sum

theorem Report.counter_add (r : Report) (finding : Finding) (counter : Counter) :
    (r.add finding).counter counter = r.counter counter + finding.amount counter := by
  rcases finding with outcome | ⟨name, _ | _ | _⟩ | api | api | ⟨k, error | outcome⟩ <;>
    cases counter <;> rfl

/-- The counts of a report are those of its ledger. -/
theorem Ledger.counter_report (ledger : Ledger) (counter : Counter) :
    ledger.report.counter counter = ledger.amount counter := by
  have fold (r : Report) :
      (r.addAll ledger).counter counter = r.counter counter + ledger.amount counter := by
    induction ledger generalizing r with
    | nil => rfl
    | cons e ledger ih =>
      rw [Report.addAll, List.foldl_cons]
      refine (ih (r.add e.2)).trans ?_
      rw [Report.counter_add, Nat.add_assoc]
      rfl
  refine (fold {}).trans ?_
  cases counter <;> exact Nat.zero_add _

/-- A count is made up of what is kept and what is not. -/
theorem Ledger.amount_eq_add (keep : SweepUnit → Bool) (ledger : Ledger) (counter : Counter) :
    ledger.amount counter = Ledger.amount (ledger.filter (keep ·.1)) counter +
      Ledger.amount (ledger.filter (!keep ·.1)) counter := by
  induction ledger with
  | nil => rfl
  | cons e ledger ih =>
    simp only [amount, List.map_cons, List.sum_cons] at ih ⊢
    rw [ih, List.filter_cons, List.filter_cons]
    cases keep e.1 with
    | false =>
      simp only [Bool.false_eq_true, if_false, Bool.not_false, if_true, List.map_cons, List.sum_cons]
      omega
    | true =>
      simp only [if_true, Bool.not_true, Bool.false_eq_true, if_false, List.map_cons, List.sum_cons]
      omega

end CloudSweep
