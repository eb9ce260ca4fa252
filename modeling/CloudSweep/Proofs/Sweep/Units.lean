/-
The units of a sweep, one by one. Every call of a run is made by one unit, and the calls of a unit are
one block of the trace; what the sweep finds out about a unit is one entry of the ledger, and it is
the outcome of the run of the unit's own part.
-/
import CloudSweep.Proofs.Report
import CloudSweep.Proofs.Sweep.Ledger
import CloudSweep.Proofs.Sweep.Trace

namespace CloudSweep

/-! ## The sites of the units -/

namespace Site

theorem InSubnets.unit?_eq {site : Site} (h : site.InSubnets) : site.unit? = some .subnets := by
  cases site <;> first | rfl | exact h.elim

theorem InEndpoint.unit?_eq {i : Nat} {site : Site} (h : site.InEndpoint i) :
    site.unit? = some (.endpoint i) := by
  cases site <;> first | exact h.elim | (cases h; rfl)

theorem InKind.unit?_eq {i j : Nat} {site : Site} (h : site.InKind i j) :
    site.unit? = some (.kind i j) := by
  cases site <;> first | exact h.elim | (obtain ⟨rfl, rfl⟩ := h; rfl)

theorem InService.owns {i : Nat} {site : Site} (h : site.InService i) :
    (SweepUnit.service i).owns site = true := by
  cases site <;> first | exact h.elim | (cases h; simp [SweepUnit.owns, unit?, SweepUnit.covers])

end Site

/-! ## One place of a list -/

/-- What is picked from a list that is put together place by place, when only one place has any of
it. -/
theorem filter_flatMap_zipIdx {α β : Type} {f : α × Nat → List β} {p : β → Bool} {i : Nat}
    (apart : ∀ a : α × Nat, a.2 ≠ i → ∀ b ∈ f a, p b = false) (as : List α) :
    (as.zipIdx.flatMap f).filter p = ((as[i]?).map fun a => (f (a, i)).filter p).getD [] := by
  have elsewhere (a : α × Nat) (other : a.2 ≠ i) : (f a).filter p = [] :=
    List.filter_eq_nil_iff.2 fun b hb => Bool.eq_false_iff.1 (apart a other b hb)
  -- By induction on the list; the place moves up as the start of the count does.
  have places (start : Nat) : (as.zipIdx start).flatMap (fun a => (f a).filter p) =
      if start ≤ i then ((as[i - start]?).map fun a => (f (a, i)).filter p).getD [] else [] := by
    induction as generalizing start with
    | nil => simp
    | cons a as ih =>
      rw [List.zipIdx_cons, List.flatMap_cons, ih (start + 1)]
      by_cases here : start = i
      · subst here
        rw [if_neg (by omega), if_pos (Nat.le_refl _), Nat.sub_self, List.append_nil]
        rfl
      rw [elsewhere (a, start) here, List.nil_append]
      by_cases before : start + 1 ≤ i
      · have next : i - start = i - (start + 1) + 1 := by omega
        rw [if_pos before, if_pos (by omega), next, List.getElem?_cons_succ]
      · rw [if_neg before, if_neg (by omega)]
  rw [List.filter_flatMap, places 0]
  simp

/-! ## The calls of a unit -/

/-- The calls of the unit among some moves. -/
def SweepUnit.callsIn (u : SweepUnit) (moves : List Move) : List (Site × Call) :=
  (calls moves).filter (u.owns ·.1)

namespace Sweep

variable {cloud : Cloud} {s : Settings} {endpoints : List ClusterEndpoint} {catalog : Catalog}
  {moves : List Move} {report : Report} {found : Ledger} {u : SweepUnit} {i j : Nat}

/-- The calls on the endpoint in a place of the list, if there is one. -/
def endpointBlock (cloud : Cloud) (s : Settings) (endpoints : List ClusterEndpoint) (i : Nat) :
    List (Site × Call) :=
  ((endpoints[i]?).map (endpointCalls cloud s i)).getD []

/-- The calls on the kind in a place of a service, if there is one and the service is enabled. -/
def kindBlock (cloud : Cloud) (s : Settings) (catalog : Catalog) (i j : Nat) : List (Site × Call) :=
  ((catalog.services[i]?).map fun target =>
    match cloud.answer (.apiCheck i) (.checkApi s.project target.api) with
    | .error _ | .ok false => []
    | .ok true => ((target.kinds[j]?).map (kindCalls cloud s i j target.endpoint)).getD []).getD []

theorem endpointBlock_eq {e : ClusterEndpoint} (he : endpoints[i]? = some e) :
    endpointBlock cloud s endpoints i = endpointCalls cloud s i e := by
  rw [endpointBlock, he]
  rfl

theorem kindBlock_eq {target : Service} {k : ResourceKind} (ha : catalog.services[i]? = some target)
    (hk : target.kinds[j]? = some k) :
    kindBlock cloud s catalog i j =
      match cloud.answer (.apiCheck i) (.checkApi s.project target.api) with
      | .error _ | .ok false => []
      | .ok true => kindCalls cloud s i j target.endpoint k := by
  rw [kindBlock, ha, Option.map_some, Option.getD_some, hk]
  rfl

/-- A kind that is not in the catalog has no calls. -/
theorem kindBlock_eq_nil (missing : ¬ ∃ target k, catalog.services[i]? = some target ∧
    target.kinds[j]? = some k) : kindBlock cloud s catalog i j = [] := by
  unfold kindBlock
  rcases ha : catalog.services[i]? with _ | target
  · rfl
  rw [Option.map_some, Option.getD_some]
  split
  · rfl
  · rfl
  · rcases hk : target.kinds[j]? with _ | k
    · rfl
    · exact absurd ⟨target, k, ha, hk⟩ missing

theorem inSubnets_of_mem {c : Site × Call} (h : c ∈ subnetsCalls cloud s) : c.1.InSubnets := by
  cases worksOnSubnet_of_mem h <;> trivial

theorem inEndpoint_of_mem {e : ClusterEndpoint} {c : Site × Call}
    (h : c ∈ endpointCalls cloud s i e) : c.1.InEndpoint i := by
  obtain ⟨rest, block, deletions⟩ := startsWith_endpointCalls cloud s i e
  rw [block] at h
  rcases List.mem_cons.1 h with rfl | h
  · rfl
  · cases deletions c h
    rfl

theorem inKind_of_mem {endpoint : Option EndpointOverride} {k : ResourceKind} {c : Site × Call}
    (h : c ∈ kindCalls cloud s i j endpoint k) : c.1.InKind i j := by
  obtain ⟨rest, block, deletions⟩ := startsWith_kindCalls (List.ne_nil_of_mem h)
  rw [block] at h
  rcases List.mem_cons.1 h with rfl | h
  · exact ⟨rfl, rfl⟩
  · cases deletions c h
    exact ⟨rfl, rfl⟩

/-- The calls on a service are its check and those on its kinds. -/
theorem unit?_of_mem_serviceCalls {target : Service} {c : Site × Call}
    (h : c ∈ serviceCalls cloud s i target) :
    c.1.unit? = some (.service i) ∨ ∃ j, c.1.unit? = some (.kind i j) := by
  unfold serviceCalls at h
  rcases List.mem_cons.1 h with rfl | h
  · exact .inl rfl
  split at h
  · cases h
  · cases h
  · obtain ⟨k, -, hc⟩ := List.mem_flatMap.1 h
    exact .inr ⟨k.2, (inKind_of_mem hc).unit?_eq⟩

/-- No call of a block is the unit's when the sites of the block belong to other units. -/
theorem filter_owns_eq_nil {block : List (Site × Call)}
    (foreign : ∀ c ∈ block, ∃ w, c.1.unit? = some w ∧ u.covers w = false) :
    block.filter (u.owns ·.1) = [] := by
  refine List.filter_eq_nil_iff.2 fun c hc => ?_
  obtain ⟨w, hw, apart⟩ := foreign c hc
  rw [SweepUnit.owns_eq hw, apart]
  exact Bool.false_ne_true

/-- All calls of a block are the unit's when the sites of the block belong to it. -/
theorem filter_owns_eq_self {block : List (Site × Call)}
    (own : ∀ c ∈ block, ∃ w, c.1.unit? = some w ∧ u.covers w = true) :
    block.filter (u.owns ·.1) = block := by
  refine List.filter_eq_self.2 fun c hc => ?_
  obtain ⟨w, hw, inside⟩ := own c hc
  rw [SweepUnit.owns_eq hw, inside]

/-! No call on the subnets, the endpoints or the services belongs to a unit of another sort. -/

theorem filter_subnetsCalls_eq_nil (apart : u.covers .subnets = false) :
    (subnetsCalls cloud s).filter (u.owns ·.1) = [] :=
  filter_owns_eq_nil fun _ hc => ⟨_, (inSubnets_of_mem hc).unit?_eq, apart⟩

theorem filter_endpointCalls_eq_nil (apart : ∀ i, u.covers (.endpoint i) = false) :
    (endpoints.zipIdx.flatMap fun e => endpointCalls cloud s e.2 e.1).filter (u.owns ·.1) = [] := by
  refine filter_owns_eq_nil fun c hc => ?_
  obtain ⟨e, -, hc⟩ := List.mem_flatMap.1 hc
  exact ⟨_, (inEndpoint_of_mem hc).unit?_eq, apart e.2⟩

theorem filter_serviceCalls_eq_nil (apart : ∀ i, u.covers (.service i) = false)
    (apartKinds : ∀ i j, u.covers (.kind i j) = false) :
    (catalog.services.zipIdx.flatMap fun a => serviceCalls cloud s a.2 a.1).filter (u.owns ·.1) =
      [] := by
  refine filter_owns_eq_nil fun c hc => ?_
  obtain ⟨a, -, hc⟩ := List.mem_flatMap.1 hc
  rcases unit?_of_mem_serviceCalls hc with h | ⟨j, h⟩
  · exact ⟨_, h, apart a.2⟩
  · exact ⟨_, h, apartKinds a.2 j⟩

/-- The calls on the subnets are the first block of the trace. -/
theorem ProjectRun.callsIn_subnets (run : ProjectRun cloud s endpoints catalog moves report) :
    SweepUnit.subnets.callsIn moves =
      (.subnetListing, .listSubnets s.project s.filter) :: subnetsCalls cloud s := by
  have own : (subnetsCalls cloud s).filter (SweepUnit.subnets.owns ·.1) = subnetsCalls cloud s :=
    filter_owns_eq_self fun c hc => ⟨_, (inSubnets_of_mem hc).unit?_eq, rfl⟩
  rw [SweepUnit.callsIn, run.calls_eq, List.filter_cons_of_pos rfl, List.filter_append, own,
    List.filter_append, filter_endpointCalls_eq_nil fun _ => rfl,
    filter_serviceCalls_eq_nil (fun _ => rfl) fun _ _ => rfl, List.append_nil, List.append_nil]

/-- The calls on an endpoint are one block of the trace. -/
theorem ProjectRun.callsIn_endpoint (run : ProjectRun cloud s endpoints catalog moves report)
    (i : Nat) : (SweepUnit.endpoint i).callsIn moves = endpointBlock cloud s endpoints i := by
  have own : (fun e => (endpointCalls cloud s i e).filter ((SweepUnit.endpoint i).owns ·.1)) =
      endpointCalls cloud s i := by
    funext e
    refine filter_owns_eq_self fun c hc => ⟨_, (inEndpoint_of_mem hc).unit?_eq, ?_⟩
    simp [SweepUnit.covers]
  have apart (e : ClusterEndpoint × Nat) (other : e.2 ≠ i) :
      ∀ c ∈ endpointCalls cloud s e.2 e.1, (SweepUnit.endpoint i).owns c.1 = false := by
    intro c hc
    rw [SweepUnit.owns_eq (inEndpoint_of_mem hc).unit?_eq]
    simp [SweepUnit.covers, other.symm]
  rw [SweepUnit.callsIn, run.calls_eq, List.filter_cons_of_neg Bool.false_ne_true,
    List.filter_append, List.filter_append, filter_subnetsCalls_eq_nil rfl,
    filter_serviceCalls_eq_nil (fun _ => rfl) fun _ _ => rfl, List.append_nil, List.nil_append,
    filter_flatMap_zipIdx apart, own, endpointBlock]

/-- What is called at a site of an endpoint is called in its block. -/
theorem ProjectRun.mem_calls_of_endpoint (run : ProjectRun cloud s endpoints catalog moves report)
    {e : ClusterEndpoint} (visited : endpoints[i]? = some e) {site : Site} {call : Call}
    (inside : site.InEndpoint i) :
    (site, call) ∈ calls moves ↔ (site, call) ∈ endpointCalls cloud s i e := by
  have owned : (SweepUnit.endpoint i).owns site = true := by
    rw [SweepUnit.owns_eq inside.unit?_eq]
    simp [SweepUnit.covers]
  rw [← endpointBlock_eq visited, ← run.callsIn_endpoint, SweepUnit.callsIn, List.mem_filter]
  exact (and_iff_left owned).symm

/-- Of the calls on a service those on one of its kinds are one block, if it is enabled. -/
theorem filter_serviceCalls (target : Service) :
    (serviceCalls cloud s i target).filter ((SweepUnit.kind i j).owns ·.1) =
      match cloud.answer (.apiCheck i) (.checkApi s.project target.api) with
      | .error _ | .ok false => []
      | .ok true => ((target.kinds[j]?).map (kindCalls cloud s i j target.endpoint)).getD [] := by
  have own : (fun k => (kindCalls cloud s i j target.endpoint k).filter
      ((SweepUnit.kind i j).owns ·.1)) = kindCalls cloud s i j target.endpoint := by
    funext k
    refine filter_owns_eq_self fun c hc => ⟨_, (inKind_of_mem hc).unit?_eq, ?_⟩
    simp [SweepUnit.covers]
  have apart (k : ResourceKind × Nat) (other : k.2 ≠ j) :
      ∀ c ∈ kindCalls cloud s i k.2 target.endpoint k.1, (SweepUnit.kind i j).owns c.1 = false := by
    intro c hc
    rw [SweepUnit.owns_eq (inKind_of_mem hc).unit?_eq]
    simp [SweepUnit.covers, other.symm]
  rw [serviceCalls, List.filter_cons_of_neg Bool.false_ne_true]
  rcases cloud.answer (.apiCheck i) (.checkApi s.project target.api) with error | _ | _
  · rfl
  · rfl
  · dsimp only
    rw [filter_flatMap_zipIdx apart, own]

/-- The calls on a kind are one block of the trace. -/
theorem ProjectRun.callsIn_kind (run : ProjectRun cloud s endpoints catalog moves report)
    (i j : Nat) : (SweepUnit.kind i j).callsIn moves = kindBlock cloud s catalog i j := by
  have apart (a : Service × Nat) (other : a.2 ≠ i) :
      ∀ c ∈ serviceCalls cloud s a.2 a.1, (SweepUnit.kind i j).owns c.1 = false := by
    intro c hc
    rcases unit?_of_mem_serviceCalls hc with h | ⟨n, h⟩
    · rw [SweepUnit.owns_eq h]
      rfl
    · rw [SweepUnit.owns_eq h]
      simp [SweepUnit.covers, other.symm]
  rw [SweepUnit.callsIn, run.calls_eq, List.filter_cons_of_neg Bool.false_ne_true,
    List.filter_append, List.filter_append, filter_subnetsCalls_eq_nil rfl,
    filter_endpointCalls_eq_nil fun _ => rfl, List.nil_append, List.nil_append,
    filter_flatMap_zipIdx apart, kindBlock]
  simp only [filter_serviceCalls]

/-! ## The findings on a unit -/

end Sweep

/-- What a ledger has on the unit itself. -/
def Ledger.on (ledger : Ledger) (u : SweepUnit) : Ledger := ledger.filter (·.1 = u)

/-- What a ledger has on other units. -/
def Ledger.without (ledger : Ledger) (u : SweepUnit) : Ledger := ledger.filter (!·.1 = u)

namespace Sweep

variable {cloud : Cloud} {s : Settings} {endpoints : List ClusterEndpoint} {catalog : Catalog}
  {moves : List Move} {found : Ledger} {i j : Nat}

theorem LedgerRun.projectRun (run : LedgerRun cloud s endpoints catalog moves found) :
    ProjectRun cloud s endpoints catalog moves found.report := by
  cases run with
  | parts subnetSweep endpointSweep serviceSweep =>
    rw [report_findings]
    exact .parts subnetSweep endpointSweep serviceSweep

theorem on_append (a b : Ledger) (u : SweepUnit) : Ledger.on (a ++ b) u = a.on u ++ b.on u :=
  List.filter_append ..

/-- Findings on services are of no use to a unit of another sort. -/
theorem on_services_eq_nil {u : SweepUnit} (apart : ∀ a, (SweepUnit.service a).covers u = false)
    (outcomes : List (String × ServiceOutcome)) :
    Ledger.on (outcomes.zipIdx.flatMap fun o => serviceFindings o.2 o.1.1 o.1.2) u = [] := by
  refine List.filter_eq_nil_iff.2 fun f hf same => ?_
  obtain ⟨o, -, hf⟩ := List.mem_flatMap.1 hf
  have inside := covers_of_mem_serviceFindings hf
  rw [of_decide_eq_true same, apart] at inside
  exact Bool.false_ne_true inside

/-- Findings on endpoints are of no use to a unit of another sort. -/
theorem on_endpoints_eq_nil {u : SweepUnit} (apart : ∀ n, u ≠ .endpoint n)
    (outcomes : List (String × EndpointOutcome)) :
    Ledger.on (outcomes.zipIdx.map fun e => (.endpoint e.2, .endpoint e.1.1 e.1.2)) u = [] := by
  refine List.filter_eq_nil_iff.2 fun f hf same => ?_
  obtain ⟨e, -, rfl⟩ := List.mem_map.1 hf
  exact apart e.2 (of_decide_eq_true same).symm

/-- The ledger has one finding on the subnets: what came of them. -/
theorem LedgerRun.on_subnets (run : LedgerRun cloud s endpoints catalog moves found) :
    ∃ part outcome, SubnetsRun cloud s part outcome ∧
      found.on .subnets = [(.subnets, .subnets outcome)] := by
  cases run with
  | @parts subnetMoves _ _ subnetOutcomes endpointOutcomes serviceOutcomes subnetSweep =>
    refine ⟨subnetMoves, subnetOutcomes, subnetsRun subnetSweep, ?_⟩
    rw [findings, Ledger.on, List.filter_cons_of_pos (by simp), ← Ledger.on, on_append,
      on_endpoints_eq_nil (by simp), on_services_eq_nil fun _ => rfl]
    rfl

/-- The ledger has one finding on an endpoint: what came of it. -/
theorem LedgerRun.on_endpoint {e : ClusterEndpoint} (he : endpoints[i]? = some e)
    (run : LedgerRun cloud s endpoints catalog moves found) :
    ∃ part outcome, EndpointRun cloud s i e part outcome ∧
      found.on (.endpoint i) = [(.endpoint i, .endpoint e.name outcome)] := by
  cases run with
  | @parts _ _ _ subnetOutcomes endpointOutcomes serviceOutcomes _ endpointSweep =>
    obtain ⟨part, outcome, ho, sweep⟩ := Program.exists_result_at endpointSweep he
    refine ⟨part, outcome, endpointRun sweep, ?_⟩
    have place : ((endpoints.map (·.name)).zip endpointOutcomes)[i]? = some (e.name, outcome) := by
      rw [List.getElem?_zip_eq_some, List.getElem?_map, he]
      exact ⟨rfl, ho⟩
    have apart (o : (String × EndpointOutcome) × Nat) (other : o.2 ≠ i) :
        ∀ f ∈ ([(.endpoint o.2, .endpoint o.1.1 o.1.2)] : Ledger),
          decide (f.1 = .endpoint i) = false := by
      intro f hf
      rw [List.mem_singleton.1 hf]
      simp [other]
    rw [findings, Ledger.on, List.filter_cons_of_neg (by simp), ← Ledger.on, on_append,
      on_services_eq_nil fun _ => rfl, List.append_nil, List.map_eq_flatMap, Ledger.on,
      filter_flatMap_zipIdx apart, place]
    simp

/-- Of the findings on a service one is on a kind of it: what came of that kind. -/
theorem on_serviceFindings {outcomes : List (ResourceKind × KindOutcome)} {k : ResourceKind}
    {outcome : KindOutcome} (api : String) (h : outcomes[j]? = some (k, outcome)) :
    Ledger.on (serviceFindings i api (.swept outcomes)) (.kind i j) =
      [(.kind i j, .kind k outcome)] := by
  have apart (o : (ResourceKind × KindOutcome) × Nat) (other : o.2 ≠ j) :
      ∀ f ∈ ([(.kind i o.2, .kind o.1.1 o.1.2)] : Ledger), decide (f.1 = .kind i j) = false := by
    intro f hf
    rw [List.mem_singleton.1 hf]
    simp [other]
  rw [Ledger.on, serviceFindings, List.map_eq_flatMap, filter_flatMap_zipIdx apart, h]
  simp

/-- The ledger has one finding on a kind of a service that is enabled: what came of it. -/
theorem LedgerRun.on_kind {target : Service} {k : ResourceKind}
    (ha : catalog.services[i]? = some target) (hk : target.kinds[j]? = some k)
    (enabled : cloud.answer (.apiCheck i) (.checkApi s.project target.api) = .ok true)
    (run : LedgerRun cloud s endpoints catalog moves found) :
    ∃ part outcome, KindRun cloud s i j target.endpoint k part outcome ∧
      found.on (.kind i j) = [(.kind i j, .kind k outcome)] := by
  cases run with
  | @parts _ _ _ subnetOutcomes endpointOutcomes serviceOutcomes _ _ serviceSweep =>
    obtain ⟨servicePart, serviceOutcome, ho, sweep⟩ := Program.exists_result_at serviceSweep ha
    cases serviceRun sweep with
    | unknown check => cases check.symm.trans enabled
    | disabled check => cases check.symm.trans enabled
    | @swept kindMoves kindOutcomes _ kinds =>
      obtain ⟨_, _, hko, kindSweep⟩ := Program.exists_result_at kinds hk
      obtain ⟨part, outcome, -, rfl, kindRun⟩ := reportedKindRun kindSweep
      refine ⟨part, outcome, kindRun, ?_⟩
      have place : ((catalog.services.map (·.api)).zip serviceOutcomes)[i]? =
          some (target.api, .swept kindOutcomes) := by
        rw [List.getElem?_zip_eq_some, List.getElem?_map, ha]
        exact ⟨rfl, ho⟩
      have apart (o : (String × ServiceOutcome) × Nat) (other : o.2 ≠ i) :
          ∀ f ∈ serviceFindings o.2 o.1.1 o.1.2, decide (f.1 = .kind i j) = false := by
        intro f hf
        refine decide_eq_false fun same => ?_
        have inside := covers_of_mem_serviceFindings hf
        rw [same] at inside
        exact other (of_decide_eq_true inside)
      rw [findings, Ledger.on, List.filter_cons_of_neg (by simp), ← Ledger.on, on_append,
        on_endpoints_eq_nil (by simp), List.nil_append, Ledger.on, filter_flatMap_zipIdx apart, place]
      exact on_serviceFindings target.api hko

/-- The report says whether the subnets failed. -/
theorem ProjectRun.subnetsFailed_eq {report : Report}
    (run : ProjectRun cloud s endpoints catalog moves report) :
    ∃ part outcome, SubnetsRun cloud s part outcome ∧ report.subnetsFailed = !outcome.isOk := by
  cases run with
  | parts subnetSweep =>
    refine ⟨_, _, subnetsRun subnetSweep, ?_⟩
    rw [Report.subnetsFailed_recordServices]

end Sweep
end CloudSweep
