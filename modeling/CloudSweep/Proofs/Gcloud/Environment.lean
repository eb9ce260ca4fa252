/-
The variables of the tool's runs. Each call of a sweep is one run of the tool, with variables of its
own: the project that pays, if one is configured, and then the address that the unit declares for
which the call is made, if it declares one. What other units declare never gets into it, whatever was
called before and whatever is in flight together with it.
-/
import CloudSweep.Gcloud.Relay
import CloudSweep.Proofs.Sweep.Trace

namespace CloudSweep.Gcloud

open Sweep

/-! ## Runs of the tool -/

/-- The runs of the tool that some moves start, with their sites. -/
def Config.processes (c : Config) (moves : List Move) : List (Site × Invocation) :=
  (calls moves).map fun call => (call.1, c.invocation call.2)

@[simp] theorem Config.processes_append (c : Config) (a b : List Move) :
    c.processes (a ++ b) = c.processes a ++ c.processes b := by
  rw [processes, calls_append, List.map_append]
  rfl

/-- The variable that names the project that pays, if one is configured. -/
def Config.quotaVariables (c : Config) : List (String × String) :=
  (c.quotaProject.map ("CLOUDSDK_BILLING_QUOTA_PROJECT", ·)).toList

/-- The variable that sends calls on a service to the address that it declares, if it does. -/
def serviceVariables (target : Service) : List (String × String) :=
  (target.endpoint.map fun o => (o.variableName, o.url)).toList

/-- The variable that sends calls on clusters to an address. -/
def clusterVariables (e : ClusterEndpoint) : List (String × String) :=
  [("CLOUDSDK_API_ENDPOINT_OVERRIDES_CONTAINER", e.url)]

/-- The unit for which a call is made at a site, with the variables that go with the unit's address.
Only calls on the instances of a kind and on clusters have any. -/
inductive Addressed (s : Settings) (endpoints : List ClusterEndpoint) (catalog : Catalog) :
    Site → Call → List (String × String) → Prop
  | subnetListing :
      Addressed s endpoints catalog .subnetListing (.listSubnets s.project s.filter) []
  | subnetDescription (i : Nat) (target : Subnet) :
      Addressed s endpoints catalog (.subnetDescription i) (.describeSubnet s.project target) []
  | subnetUpdate (i : Nat) (target : Subnet) (names : List String) :
      Addressed s endpoints catalog (.subnetUpdate i) (.updateSubnet s.project target names) []
  | clusterListing {i : Nat} {e : ClusterEndpoint} (visited : endpoints[i]? = some e) :
      Addressed s endpoints catalog (.clusterListing i)
        (.listClusters e.override s.project s.filter) (clusterVariables e)
  | cluster {i : Nat} {e : ClusterEndpoint} (visited : endpoints[i]? = some e) (n : Nat)
      (target : ClusterTarget) :
      Addressed s endpoints catalog (.cluster i n)
        (.delete (.cluster e.override s.project target)) (clusterVariables e)
  | apiCheck {i : Nat} {target : Service} (declared : catalog.services[i]? = some target) :
      Addressed s endpoints catalog (.apiCheck i) (.checkApi s.project target.api) []
  | listing {i j : Nat} {target : Service} {k : ResourceKind}
      (declared : catalog.services[i]? = some target) (ofService : target.kinds[j]? = some k) :
      Addressed s endpoints catalog (.listing i j)
        (.listResources (listRequest s target.endpoint k)) (serviceVariables target)
  | deletion {i j : Nat} {target : Service} {k : ResourceKind}
      (declared : catalog.services[i]? = some target) (ofService : target.kinds[j]? = some k)
      (r : Nat) (names : List String) (scope : DeleteScope) :
      Addressed s endpoints catalog (.deletion i j r)
        (.delete (.resources
          { kind := k, project := s.project, names, scope, endpoint := target.endpoint }))
        (serviceVariables target)

variable {config : Config} {cloud : Cloud} {s : Settings} {endpoints : List ClusterEndpoint}
  {catalog : Catalog} {site : Site} {call : Call}

/-- The variable for calls on clusters. -/
theorem variableName_override (e : ClusterEndpoint) :
    e.override.variableName = "CLOUDSDK_API_ENDPOINT_OVERRIDES_CONTAINER" := by
  show "CLOUDSDK_API_ENDPOINT_OVERRIDES_" ++ String.ofList ("container".toList.map Char.toUpper) = _
  decide

/-- The address in the call itself is the one that its unit declares. -/
theorem Addressed.environment_eq {overrides : List (String × String)}
    (h : Addressed s endpoints catalog site call overrides) :
    config.environment call = config.quotaVariables ++ overrides := by
  cases h with
  | @clusterListing _ e => rw [clusterVariables, ← variableName_override e]; rfl
  | @cluster _ e => rw [clusterVariables, ← variableName_override e]; rfl
  | subnetListing | subnetDescription | subnetUpdate | apiCheck | listing | deletion => rfl

/-! ## Calls and their units -/

theorem addressed_of_mem_subnetsCalls (h : (site, call) ∈ subnetsCalls cloud s) :
    Addressed s endpoints catalog site call [] := by
  cases worksOnSubnet_of_mem h with
  | description i target => exact .subnetDescription i target
  | update i target names => exact .subnetUpdate i target names

theorem addressed_of_mem_endpointCalls {i : Nat} {e : ClusterEndpoint}
    (visited : endpoints[i]? = some e) (h : (site, call) ∈ endpointCalls cloud s i e) :
    Addressed s endpoints catalog site call (clusterVariables e) := by
  obtain ⟨rest, block, deletions⟩ := startsWith_endpointCalls cloud s i e
  rw [block] at h
  rcases List.mem_cons.1 h with first | later
  · cases first
    exact .clusterListing visited
  · cases deletions _ later with
    | intro n target => exact .cluster visited n target

theorem addressed_of_mem_kindCalls {i j : Nat} {target : Service} {k : ResourceKind}
    (declared : catalog.services[i]? = some target) (ofService : target.kinds[j]? = some k)
    (h : (site, call) ∈ kindCalls cloud s i j target.endpoint k) :
    Addressed s endpoints catalog site call (serviceVariables target) := by
  unfold kindCalls at h
  split at h
  · cases h
  rcases List.mem_cons.1 h with first | later
  · cases first
    exact .listing declared ofService
  · obtain ⟨ticket, ht, same⟩ := List.mem_map.1 later
    obtain ⟨r, names, scope, rfl⟩ := mem_kindTickets (mem_carriedOut.1 ht).2
    cases same
    exact .deletion declared ofService r names scope

/-- The calls on a service are its check, which has no address, and those on its kinds. -/
theorem addressed_of_mem_serviceCalls {i : Nat} {target : Service}
    (declared : catalog.services[i]? = some target)
    (h : (site, call) ∈ serviceCalls cloud s i target) :
    ∃ overrides, Addressed s endpoints catalog site call overrides := by
  unfold serviceCalls at h
  rcases List.mem_cons.1 h with first | later
  · cases first
    exact ⟨[], .apiCheck declared⟩
  split at later
  · cases later
  · cases later
  · obtain ⟨k, hk, called⟩ := List.mem_flatMap.1 later
    have ofService : target.kinds[k.2]? = some k.1 := List.mem_zipIdx_iff_getElem?.1 hk
    exact ⟨serviceVariables target, addressed_of_mem_kindCalls declared ofService called⟩

/-- Every call of a run is made for a unit. -/
theorem addressed_of_mem_calls {moves : List Move} {report : Report}
    (run : ProjectRun cloud s endpoints catalog moves report) (h : (site, call) ∈ calls moves) :
    ∃ overrides, Addressed s endpoints catalog site call overrides := by
  rw [run.calls_eq] at h
  rcases List.mem_cons.1 h with first | h
  · cases first
    exact ⟨[], .subnetListing⟩
  rcases List.mem_append.1 h with onSubnets | h
  · exact ⟨[], addressed_of_mem_subnetsCalls onSubnets⟩
  rcases List.mem_append.1 h with onEndpoints | onServices
  · obtain ⟨e, he, called⟩ := List.mem_flatMap.1 onEndpoints
    have visited : endpoints[e.2]? = some e.1 := List.mem_zipIdx_iff_getElem?.1 he
    exact ⟨clusterVariables e.1, addressed_of_mem_endpointCalls visited called⟩
  · obtain ⟨a, ha, called⟩ := List.mem_flatMap.1 onServices
    have declared : catalog.services[a.2]? = some a.1 := List.mem_zipIdx_iff_getElem?.1 ha
    exact addressed_of_mem_serviceCalls declared called

/-- A sweep through the tool comes to its end. Under every schedule each run of the tool is made for a
unit, and its variables are the quota project, if one is configured, and then the address that this
unit declares, if it declares one; and what the unit learns is what this run of the tool came to. -/
theorem environment_of_runs (config : Config) (tool : Site → Invocation → ToolResult) (s : Settings)
    (endpoints : List ClusterEndpoint) (catalog : Catalog) :
    (∃ moves report, (project s endpoints catalog).Runs (config.cloud tool) moves report) ∧
      ∀ moves report, (project s endpoints catalog).Runs (config.cloud tool) moves report →
        (∀ p ∈ config.processes moves, ∃ call overrides, (p.1, call) ∈ calls moves ∧
          Addressed s endpoints catalog p.1 call overrides ∧ p.2.arguments = arguments call ∧
          p.2.environment = config.quotaVariables ++ overrides) ∧
        (∀ site call answer, .asked site call answer ∈ moves →
          answer = config.answer call (tool site (config.invocation call))) ∧
        ∀ l : Landing, .landed l ∈ moves →
          l.result = config.answer l.ticket.call
            (tool l.ticket.site (config.invocation l.ticket.call)) := by
  refine ⟨⟨_, _, runs_project _ endpoints catalog⟩, fun moves report run => ⟨?_, ?_, ?_⟩⟩
  · intro p hp
    obtain ⟨⟨site, call⟩, hc, rfl⟩ := List.mem_map.1 hp
    obtain ⟨overrides, addressed⟩ := addressed_of_mem_calls (projectRun run) hc
    exact ⟨call, overrides, hc, addressed, rfl, addressed.environment_eq⟩
  · intro site call answer asked
    exact (run.answer_eq asked).symm
  · intro l landed
    have inTrace := run.landings_perm.subset (mem_landings.2 landed)
    obtain ⟨ticket, -, rfl⟩ := List.mem_map.1 inTrace
    rfl

/-- A service with an address of its own and one without. -/
def twoServices : Catalog where
  services := [
    { api := "gkehub", endpoint := some { service := "gkehub", url := "https://hub/" }
      kinds := [.of "container" "memberships"] },
    { api := "compute", kinds := [.of "compute" "routes"] }]

/-- A tool that finds every service enabled and nothing in any listing. -/
def idleTool (site : Site) (_ : Invocation) : ToolResult :=
  match site with
  | .apiCheck _ => .exited (.code 0) (bytesOf "ENABLED".toList) []
  | _ => .exited (.code 0) [] []

theorem environment_of_runs_hub :
    ∃ moves report,
      (project { project := "p", cutoff := .clearAll } [{ name := "test", url := "https://test/" }]
        twoServices).Runs (Config.cloud { quotaProject := some "q" } idleTool) moves report ∧
      ∃ p ∈ Config.processes { quotaProject := some "q" } moves, p.1 = .listing 0 0 ∧
        p.2.environment = [("CLOUDSDK_BILLING_QUOTA_PROJECT", "q"),
          ("CLOUDSDK_API_ENDPOINT_OVERRIDES_GKEHUB", "https://hub/")] := by
  obtain ⟨⟨moves, report, run⟩, all⟩ := environment_of_runs { quotaProject := some "q" } idleTool
    { project := "p", cutoff := .clearAll } [{ name := "test", url := "https://test/" }] twoServices
  have called : .listing 0 0 ∈ (calls moves).map Prod.fst := by
    rw [(projectRun run).calls_eq]
    decide +kernel
  obtain ⟨⟨_, call⟩, hc, rfl⟩ := List.mem_map.1 called
  have process := List.mem_map_of_mem (f := fun c : Site × Call =>
    (c.1, Config.invocation { quotaProject := some "q" } c.2)) hc
  refine ⟨moves, report, run, _, process, rfl, ?_⟩
  obtain ⟨_, overrides, -, addressed, -, environment⟩ := (all moves report run).1 _ process
  rw [environment]
  dsimp only at addressed
  cases addressed with
  | listing declared => cases declared; decide

end CloudSweep.Gcloud
