/-
The sites of a sweep. Subnets, endpoints, kinds and services each have sites of their own, so that no
two calls of a run share one.
-/
import CloudSweep.Proofs.Program.Sites
import CloudSweep.Proofs.Sweep.Runs
import Mathlib.Data.List.Nodup

namespace CloudSweep

/-! ## Regions -/

namespace Site

/-- The site belongs to the subnet with this index. -/
def InSubnet (index : Nat) : Site → Prop
  | .subnetDescription i | .subnetUpdate i => i = index
  | _ => False

/-- The site belongs to the subnets. -/
def InSubnets : Site → Prop
  | .subnetListing | .subnetDescription _ | .subnetUpdate _ => True
  | _ => False

/-- The site belongs to the endpoint with this index. -/
def InEndpoint (index : Nat) : Site → Prop
  | .clusterListing i | .cluster i _ => i = index
  | _ => False

/-- The site belongs to the kind with this index of this service. -/
def InKind (service index : Nat) : Site → Prop
  | .listing i j | .deletion i j _ => i = service ∧ j = index
  | _ => False

/-- The site belongs to the service with this index. -/
def InService (index : Nat) : Site → Prop
  | .apiCheck i | .listing i _ | .deletion i _ _ => i = index
  | _ => False

theorem InSubnet.index_eq {i j : Nat} {site : Site} (hi : site.InSubnet i) (hj : site.InSubnet j) :
    i = j := by
  cases site <;> first | exact hi.symm.trans hj | exact hi.elim

theorem InEndpoint.index_eq {i j : Nat} {site : Site} (hi : site.InEndpoint i)
    (hj : site.InEndpoint j) : i = j := by
  cases site <;> first | exact hi.symm.trans hj | exact hi.elim

theorem InKind.index_eq {service i j : Nat} {site : Site} (hi : site.InKind service i)
    (hj : site.InKind service j) : i = j := by
  cases site <;> first | exact hi.2.symm.trans hj.2 | exact hi.elim

theorem InService.index_eq {i j : Nat} {site : Site} (hi : site.InService i)
    (hj : site.InService j) : i = j := by
  cases site <;> first | exact hi.symm.trans hj | exact hi.elim

end Site

namespace Sweep

open Program (Once once_bind once_bind_quiet once_each once_say_bind once_request_bind
  once_deleteAll_bind once_sayAll_bind)

variable {s : Settings}

/-! ## Tickets -/

/-- Deletions that are numbered through have sites of their own. -/
theorem nodup_sites_mapIdx {α : Type} {site : Nat → Site} (inj : ∀ i j, site i = site j → i = j)
    (deletion : α → Deletion) (as : List α) :
    ((as.mapIdx fun i a => ({ site := site i, deletion := deletion a } : Ticket)).map
      (·.site)).Nodup := by
  have sites : (as.mapIdx fun i a => ({ site := site i, deletion := deletion a } : Ticket)).map
      (·.site) = (List.range' 0 as.length).map site := by
    rw [List.mapIdx_eq_zipIdx_map, List.map_map, ← List.zipIdx_map_snd, List.map_map]
    rfl
  rw [sites]
  exact List.Nodup.map inj List.nodup_range'

theorem nodup_clusterTickets (index : Nat) (e : ClusterEndpoint) (targets : List ClusterTarget) :
    ((clusterTickets s index e targets).map (·.site)).Nodup :=
  nodup_sites_mapIdx (fun _ _ => (Site.cluster.inj · |>.2)) (.cluster e.override s.project) targets

theorem nodup_requestTickets (service index : Nat) (requests : List DeleteRequest) :
    ((requestTickets service index requests).map (·.site)).Nodup :=
  nodup_sites_mapIdx (fun _ _ => (Site.deletion.inj · |>.2.2)) .resources requests

/-! ## Subnets -/

theorem once_subnet (index : Nat) (target : Subnet) :
    (subnet s index target).Once (Site.InSubnet index) := by
  unfold subnet
  refine once_request_bind.2 ⟨rfl, fun answer => ?_⟩
  split
  · trivial
  · trivial
  split
  · trivial
  split
  · trivial
  refine once_say_bind.2 (once_request_bind.2 ⟨⟨rfl, fun h => nomatch h⟩, fun answer => ?_⟩)
  split <;> trivial

theorem once_subnets : (subnets s).Once Site.InSubnets := by
  unfold subnets
  refine once_request_bind.2 ⟨trivial, fun answer => ?_⟩
  split
  · trivial
  split
  · trivial
  refine Once.mono (once_bind_quiet
    (once_each once_subnet (fun _ _ _ => Site.InSubnet.index_eq) _ 0) fun _ => trivial) fun site h => ?_
  obtain ⟨i, -, h⟩ := h
  cases site with
  | subnetDescription _ => exact ⟨trivial, fun h => nomatch h⟩
  | subnetUpdate _ => exact ⟨trivial, fun h => nomatch h⟩
  | _ => exact h.elim

/-! ## Clusters -/

theorem once_endpoint (index : Nat) (e : ClusterEndpoint) :
    (endpoint s index e).Once (Site.InEndpoint index) := by
  unfold endpoint
  refine once_request_bind.2 ⟨rfl, fun answer => ?_⟩
  split
  · trivial
  split
  · trivial
  · trivial
  refine once_sayAll_bind.2 ?_
  split
  · trivial
  refine once_deleteAll_bind.2 ⟨nodup_clusterTickets .., fun site h => ?_, fun _ => trivial⟩
  obtain ⟨ticket, ht, rfl⟩ := List.mem_map.1 h
  obtain ⟨i, target, -, rfl⟩ := mem_clusterTickets.1 ht
  exact ⟨rfl, fun h => nomatch h⟩

/-! ## Resources -/

section Kind

variable (service index : Nat) (endpoint : Option EndpointOverride) (k : ResourceKind)

theorem once_select : (select s service index endpoint k).Once (· = .listing service index) := by
  unfold select
  refine once_request_bind.2 ⟨rfl, fun answer => ?_⟩
  split
  · split <;> trivial
  exact once_sayAll_bind.2 trivial

theorem once_delete (groups : Groups) :
    (delete s service index endpoint k groups).Once (∃ r, · = .deletion service index r) := by
  unfold delete
  dsimp only
  split
  · trivial
  show Program.Once (if s.dryRun then _ else _) _
  split
  · exact once_sayAll_bind.2 trivial
  refine once_deleteAll_bind.2 ⟨nodup_requestTickets .., fun site h => ?_, fun _ => trivial⟩
  obtain ⟨ticket, ht, rfl⟩ := List.mem_map.1 h
  obtain ⟨r, request, -, rfl⟩ := mem_requestTickets.1 ht
  exact ⟨r, rfl⟩

theorem once_kind : (kind s service endpoint index k).Once (Site.InKind service index) := by
  unfold kind
  split
  · trivial
  refine (once_bind (once_select service index endpoint k) (B := (∃ r, · = .deletion service index r))
    (fun result => ?_) fun site listed deleted => ?_).mono fun site h => ?_
  · split
    · trivial
    · trivial
    exact once_bind_quiet (once_delete service index endpoint k _) fun _ => trivial
  · obtain ⟨r, rfl⟩ := deleted
    cases listed
  · rcases h with rfl | ⟨r, rfl⟩
    · exact ⟨rfl, rfl⟩
    · exact ⟨rfl, rfl⟩

theorem once_reportedKind :
    (reportedKind s service endpoint index k).Once (Site.InKind service index) := by
  unfold reportedKind
  refine once_bind_quiet (once_kind service index endpoint k) fun outcome => ?_
  cases outcome <;> trivial

end Kind

theorem once_service (index : Nat) (target : Service) :
    (service s index target).Once (Site.InService index) := by
  unfold service
  refine once_request_bind.2 ⟨rfl, fun answer => ?_⟩
  split
  · trivial
  · trivial
  refine Once.mono (once_bind_quiet (once_each (fun j k => once_reportedKind index j _ k)
    (fun _ _ _ => Site.InKind.index_eq) _ 0) fun _ => trivial) fun site h => ?_
  obtain ⟨j, -, h⟩ := h
  cases site with
  | listing _ _ => exact ⟨h.1, fun h => nomatch h⟩
  | deletion _ _ _ => exact ⟨h.1, fun h => nomatch h⟩
  | _ => exact h.elim

/-! ## Projects -/

theorem once_clusters (endpoints : List ClusterEndpoint) :
    (clusters s endpoints).Once (∃ i, Site.InEndpoint i ·) := by
  unfold clusters
  refine Once.mono (once_bind_quiet (once_each once_endpoint (fun _ _ _ => Site.InEndpoint.index_eq) _ 0)
    fun _ => trivial) fun site h => ?_
  obtain ⟨i, -, h⟩ := h
  exact ⟨i, h⟩

theorem once_services (catalog : Catalog) :
    (services s catalog).Once (∃ i, Site.InService i ·) := by
  unfold services
  refine Once.mono (once_bind_quiet (once_each once_service (fun _ _ _ => Site.InService.index_eq) _ 0)
    fun _ => trivial) fun site h => ?_
  obtain ⟨i, -, h⟩ := h
  exact ⟨i, h⟩

/-- A sweep makes each of its calls at a site of its own, and leaves that of the activation free. -/
theorem once_project (endpoints : List ClusterEndpoint) (catalog : Catalog) :
    (project s endpoints catalog).Once (· ≠ .activation) := by
  unfold project
  refine once_say_bind.2 (Once.mono (once_bind once_subnets (fun outcomes => once_say_bind.2
    (once_bind (once_clusters endpoints) (fun report => once_bind_quiet (once_services catalog)
      fun _ => ?_) ?_)) ?_) ?_)
  · trivial
  · rintro site ⟨i, hi⟩ ⟨j, hj⟩
    cases site <;> first | exact hi | exact hj
  · rintro site hs (⟨i, hi⟩ | ⟨j, hj⟩)
    · cases site <;> first | exact hs | exact hi
    · cases site <;> first | exact hs | exact hj
  · rintro _ (hs | ⟨i, hi⟩ | ⟨j, hj⟩) rfl
    · exact hs
    · exact hi
    · exact hj

/-- No two calls of a sweep are made at one site. -/
theorem nodup_sites_of_runs {cloud : Cloud} {endpoints : List ClusterEndpoint} {catalog : Catalog}
    {moves : List Move} {report : Report}
    (run : (project s endpoints catalog).Runs cloud moves report) :
    ((calls moves).map Prod.fst).Nodup :=
  run.nodup_sites (once_project endpoints catalog)

end Sweep
end CloudSweep
