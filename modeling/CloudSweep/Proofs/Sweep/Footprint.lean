/-
What a sweep may do at all. Outside of pools it only asks and updates, and deletes nothing; its
pools hold either the stale clusters of one endpoint or the requests of one kind, and their width is
that of the settings, or one where the settings say zero. Sweeping the subnets is a matter of calls
on subnets alone.
-/
import CloudSweep.Proofs.Program.Footprint
import CloudSweep.Sweep.Project

namespace CloudSweep

/-- The call deletes something. -/
def Call.IsDeletion : Call → Prop
  | .delete _ => True
  | _ => False

/-- The call concerns subnets. -/
def Call.IsOnSubnets : Call → Prop
  | .listSubnets .. | .describeSubnet .. | .updateSubnet .. => True
  | _ => False

theorem Call.IsOnSubnets.not_isDeletion {call : Call} (h : call.IsOnSubnets) :
    ¬ call.IsDeletion := by
  cases call with
  | delete _ => exact h.elim
  | _ => exact id

/-- A call that is no deletion was asked, and got the cloud's answer. -/
theorem Program.Runs.asked_of_mem_calls {α : Type} {cloud : Cloud} {p : Program α}
    {moves : List Move} {a : α} (run : p.Runs cloud moves a) {site : Site} {call : Call}
    (h : (site, call) ∈ calls moves) (asks : ¬ call.IsDeletion) :
    .asked site call (cloud.answer site call) ∈ moves := by
  rcases mem_calls.1 h with ⟨answer, asked⟩ | ⟨ticket, -, -, rfl⟩
  · rw [run.answer_eq asked]
    exact asked
  · exact absurd trivial asks

namespace Sweep

open Program (within_bind within_each)

variable {s : Settings}

/-- A call that deletes nothing. -/
def asks (_ : Site) (call : Call) : Prop := ¬ call.IsDeletion

/-- A pool that a sweep may open. -/
inductive Opens (s : Settings) : Nat → List Ticket → Prop
  | clusters (index : Nat) (e : ClusterEndpoint) (targets : List ClusterTarget) :
      Opens s (max s.workers 1) (clusterTickets s index e targets)
  | resources (service index : Nat) (requests : List DeleteRequest) :
      Opens s (max s.workers 1) (requestTickets service index requests)

theorem Opens.width_eq {width : Nat} {tickets : List Ticket} (h : Opens s width tickets) :
    width = max s.workers 1 := by
  cases h <;> rfl

theorem Opens.room {width : Nat} {tickets : List Ticket} (h : Opens s width tickets) :
    0 < width := by
  rw [h.width_eq]
  omega

/-! ## Subnets -/

theorem within_subnet (index : Nat) (target : Subnet) :
    (subnet s index target).Within (fun _ call => call.IsOnSubnets) fun _ _ => False := by
  unfold subnet
  refine within_bind (Program.within_request.2 trivial) fun answer => ?_
  split
  · trivial
  · trivial
  split
  · trivial
  split
  · trivial
  refine within_bind (Program.within_say _) fun _ => ?_
  refine within_bind (Program.within_request.2 trivial) fun answer => ?_
  split <;> trivial

theorem within_subnets : (subnets s).Within (fun _ call => call.IsOnSubnets) fun _ _ => False := by
  unfold subnets
  refine within_bind (Program.within_request.2 trivial) fun answer => ?_
  split
  · trivial
  split
  · trivial
  exact within_bind (within_each (fun i a _ => within_subnet i a) 0) fun _ => trivial

/-! ## Clusters -/

theorem within_endpoint (index : Nat) (e : ClusterEndpoint) :
    (endpoint s index e).Within asks (Opens s) := by
  unfold endpoint
  refine within_bind (Program.within_say _) fun _ => ?_
  refine within_bind (Program.within_request.2 id) fun answer => ?_
  split
  · trivial
  split
  · trivial
  · trivial
  refine within_bind (Program.within_sayAll _) fun _ => ?_
  split
  · trivial
  exact within_bind (Program.within_deleteAll.2 (.clusters ..)) fun _ => trivial

/-! ## Resources -/

theorem within_select (service index : Nat) (endpoint : Option EndpointOverride) (k : ResourceKind) :
    (select s service index endpoint k).Within asks (Opens s) := by
  unfold select
  refine within_bind (Program.within_request.2 id) fun answer => ?_
  split
  · split <;> trivial
  refine within_bind (Program.within_say _) fun _ => ?_
  exact within_bind (Program.within_sayAll _) fun _ => trivial

theorem within_delete (service index : Nat) (endpoint : Option EndpointOverride) (k : ResourceKind)
    (groups : Groups) : (delete s service index endpoint k groups).Within asks (Opens s) := by
  unfold delete
  dsimp only
  split
  · trivial
  refine within_bind (Program.within_say _) fun _ => ?_
  split
  · exact within_bind (Program.within_sayAll _) fun _ => trivial
  · exact within_bind (Program.within_deleteAll.2 (.resources ..)) fun _ => trivial

theorem within_kind (service : Nat) (endpoint : Option EndpointOverride) (index : Nat)
    (k : ResourceKind) : (kind s service endpoint index k).Within asks (Opens s) := by
  unfold kind
  split
  · trivial
  refine within_bind (within_select ..) fun result => ?_
  split
  · trivial
  · trivial
  exact within_bind (within_delete ..) fun _ => trivial

theorem within_reportedKind (service : Nat) (endpoint : Option EndpointOverride) (index : Nat)
    (k : ResourceKind) : (reportedKind s service endpoint index k).Within asks (Opens s) := by
  unfold reportedKind
  refine within_bind (within_kind ..) fun outcome => ?_
  cases outcome <;> trivial

theorem within_service (index : Nat) (target : Service) :
    (service s index target).Within asks (Opens s) := by
  unfold service
  refine within_bind (Program.within_request.2 id) fun answer => ?_
  split
  · trivial
  · trivial
  exact within_bind (within_each (fun i k _ => within_reportedKind index _ i k) 0) fun _ => trivial

/-! ## Projects -/

/-- A sweep deletes in its pools only. -/
theorem within_project (endpoints : List ClusterEndpoint) (catalog : Catalog) :
    (project s endpoints catalog).Within asks (Opens s) := by
  unfold project clusters services
  refine within_bind (Program.within_say _) fun _ => ?_
  refine within_bind (within_subnets.mono (fun _ _ h => h.not_isDeletion) fun _ _ h => h.elim)
    fun _ => ?_
  refine within_bind (Program.within_say _) fun _ => ?_
  refine within_bind (within_bind (within_each (fun i e _ => within_endpoint i e) 0) fun _ => trivial)
    fun _ => ?_
  exact within_bind (within_bind (within_each (fun i a _ => within_service i a) 0) fun _ => trivial)
    fun _ => trivial

/-- A sweep comes to its end: what `Program.run` computes is a run of it. -/
theorem runs_project (cloud : Cloud) (endpoints : List ClusterEndpoint) (catalog : Catalog) :
    (project s endpoints catalog).Runs cloud ((project s endpoints catalog).moves cloud)
      ((project s endpoints catalog).result cloud) :=
  Program.runs_run cloud ((within_project endpoints catalog).mono (fun _ _ h => h) fun _ _ h => h.room)

/-- Sweeping the subnets deletes nothing. -/
theorem subnets_deletes_nothing {cloud : Cloud} {moves : List Move}
    {outcome : Except SelectionError (List SubnetOutcome)}
    (run : (subnets s).Runs cloud moves outcome) :
    (∀ ticket, .started ticket ∉ moves) ∧ ∀ landing, .landed landing ∉ moves := by
  refine ⟨fun ticket h => ?_, fun landing h => ?_⟩
  · obtain ⟨_, _, none, -⟩ := run.within within_subnets _ h
    exact none
  · obtain ⟨_, _, none, -⟩ := run.within within_subnets _ h
    exact none

end Sweep
end CloudSweep
