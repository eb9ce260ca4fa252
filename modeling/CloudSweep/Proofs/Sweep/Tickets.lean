/-
The deletions of a live sweep, as they follow from the cloud's answers: those of the endpoints in
their order, and then those of the services, kind by kind. Under every schedule a run starts exactly
these, in this order, and no two of them are for one site.
-/
import CloudSweep.Proofs.Selection.Item
import CloudSweep.Proofs.Sweep.Footprint
import CloudSweep.Proofs.Sweep.Sites

namespace CloudSweep

namespace Sweep

variable {cloud : Cloud} {s : Settings} {moves : List Move}

section Tickets

variable (cloud : Cloud) (s : Settings)

/-- The clusters of an endpoint that are to be deleted. -/
def endpointTickets (index : Nat) (e : ClusterEndpoint) : List Ticket :=
  match cloud.answer (.clusterListing index) (clusterListCall s e) with
  | .error _ => []
  | .ok records =>
    match ClusterRecord.stale s.cutoff records with
    | .error _ => []
    | .ok targets => clusterTickets s index e targets

/-- The requests for what was selected of a kind. -/
def selectionTickets (service index : Nat) (endpoint : Option EndpointOverride) (k : ResourceKind) :
    Except SelectionError Groups → List Ticket
  | .error _ => []
  | .ok groups => requestTickets service index (k.plan groups s.project s.batchSize endpoint)

/-- The requests of a kind that are to be carried out. -/
def kindTickets (service index : Nat) (endpoint : Option EndpointOverride) (k : ResourceKind) :
    List Ticket :=
  if k.clearAllOnly && !s.cutoff.isClearAll then []
  else
    match cloud.answer (.listing service index) (.listResources (listRequest s endpoint k)) with
    | .error _ => []
    | .ok items => selectionTickets s service index endpoint k (k.groups? s.cutoff items)

/-- The requests of a service, kind by kind. -/
def serviceTickets (index : Nat) (target : Service) : List Ticket :=
  match cloud.answer (.apiCheck index) (.checkApi s.project target.api) with
  | .error _ | .ok false => []
  | .ok true => target.kinds.zipIdx.flatMap fun k => kindTickets cloud s index k.2 target.endpoint k.1

/-- All deletions of a project, in the order of the sweep. -/
def projectTickets (endpoints : List ClusterEndpoint) (catalog : Catalog) : List Ticket :=
  endpoints.zipIdx.flatMap (fun e => endpointTickets cloud s e.2 e.1) ++
    catalog.services.zipIdx.flatMap fun a => serviceTickets cloud s a.2 a.1

end Tickets

section Kind

variable {service index : Nat} {endpoint : Option EndpointOverride} {k : ResourceKind}

theorem passedOver_iff :
    (k.clearAllOnly && !s.cutoff.isClearAll) = true ↔ k.clearAllOnly = true ∧ s.cutoff ≠ .clearAll := by
  rw [Bool.and_eq_true, Bool.not_eq_true', ← Bool.not_eq_true, Cutoff.isClearAll_iff]

theorem not_passedOver_iff :
    ¬ (k.clearAllOnly && !s.cutoff.isClearAll) = true ↔
      (k.clearAllOnly = true → s.cutoff.isClearAll = true) := by
  rw [passedOver_iff, not_and, not_not, Cutoff.isClearAll_iff]

theorem kindTickets_of_passedOver (only : k.clearAllOnly = true) (aged : s.cutoff ≠ .clearAll) :
    kindTickets cloud s service index endpoint k = [] := by
  rw [kindTickets, if_pos (passedOver_iff.2 ⟨only, aged⟩)]

theorem kindTickets_of_swept (swept : k.clearAllOnly = true → s.cutoff.isClearAll = true) :
    kindTickets cloud s service index endpoint k =
      match cloud.answer (.listing service index) (.listResources (listRequest s endpoint k)) with
      | .error _ => []
      | .ok items => selectionTickets s service index endpoint k (k.groups? s.cutoff items) := by
  rw [kindTickets, if_neg (not_passedOver_iff.2 swept)]

/-- A listing with a defect leads to no deletion. -/
theorem kindTickets_of_malformed {items : List ListedItem} {error : SelectionError}
    (listing : cloud.answer (.listing service index) (.listResources (listRequest s endpoint k)) =
      .ok items)
    (failed : k.groups? s.cutoff items = .error error) :
    kindTickets cloud s service index endpoint k = [] := by
  simp [kindTickets, listing, failed, selectionTickets]

end Kind

/-- A listing with a defect leads to no deletion. -/
theorem endpointTickets_of_malformed {index : Nat} {e : ClusterEndpoint}
    {records : List ClusterRecord} {error : SelectionError}
    (listing : cloud.answer (.clusterListing index) (clusterListCall s e) = .ok records)
    (failed : ClusterRecord.stale s.cutoff records = .error error) :
    endpointTickets cloud s index e = [] := by
  simp [endpointTickets, listing, failed]

/-- What is carried out of some deletions: all of them, and in a dry run none. -/
def carriedOut (s : Settings) (tickets : List Ticket) : List Ticket :=
  if s.dryRun then [] else tickets

theorem carriedOut_live (live : s.dryRun = false) (tickets : List Ticket) :
    carriedOut s tickets = tickets := by
  rw [carriedOut, live]
  rfl

theorem carriedOut_dry (dry : s.dryRun = true) (tickets : List Ticket) :
    carriedOut s tickets = [] := by
  rw [carriedOut, dry]
  rfl

@[simp] theorem carriedOut_nil : carriedOut s [] = [] := ite_self []

theorem length_carriedOut_le {tickets : List Ticket} :
    (carriedOut s tickets).length ≤ tickets.length := by
  unfold carriedOut
  split
  · exact Nat.zero_le _
  · exact Nat.le_refl _

theorem carriedOut_append (a b : List Ticket) :
    carriedOut s (a ++ b) = carriedOut s a ++ carriedOut s b := by
  unfold carriedOut
  split <;> rfl

theorem carriedOut_flatMap {α : Type} (as : List α) (f : α → List Ticket) :
    carriedOut s (as.flatMap f) = as.flatMap fun a => carriedOut s (f a) := by
  induction as with
  | nil => exact carriedOut_nil
  | cons a as ih => rw [List.flatMap_cons, List.flatMap_cons, carriedOut_append, ih]

/-! ## What a run starts -/

theorem EndpointRun.starts_eq {index : Nat} {e : ClusterEndpoint} {outcome : EndpointOutcome}
    (run : EndpointRun cloud s index e moves outcome) :
    starts moves = carriedOut s (endpointTickets cloud s index e) := by
  unfold endpointTickets
  cases run with
  | unreachable listing => simp [listing]
  | malformed listing selection => simp [listing, selection]
  | spared listing selection => simp [listing, selection, clusterTickets]
  | dry _ _ dry => simp [carriedOut_dry dry]
  | live listing selection live pool =>
    simp [listing, selection, pool.finished.1, carriedOut_live live]

section Kind

variable {service index : Nat} {endpoint : Option EndpointOverride} {k : ResourceKind}

theorem DeleteRun.starts_eq {groups : Groups} {outcome : DeletionOutcome}
    (run : DeleteRun cloud s service index endpoint k groups moves outcome) :
    starts moves = carriedOut s (selectionTickets s service index endpoint k (.ok groups)) := by
  unfold selectionTickets
  cases run with
  | nothing empty => simp [empty, requestTickets]
  | dry _ _ dry => rw [starts_notes, carriedOut_dry dry]
  | live planned _ live pool => simp [planned, pool.finished.1, carriedOut_live live]

theorem SelectRun.starts_eq {result : Except SelectionError Groups}
    (run : SelectRun cloud s service index endpoint k moves result) : starts moves = [] := by
  cases run <;> simp

theorem SelectRun.kindTickets_eq {result : Except SelectionError Groups}
    (run : SelectRun cloud s service index endpoint k moves result)
    (swept : k.clearAllOnly = true → s.cutoff.isClearAll = true) :
    kindTickets cloud s service index endpoint k =
      selectionTickets s service index endpoint k result := by
  rw [kindTickets_of_swept swept]
  cases run with
  | unlisted listing => simp [listing, selectionTickets]
  | excused listing => simp [listing, selectionTickets, ResourceKind.plan, requestTickets]
  | listed listing grouped => simp [listing, grouped]

theorem KindRun.starts_eq {outcome : KindOutcome}
    (run : KindRun cloud s service index endpoint k moves outcome) :
    starts moves = carriedOut s (kindTickets cloud s service index endpoint k) := by
  cases run with
  | passedOver only aged => simp [kindTickets, only, aged]
  | failed swept selection =>
    rw [selection.starts_eq, selection.kindTickets_eq swept]
    exact carriedOut_nil.symm
  | spared swept selection =>
    rw [starts_append, selection.starts_eq, selection.kindTickets_eq swept]
    exact carriedOut_nil.symm
  | selected swept selection _ deletion =>
    rw [starts_append, selection.starts_eq, selection.kindTickets_eq swept, List.nil_append]
    exact deletion.starts_eq

end Kind

theorem ServiceRun.starts_eq {index : Nat} {target : Service} {outcome : ServiceOutcome}
    (run : ServiceRun cloud s index target moves outcome) :
    starts moves = carriedOut s (serviceTickets cloud s index target) := by
  unfold serviceTickets
  cases run with
  | unknown check => simp [check]
  | disabled check => simp [check]
  | swept check kinds =>
    rw [check, starts_asked, carriedOut_flatMap]
    refine Program.starts_of_runs_each
      (g := fun j k => carriedOut s (kindTickets cloud s index j target.endpoint k))
      kinds fun j k part result run => ?_
    obtain ⟨part, result, rfl, rfl, kindRun⟩ := reportedKindRun run
    rw [starts_append, starts_notes, List.append_nil, kindRun.starts_eq]

/-- A live run starts all deletions of the project, in the order of the sweep. -/
theorem ProjectRun.starts_eq {endpoints : List ClusterEndpoint} {catalog : Catalog} {report : Report}
    (live : s.dryRun = false) (run : ProjectRun cloud s endpoints catalog moves report) :
    starts moves = projectTickets cloud s endpoints catalog := by
  cases run with
  | @parts subnetMoves _ _ _ _ _ subnetSweep endpointSweep serviceSweep =>
    -- The subnets come first and start nothing.
    have noSubnets : starts subnetMoves = [] := by
      refine List.eq_nil_iff_forall_not_mem.2 fun ticket h => ?_
      exact (subnets_deletes_nothing subnetSweep).1 ticket (mem_starts.1 h)
    have perEndpoint := Program.starts_of_runs_each (g := endpointTickets cloud s) endpointSweep
      fun _ _ _ _ run => (endpointRun run).starts_eq.trans (carriedOut_live live _)
    have perService := Program.starts_of_runs_each (g := serviceTickets cloud s) serviceSweep
      fun _ _ _ _ run => (serviceRun run).starts_eq.trans (carriedOut_live live _)
    rw [starts_noted, starts_append, noSubnets, List.nil_append, starts_noted, starts_append,
      perEndpoint, perService]
    rfl

/-- A project has no two deletions for one site. -/
theorem nodup_projectTickets (cloud : Cloud) (endpoints : List ClusterEndpoint) (catalog : Catalog)
    (live : s.dryRun = false) :
    ((projectTickets cloud s endpoints catalog).map (·.site)).Nodup := by
  have run := runs_project (s := s) cloud endpoints catalog
  have sites := ((starts_sublist_calls _).map Prod.fst).nodup (nodup_sites_of_runs run)
  rw [List.map_map, (projectRun run).starts_eq live] at sites
  exact sites

end Sweep
end CloudSweep
