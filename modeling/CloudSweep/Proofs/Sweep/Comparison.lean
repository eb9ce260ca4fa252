/-
Two sweeps side by side. Sweeps of the same catalog, with settings that differ at most in whether
anything is deleted, ask the same questions in the same order; they part where they delete. So they
match when they agree on the calls that only ask and match where they delete, and it is enough to
look at the units one by one.
-/
import CloudSweep.Proofs.Program.Comparison
import CloudSweep.Proofs.Sweep.Ledger

namespace CloudSweep

variable {α β γ : Type}

/-- The settings, with nothing to be deleted or not. -/
def Settings.withDryRun (s : Settings) (dryRun : Bool) : Settings := { s with dryRun }

/-- The request whose deletion is only announced by the event. -/
def Event.planned? : Event → Option DeleteRequest
  | .wouldDelete request => some request
  | _ => none

/-- Of the events nothing is seen but announcements of deletions. -/
structure Comparison.Discreet (v : Comparison γ) : Prop where
  left : ∀ event : Event, event.planned? = none → v.left.noted event = none
  right : ∀ event : Event, event.planned? = none → v.right.noted event = none

/-! ## Related outcomes -/

/-- Both failed alike, or both succeeded with related results. -/
inductive Alike {ε : Type} (R : α → β → Prop) : Except ε α → Except ε β → Prop
  | ok {a : α} {b : β} (related : R a b) : Alike R (.ok a) (.ok b)
  | error (error : ε) : Alike R (.error error) (.error error)

/-- The ledgers have the same units among those to be kept, in the same order, with related findings. -/
def Ledger.AgreeOn (keep : SweepUnit → Bool) (E : Finding → Finding → Prop) (a b : Ledger) : Prop :=
  List.Forall₂ (fun x y => x.1 = y.1 ∧ E x.2 y.2) (a.filter (keep ·.1)) (b.filter (keep ·.1))

namespace Ledger

variable {keep : SweepUnit → Bool} {E : Finding → Finding → Prop}

theorem AgreeOn.append {a b a' b' : Ledger} (h : AgreeOn keep E a b) (h' : AgreeOn keep E a' b') :
    AgreeOn keep E (a ++ a') (b ++ b') := by
  rw [AgreeOn, List.filter_append, List.filter_append]
  exact List.rel_append h h'

theorem agreeOn_singleton {u : SweepUnit} {x y : Finding} (h : keep u = true → E x y) :
    AgreeOn keep E [(u, x)] [(u, y)] := by
  unfold AgreeOn
  by_cases kept : keep u = true
  · simpa [kept] using h kept
  · simp [kept]

/-- Ledgers that are put together place by place. -/
theorem agreeOn_flatMap {R : Nat → α → β → Prop} {f : α × Nat → Ledger} {g : β × Nat → Ledger}
    (h : ∀ i a b, R i a b → AgreeOn keep E (f (a, i)) (g (b, i))) {start : Nat} {as : List α}
    {bs : List β} (places : Placewise R start as bs) :
    AgreeOn keep E ((as.zipIdx start).flatMap f) ((bs.zipIdx start).flatMap g) := by
  induction places with
  | nil => exact .nil
  | cons head _ ih =>
    rw [List.zipIdx_cons, List.zipIdx_cons, List.flatMap_cons, List.flatMap_cons]
    exact (h _ _ _ head).append ih

/-- Ledgers with a finding for each place. -/
theorem agreeOn_map {R : Nat → α → β → Prop} (u : Nat → SweepUnit) (f : α → Finding) (g : β → Finding)
    (h : ∀ i a b, R i a b → keep (u i) = true → E (f a) (g b)) {start : Nat} {as : List α}
    {bs : List β} (places : Placewise R start as bs) :
    AgreeOn keep E ((as.zipIdx start).map fun a => (u a.2, f a.1))
      ((bs.zipIdx start).map fun b => (u b.2, g b.1)) := by
  rw [List.map_eq_flatMap, List.map_eq_flatMap]
  exact agreeOn_flatMap (fun i a b related => agreeOn_singleton (h i a b related)) places

end Ledger

/-- Results go with the names of their places. -/
theorem Placewise.zip {R : Nat → α → β → Prop} {start : Nat} {as : List α} {bs : List β}
    (places : Placewise R start as bs) (names : List String) :
    Placewise (fun i x y => x.1 = y.1 ∧ R i x.2 y.2) start (names.zip as) (names.zip bs) := by
  induction places generalizing names with
  | nil => simpa using Placewise.nil
  | cons head _ ih =>
    cases names with
    | nil => exact .nil
    | cons name names => exact .cons ⟨rfl, head⟩ (ih names)

namespace Sweep

open Program (Matches matches_bind matches_done matches_request matches_say matches_sayAll matches_each)

variable {v : Comparison γ} {s : Settings} {d d' : Bool}

/-- Sequences that start with a quiet event each. -/
theorem matches_quiet {S : α → β → Prop} {f : Unit → Program α} {g : Unit → Program β}
    {event event' : Event} (discreet : v.Discreet) (quiet : event.planned? = none)
    (quiet' : event'.planned? = none) (rest : Matches v S (f ()) (g ())) :
    Matches v S ((Program.say event).bind f) ((Program.say event').bind g) :=
  matches_say (discreet.left event quiet) (discreet.right event' quiet') rest

/-- Sequences that start with the same quiet events. -/
theorem matches_quiet_all {S : α → β → Prop} {f : Unit → Program α} {g : Unit → Program β}
    (discreet : v.Discreet) {events : List Event} (quiet : ∀ e ∈ events, e.planned? = none)
    (rest : Matches v S (f ()) (g ())) :
    Matches v S ((Program.sayAll events).bind f) ((Program.sayAll events).bind g) := by
  refine matches_sayAll ?_ rest
  rw [List.filterMap_eq_nil_iff.2 fun e he => discreet.left e (quiet e he),
    List.filterMap_eq_nil_iff.2 fun e he => discreet.right e (quiet e he)]

/-! ## Subnets -/

/-- What becomes of the named ranges of a subnet. -/
def removeRanges (s : Settings) (index : Nat) (target : Subnet) (names : List String) :
    Program SubnetOutcome :=
  if s.dryRun then do
    .say (.wouldRemoveRanges target names)
    return .updated
  else do
    .say (.removingRanges target names)
    match ← Program.request (.subnetUpdate index) (.updateSubnet s.project target names) with
    | .ok () => return .updated
    | .error error =>
      .say (.rangesNotRemoved target s.project error)
      return .skipped

theorem matches_subnet {R : SubnetOutcome → SubnetOutcome → Prop} (discreet : v.Discreet)
    {index : Nat} {target : Subnet}
    (agrees : v.Agrees (.subnetDescription index) (.describeSubnet s.project target))
    (same : ∀ o ∈ [SubnetOutcome.unchanged, .skipped], R o o)
    (removal : ∀ names, Matches v R (removeRanges (s.withDryRun d) index target names)
      (removeRanges (s.withDryRun d') index target names)) :
    Matches v R (subnet (s.withDryRun d) index target) (subnet (s.withDryRun d') index target) := by
  have skipped : Matches v R (Program.done .skipped) (Program.done .skipped) :=
    matches_done (same _ (by simp))
  refine matches_request agrees fun answer => ?_
  rcases answer with error | _ | ⟨range, ranges⟩
  · exact matches_quiet discreet rfl rfl skipped
  · exact matches_quiet discreet rfl rfl (matches_done (same _ (by simp)))
  dsimp only
  rcases SecondaryRange.names (range :: ranges) with nameless | names
  · exact matches_quiet discreet rfl rfl skipped
  · exact removal names

theorem matches_subnets {R : SubnetOutcome → SubnetOutcome → Prop}
    (agrees : v.Agrees .subnetListing (.listSubnets s.project s.filter))
    (one : ∀ index target,
      Matches v R (subnet (s.withDryRun d) index target) (subnet (s.withDryRun d') index target)) :
    Matches v (Alike (Placewise (fun _ => R) 0)) (subnets (s.withDryRun d))
      (subnets (s.withDryRun d')) := by
  refine matches_request agrees fun answer => ?_
  rcases answer with error | records
  · exact matches_done (.error _)
  dsimp only
  rcases SubnetRecord.subnets records with error | targets
  · exact matches_done (.error _)
  · exact matches_bind (matches_each one targets 0) fun _ _ places => matches_done (.ok places)

/-! ## Clusters -/

/-- What becomes of the stale clusters of an endpoint. -/
def removeClusters (s : Settings) (index : Nat) (e : ClusterEndpoint) (targets : List ClusterTarget) :
    Program EndpointOutcome :=
  if s.dryRun then do
    .say (.wouldDeleteClusters e targets.length)
    return .swept 0 0
  else do
    let landings ← Program.deleteAll (max s.workers 1) (clusterTickets s index e targets)
    let failed := landings.countP isFailure
    return .swept (targets.length - failed) failed

theorem matches_endpoint {R : EndpointOutcome → EndpointOutcome → Prop} (discreet : v.Discreet)
    {index : Nat} {e : ClusterEndpoint}
    (agrees : v.Agrees (.clusterListing index) (clusterListCall s e))
    (same : ∀ o ∈ [EndpointOutcome.unreachable, .malformed, .swept 0 0], R o o)
    (removal : ∀ targets, Matches v R (removeClusters (s.withDryRun d) index e targets)
      (removeClusters (s.withDryRun d') index e targets)) :
    Matches v R (endpoint (s.withDryRun d) index e) (endpoint (s.withDryRun d') index e) := by
  unfold endpoint
  refine matches_quiet discreet rfl rfl (matches_request agrees fun answer => ?_)
  rcases answer with error | records
  · exact matches_quiet discreet rfl rfl (matches_done (same _ (by simp)))
  dsimp only [Settings.withDryRun]
  rcases ClusterRecord.stale s.cutoff records with error | _ | ⟨target, targets⟩
  · exact matches_quiet discreet rfl rfl (matches_done (same _ (by simp)))
  · exact matches_done (same _ (by simp))
  refine matches_quiet_all discreet (fun event he => ?_) (removal (target :: targets))
  obtain ⟨_, -, rfl⟩ := List.mem_map.1 he
  rfl

/-! ## Resources -/

section Kind

variable {service index : Nat} {endpoint : Option EndpointOverride} {k : ResourceKind}

theorem matches_select (discreet : v.Discreet)
    (agrees : v.Agrees (.listing service index) (.listResources (listRequest s endpoint k))) :
    Matches v Eq (select s service index endpoint k) (select s service index endpoint k) := by
  refine matches_request agrees fun answer => ?_
  rcases answer with error | items
  · show Matches v Eq (if k.tolerated then _ else _) (if k.tolerated then _ else _)
    split
    · exact matches_quiet discreet rfl rfl (matches_done rfl)
    · exact matches_done rfl
  refine matches_quiet discreet rfl rfl ?_
  refine matches_quiet_all discreet (fun event he => ?_) (matches_done rfl)
  obtain ⟨screening, -, he⟩ := List.mem_flatMap.1 he
  cases screening with
  | spared _ => cases he
  | outside _ | stale _ =>
    rw [List.mem_singleton.1 he]
    rfl

theorem matches_kind {D : DeletionOutcome → DeletionOutcome → Prop} (discreet : v.Discreet)
    (agrees : v.Agrees (.listing service index) (.listResources (listRequest s endpoint k)))
    (nothing : D {} {})
    (deletion : ∀ groups, Matches v D (delete (s.withDryRun d) service index endpoint k groups)
      (delete (s.withDryRun d') service index endpoint k groups)) :
    Matches v (Alike D) (kind (s.withDryRun d) service endpoint index k)
      (kind (s.withDryRun d') service endpoint index k) := by
  show Matches v _ (if k.clearAllOnly && !s.cutoff.isClearAll then _ else _)
    (if k.clearAllOnly && !s.cutoff.isClearAll then _ else _)
  split
  · exact matches_quiet discreet rfl rfl (matches_done (.ok nothing))
  refine matches_bind (matches_select discreet agrees) ?_
  rintro selection _ rfl
  rcases selection with error | _ | ⟨g, groups⟩
  · exact matches_done (.error error)
  · exact matches_quiet discreet rfl rfl (matches_done (.ok nothing))
  · exact matches_bind (deletion (g :: groups)) fun _ _ related => matches_done (.ok related)

theorem matches_reportedKind {D : DeletionOutcome → DeletionOutcome → Prop} (discreet : v.Discreet)
    (h : Matches v (Alike D) (kind (s.withDryRun d) service endpoint index k)
      (kind (s.withDryRun d') service endpoint index k)) :
    Matches v (fun x y => x.1 = y.1 ∧ Alike D x.2 y.2)
      (reportedKind (s.withDryRun d) service endpoint index k)
      (reportedKind (s.withDryRun d') service endpoint index k) := by
  refine matches_bind h fun outcome outcome' related => ?_
  cases related with
  | ok related => exact matches_done ⟨rfl, .ok related⟩
  | error error =>
    exact matches_quiet discreet rfl rfl (matches_done ⟨rfl, .error error⟩)

end Kind

variable {keep : SweepUnit → Bool} {E : Finding → Finding → Prop}

theorem matches_service (discreet : v.Discreet) {index : Nat} {target : Service}
    (agrees : v.Agrees (.apiCheck index) (.checkApi s.project target.api))
    (same : ∀ api, E (.disabled api) (.disabled api) ∧ E (.unknown api) (.unknown api))
    (kinds : ∀ i k, Matches v
      (fun x y => keep (.kind index i) = true → E (.kind x.1 x.2) (.kind y.1 y.2))
      (reportedKind (s.withDryRun d) index target.endpoint i k)
      (reportedKind (s.withDryRun d') index target.endpoint i k)) :
    Matches v
      (fun o o' => ∀ api,
        Ledger.AgreeOn keep E (serviceFindings index api o) (serviceFindings index api o'))
      (service (s.withDryRun d) index target) (service (s.withDryRun d') index target) := by
  refine matches_request agrees fun answer => ?_
  rcases answer with error | _ | _
  · refine matches_quiet discreet rfl rfl (matches_done fun api => ?_)
    exact Ledger.agreeOn_singleton fun _ => (same api).2
  · refine matches_quiet discreet rfl rfl (matches_done fun api => ?_)
    exact Ledger.agreeOn_singleton fun _ => (same api).1
  · refine matches_bind (matches_each kinds target.kinds 0) fun _ _ places => matches_done fun api => ?_
    let finding (k : ResourceKind × KindOutcome) : Finding := .kind k.1 k.2
    exact Ledger.agreeOn_map (.kind index) finding finding (fun _ _ _ related => related) places

/-! ## Projects -/

/-- Sweeps match when their units do, one by one. -/
theorem matches_ledger (discreet : v.Discreet) (endpoints : List ClusterEndpoint) (catalog : Catalog)
    (ofSubnets : Matches v (fun o o' => keep .subnets = true → E (.subnets o) (.subnets o'))
      (subnets (s.withDryRun d)) (subnets (s.withDryRun d')))
    (ofEndpoint : ∀ i e, Matches v
      (fun o o' => keep (.endpoint i) = true → ∀ name, E (.endpoint name o) (.endpoint name o'))
      (endpoint (s.withDryRun d) i e) (endpoint (s.withDryRun d') i e))
    (ofService : ∀ i target, Matches v
      (fun o o' => ∀ api, Ledger.AgreeOn keep E (serviceFindings i api o) (serviceFindings i api o'))
      (service (s.withDryRun d) i target) (service (s.withDryRun d') i target)) :
    Matches v (Ledger.AgreeOn keep E) (ledger (s.withDryRun d) endpoints catalog)
      (ledger (s.withDryRun d') endpoints catalog) := by
  refine matches_quiet discreet rfl rfl ?_
  refine matches_bind ofSubnets fun subnetOutcomes subnetOutcomes' ofSubnets => ?_
  refine matches_quiet discreet ?_ ?_ ?_
  · cases subnetOutcomes <;> rfl
  · cases subnetOutcomes' <;> rfl
  refine matches_bind (matches_each ofEndpoint endpoints 0) fun _ _ ofEndpoints => ?_
  refine matches_bind (matches_each ofService catalog.services 0) fun _ _ ofServices => ?_
  refine matches_done (.append (Ledger.agreeOn_singleton ofSubnets) (.append ?_ ?_))
  · refine Ledger.agreeOn_map .endpoint (fun o => .endpoint o.1 o.2) (fun o => .endpoint o.1 o.2) ?_
      (ofEndpoints.zip _)
    rintro i ⟨name, _⟩ ⟨_, _⟩ ⟨rfl, related⟩ kept
    exact related kept name
  · refine Ledger.agreeOn_flatMap ?_ (ofServices.zip _)
    rintro i ⟨api, _⟩ ⟨_, _⟩ ⟨rfl, related⟩
    exact related api

end Sweep
end CloudSweep
