/-
The exit status. A run ends with zero exactly when nothing happened in it that counts as a failure.
Whether a part of a sweep is sound can be told from the cloud alone; the moves of the part and its
outcome both agree with that, so that neither can hide a failure of the other, and taking back the
failures that do not count changes nothing.
-/
import CloudSweep.Proofs.Report
import CloudSweep.Proofs.Sweep.Deletion
import CloudSweep.Proofs.Sweep.Failures

namespace CloudSweep.Sweep

variable {cloud : Cloud} {s : Settings} {moves : List Move}

/-! ## Parts that are sound -/

/-- Nothing about the endpoint counts as a failure in this cloud. -/
def EndpointSound (cloud : Cloud) (s : Settings) (index : Nat) (e : ClusterEndpoint) : Prop :=
  match cloud.answer (.clusterListing index) (clusterListCall s e) with
  | .error _ => True
  | .ok records =>
    match ClusterRecord.stale s.cutoff records with
    | .error _ => False
    | .ok targets => s.dryRun = false →
      ∀ ticket ∈ clusterTickets s index e targets, (cloud.land ticket).result.isOk = true

section Kind

variable (cloud : Cloud) (s : Settings) (service index : Nat) (endpoint : Option EndpointOverride)
  (k : ResourceKind)

/-- The groups can be deleted in this cloud without a failure that counts. -/
def DeletionSound (groups : Groups) : Prop :=
  s.dryRun = false → k.tolerated = false →
    ∀ p ∈ requestResults cloud service index (k.plan groups s.project s.batchSize endpoint),
      p.2.isOk = true

/-- The items could be grouped, and the groups can be deleted. -/
def SelectionSound : Except SelectionError Groups → Prop
  | .error _ => False
  | .ok groups => DeletionSound cloud s service index endpoint k groups

/-- Nothing about the kind counts as a failure in this cloud. -/
def KindSound : Prop :=
  (k.clearAllOnly = true → s.cutoff.isClearAll = true) →
    match cloud.answer (.listing service index) (.listResources (listRequest s endpoint k)) with
    | .error _ => k.tolerated = true
    | .ok items => SelectionSound cloud s service index endpoint k (k.groups? s.cutoff items)

end Kind

/-- Nothing about the service counts as a failure in this cloud. -/
def ServiceSound (cloud : Cloud) (s : Settings) (index : Nat) (target : Service) : Prop :=
  match cloud.answer (.apiCheck index) (.checkApi s.project target.api) with
  | .error _ => False
  | .ok false => True
  | .ok true => ∀ k ∈ target.kinds.zipIdx, KindSound cloud s index k.2 target.endpoint k.1

/-- Nothing about the project counts as a failure in this cloud. -/
def ProjectSound (cloud : Cloud) (s : Settings) (endpoints : List ClusterEndpoint)
    (catalog : Catalog) : Prop :=
  (∀ e ∈ endpoints.zipIdx, EndpointSound cloud s e.2 e.1) ∧
    ∀ a ∈ catalog.services.zipIdx, ServiceSound cloud s a.2 a.1

/-! ## Clusters -/

section Endpoint

variable {index : Nat} {e : ClusterEndpoint} {outcome : EndpointOutcome}

theorem isOk_land_iff_not_fatal {targets : List ClusterTarget} {ticket : Ticket}
    (h : ticket ∈ clusterTickets s index e targets) :
    ¬ (Move.landed (cloud.land ticket)).Fatal s ↔ (cloud.land ticket).result.isOk = true := by
  obtain ⟨i, target, -, rfl⟩ := mem_clusterTickets.1 h
  rw [Cloud.land, fatal_cluster, Bool.not_eq_false]

theorem EndpointRun.quiet_iff (run : EndpointRun cloud s index e moves outcome) :
    Quiet s moves ↔ EndpointSound cloud s index e := by
  unfold EndpointSound
  cases run with
  | unreachable listing => simp [listing]
  | malformed listing selection => simp [listing, selection]
  | spared listing selection => simp [listing, selection, clusterTickets]
  | dry listing selection dry => simp [listing, selection, dry]
  | live listing selection live pool =>
    have deletions := pool.forall_iff (P := fun m => ¬ m.Fatal s) not_fatal_started
    simp only [listing, selection, live, quiet_cons, quiet_append, quiet_notes, not_fatal_noted,
      fatal_clusterListing, reduceCtorEq, exists_false, not_false_eq_true, true_and, forall_const]
    rw [Quiet, deletions]
    exact forall₂_congr fun ticket ht => isOk_land_iff_not_fatal ht

theorem EndpointRun.isFine_iff (run : EndpointRun cloud s index e moves outcome) :
    outcome.IsFine ↔ EndpointSound cloud s index e := by
  unfold EndpointSound
  cases run with
  | unreachable listing => simp [listing, EndpointOutcome.IsFine]
  | malformed listing selection => simp [listing, selection, EndpointOutcome.IsFine]
  | spared listing selection =>
    simp [listing, selection, EndpointOutcome.IsFine, clusterTickets]
  | dry listing selection dry => simp [listing, selection, dry, EndpointOutcome.IsFine]
  | @live records targets deletions landed listing selection live pool =>
    -- The count of failures is the same for the landings in the order of the tickets.
    have failed : landed.countP isFailure =
        ((clusterTickets s index e targets).map cloud.land).countP isFailure :=
      pool.finished.2.2.countP_eq _
    simp only [listing, selection, live, EndpointOutcome.IsFine, forall_const]
    rw [failed, List.countP_eq_zero, List.forall_mem_map]
    exact forall₂_congr fun ticket _ => by simp [isFailure]

end Endpoint

/-! ## Kinds -/

section Kind

variable {service index : Nat} {endpoint : Option EndpointOverride} {k : ResourceKind}

/-- The deletions of a kind count unless the kind is tolerated, and a dry run has none. -/
theorem DeleteRun.quiet_iff {groups : Groups} {outcome : DeletionOutcome}
    (run : DeleteRun cloud s service index endpoint k groups moves outcome) :
    Quiet s moves ↔ DeletionSound cloud s service index endpoint k groups := by
  unfold DeletionSound
  cases run with
  | nothing empty => simp [empty, requestResults]
  | dry _ _ dry => simp [dry]
  | @live requests deletions landed planned _ live pool =>
    have ofKind : ∀ request ∈ requests, request.kind = k := by
      intro request hr
      obtain ⟨_, _, _, _, rfl⟩ := ResourceKind.mem_plan_iff.1 (planned.symm ▸ hr)
      rfl
    have perTicket := pool.forall_iff (P := fun m => ¬ m.Fatal s) not_fatal_started
    rw [quiet_cons, Quiet, perTicket, planned]
    simp only [not_fatal_noted, not_false_eq_true, true_and, live, forall_const]
    constructor
    · intro h counts p hp
      obtain ⟨ticket, ht, hp⟩ := mem_requestResults.1 hp
      have landing := h ticket ht
      obtain ⟨r, request, hr, rfl⟩ := mem_requestTickets.1 ht
      cases hp
      rw [Cloud.land, fatal_deletion, ofKind request (List.mem_of_getElem? hr)] at landing
      simp only [counts, true_and, Bool.not_eq_false] at landing
      exact landing
    · intro h ticket ht
      obtain ⟨r, request, hr, rfl⟩ := mem_requestTickets.1 ht
      rw [Cloud.land, fatal_deletion, ofKind request (List.mem_of_getElem? hr)]
      rintro ⟨counts, failed⟩
      have deleted := h counts _ (mem_requestResults.2 ⟨_, ht, rfl⟩)
      exact Bool.false_ne_true (failed.symm.trans deleted)

theorem DeleteRun.isFailed_iff {groups : Groups} {outcome : DeletionOutcome}
    (run : DeleteRun cloud s service index endpoint k groups moves outcome) :
    outcome.isFailed = false ↔ DeletionSound cloud s service index endpoint k groups := by
  unfold DeletionSound
  cases live : s.dryRun with
  | false =>
    have tallies := DeleteRun.tallies live run
    rw [← Bool.not_eq_true, tallies.failed]
    simp
  | true =>
    cases run with
    | nothing => simp [DeletionOutcome.isFailed]
    | dry => simp [DeletionOutcome.isFailed, DeletionOutcome.planned]
    | live _ _ live' => exact absurd (live'.symm.trans live) Bool.false_ne_true

theorem SelectRun.quiet_iff {result : Except SelectionError Groups}
    (run : SelectRun cloud s service index endpoint k moves result) :
    Quiet s moves ↔ result.isOk = true := by
  cases run with
  | unlisted _ counts => simp [listRequest, counts]
  | excused _ tolerated => simp [listRequest, tolerated]
  | listed _ grouped =>
    simp only [quiet_cons, fatal_listing, quiet_notes, listRequest, and_true]
    rw [grouped]
    cases result <;> simp

/-- Whether a kind is sound is told by what is selected of it. -/
theorem SelectRun.kindSound_iff {result : Except SelectionError Groups}
    (run : SelectRun cloud s service index endpoint k moves result)
    (swept : k.clearAllOnly = true → s.cutoff.isClearAll = true) :
    KindSound cloud s service index endpoint k ↔
      SelectionSound cloud s service index endpoint k result := by
  unfold KindSound
  rw [imp_iff_right swept]
  cases run with
  | unlisted listing counts => simp [listing, counts, SelectionSound]
  | excused listing tolerated => simp [listing, tolerated, SelectionSound, DeletionSound]
  | listed listing grouped => rw [listing, ← grouped]

theorem deletionSound_nil : DeletionSound cloud s service index endpoint k [] :=
  fun _ _ _ h => nomatch h

theorem KindRun.quiet_iff {outcome : KindOutcome}
    (run : KindRun cloud s service index endpoint k moves outcome) :
    Quiet s moves ↔ KindSound cloud s service index endpoint k := by
  cases run with
  | passedOver only aged => simp [KindSound, only, aged]
  | failed swept selection =>
    rw [selection.quiet_iff, selection.kindSound_iff swept]
    simp [SelectionSound]
  | spared swept selection =>
    rw [quiet_append, selection.quiet_iff, selection.kindSound_iff swept]
    simp [SelectionSound, deletionSound_nil]
  | selected swept selection _ deletion =>
    rw [quiet_append, selection.quiet_iff, selection.kindSound_iff swept, deletion.quiet_iff]
    simp [SelectionSound]

theorem KindRun.isFine_iff {outcome : KindOutcome}
    (run : KindRun cloud s service index endpoint k moves outcome) :
    outcome.IsFine ↔ KindSound cloud s service index endpoint k := by
  cases run with
  | passedOver only aged =>
    simp [KindSound, only, aged, KindOutcome.IsFine, DeletionOutcome.isFailed]
  | failed swept selection =>
    rw [selection.kindSound_iff swept]
    exact .rfl
  | spared swept selection =>
    rw [selection.kindSound_iff swept]
    exact iff_of_true rfl deletionSound_nil
  | selected swept selection _ deletion =>
    rw [selection.kindSound_iff swept]
    exact deletion.isFailed_iff

end Kind

/-! ## Services -/

section Service

variable {index : Nat} {target : Service} {outcome : ServiceOutcome}

theorem ServiceRun.quiet_iff (run : ServiceRun cloud s index target moves outcome) :
    Quiet s moves ↔ ServiceSound cloud s index target := by
  unfold ServiceSound
  cases run with
  | unknown check => simp [check]
  | disabled check => simp [check]
  | swept check kinds =>
    have perKind := Program.forall_moves_iff (P := fun m => ¬ m.Fatal s)
      (Q := fun j k => KindSound cloud s index j target.endpoint k) kinds
      fun j k part result run => by
        obtain ⟨part, result, rfl, rfl, kindRun⟩ := reportedKindRun run
        rw [← kindRun.quiet_iff]
        exact quiet_append.trans (and_iff_left (quiet_notes _))
    rw [quiet_cons, Quiet, perKind]
    simp [check]

theorem ServiceRun.isFine_iff (run : ServiceRun cloud s index target moves outcome) :
    outcome.IsFine ↔ ServiceSound cloud s index target := by
  unfold ServiceSound
  cases run with
  | unknown check => simp [check, ServiceOutcome.IsFine]
  | disabled check => simp [check, ServiceOutcome.IsFine]
  | swept check kinds =>
    simp only [check, ServiceOutcome.IsFine]
    refine Program.forall_results_iff (P := fun k => KindOutcome.IsFine k.2)
      (Q := fun j k => KindSound cloud s index j target.endpoint k) kinds
      fun j k part result run => ?_
    obtain ⟨part, result, rfl, rfl, kindRun⟩ := reportedKindRun run
    exact kindRun.isFine_iff

end Service

/-! ## Projects -/

section Project

variable {endpoints : List ClusterEndpoint} {catalog : Catalog} {report : Report}

/-- Nothing that goes wrong with the subnets counts. -/
theorem quiet_subnets {outcome : Except SelectionError (List SubnetOutcome)}
    (run : (subnets s).Runs cloud moves outcome) : Quiet s moves := by
  intro m hm
  have bounds := run.within within_subnets m hm
  cases m with
  | noted event => exact not_fatal_noted event
  | asked site call answer =>
    -- A failure that counts is never that of a call on subnets.
    intro fatal
    cases fatal <;> exact bounds
  | started ticket => exact not_fatal_started ticket
  | landed landing =>
    obtain ⟨_, _, none, -⟩ := bounds
    exact none.elim

theorem ProjectRun.quiet_iff (run : ProjectRun cloud s endpoints catalog moves report) :
    Quiet s moves ↔ ProjectSound cloud s endpoints catalog := by
  cases run with
  | parts subnetSweep endpointSweep serviceSweep =>
    have perEndpoint := Program.forall_moves_iff (P := fun m => ¬ m.Fatal s)
      (Q := EndpointSound cloud s) endpointSweep fun _ _ _ _ run => (endpointRun run).quiet_iff
    have perService := Program.forall_moves_iff (P := fun m => ¬ m.Fatal s)
      (Q := ServiceSound cloud s) serviceSweep fun _ _ _ _ run => (serviceRun run).quiet_iff
    simp only [quiet_cons, quiet_append, not_fatal_noted, not_false_eq_true, true_and,
      quiet_subnets subnetSweep]
    exact and_congr perEndpoint perService

theorem forall_mem_zip {α β : Type} {P : β → Prop} {as : List α} {bs : List β}
    (h : bs.length = as.length) : (∀ p ∈ as.zip bs, P p.2) ↔ ∀ b ∈ bs, P b := by
  conv_rhs => rw [← List.map_snd_zip (Nat.le_of_eq h)]
  exact List.forall_mem_map.symm

theorem ProjectRun.isSuccess_iff (run : ProjectRun cloud s endpoints catalog moves report) :
    report.isSuccess = true ↔ ProjectSound cloud s endpoints catalog := by
  cases run with
  | @parts _ _ _ _ endpointOutcomes serviceOutcomes _ endpointSweep serviceSweep =>
    have perEndpoint := Program.forall_results_iff (P := EndpointOutcome.IsFine)
      (Q := EndpointSound cloud s) endpointSweep fun _ _ _ _ run => (endpointRun run).isFine_iff
    have perService := Program.forall_results_iff (P := ServiceOutcome.IsFine)
      (Q := ServiceSound cloud s) serviceSweep fun _ _ _ _ run => (serviceRun run).isFine_iff
    have endpointCount : endpointOutcomes.length = (endpoints.map (·.name)).length := by
      rw [List.length_map, Program.length_of_runs_each endpointSweep]
    have serviceCount : serviceOutcomes.length = (catalog.services.map (·.api)).length := by
      rw [List.length_map, Program.length_of_runs_each serviceSweep]
    rw [Report.isSuccess_recordServices, Report.isSuccess_iff, forall_mem_zip serviceCount,
      ClusterReport.isFailed_ofOutcomes, forall_mem_zip endpointCount, perEndpoint, perService]
    simp [ProjectSound]

end Project

/-! ## Failures that do not count -/

section Forgiving

variable {service index : Nat} {endpoint : Option EndpointOverride} {k : ResourceKind}

theorem land_forgiving {e : ClusterEndpoint} {targets : List ClusterTarget} {ticket : Ticket}
    (h : ticket ∈ clusterTickets s index e targets) :
    cloud.forgiving.land ticket = cloud.land ticket := by
  obtain ⟨i, target, -, rfl⟩ := mem_clusterTickets.1 h
  rw [Cloud.land, Cloud.land, Cloud.answer_forgiving]
  dsimp only
  rcases cloud.answer (.cluster index i) (.delete (.cluster e.override s.project target)) with
    error | ⟨⟩ <;> rfl

theorem endpointSound_forgiving {e : ClusterEndpoint} :
    EndpointSound cloud.forgiving s index e ↔ EndpointSound cloud s index e := by
  unfold EndpointSound
  rcases h : cloud.answer (.clusterListing index) (clusterListCall s e) with error | records
  · have answer : cloud.forgiving.answer (.clusterListing index) (clusterListCall s e) = .ok [] := by
      rw [Cloud.answer_forgiving, h]
      rfl
    rw [answer]
    simp [ClusterRecord.stale, clusterTickets, pure, Except.pure]
  · have answer : cloud.forgiving.answer (.clusterListing index) (clusterListCall s e) =
        .ok records := by
      rw [Cloud.answer_forgiving, h]
      rfl
    rw [answer]
    cases hs : ClusterRecord.stale s.cutoff records with
    | error error => simp only [hs]
    | ok targets =>
      simp only [hs]
      refine imp_congr_right fun _ => forall₂_congr fun ticket ht => ?_
      rw [land_forgiving ht]

theorem requestResults_forgiving {requests : List DeleteRequest}
    (h : ∀ request ∈ requests, request.kind.tolerated = false) :
    requestResults cloud.forgiving service index requests =
      requestResults cloud service index requests := by
  refine List.mapIdx_eq_mapIdx_iff.2 fun r hr => ?_
  have counts := h _ (List.getElem_mem hr)
  rw [Cloud.answer_forgiving]
  rcases cloud.answer (.deletion service index r) (.delete (.resources requests[r])) with error | ⟨⟩
  · simp [Call.forgive, counts]
  · rfl

theorem deletionSound_forgiving {groups : Groups} :
    DeletionSound cloud.forgiving s service index endpoint k groups ↔
      DeletionSound cloud s service index endpoint k groups := by
  refine imp_congr_right fun _ => imp_congr_right fun counts => ?_
  rw [requestResults_forgiving]
  intro request hr
  obtain ⟨_, _, _, _, rfl⟩ := ResourceKind.mem_plan_iff.1 hr
  exact counts

theorem selectionSound_forgiving {result : Except SelectionError Groups} :
    SelectionSound cloud.forgiving s service index endpoint k result ↔
      SelectionSound cloud s service index endpoint k result := by
  cases result with
  | error error => exact .rfl
  | ok groups => exact deletionSound_forgiving

theorem kindSound_forgiving :
    KindSound cloud.forgiving s service index endpoint k ↔
      KindSound cloud s service index endpoint k := by
  refine imp_congr_right fun _ => ?_
  rcases h : cloud.answer (.listing service index) (.listResources (listRequest s endpoint k)) with
    error | items
  · by_cases tolerated : k.tolerated = true
    · have answer : cloud.forgiving.answer (.listing service index)
          (.listResources (listRequest s endpoint k)) = .ok [] := by
        rw [Cloud.answer_forgiving, h]
        exact if_pos tolerated
      rw [answer]
      exact iff_of_true deletionSound_nil tolerated
    · have answer : cloud.forgiving.answer (.listing service index)
          (.listResources (listRequest s endpoint k)) = .error error := by
        rw [Cloud.answer_forgiving, h]
        exact if_neg tolerated
      rw [answer]
  · have answer : cloud.forgiving.answer (.listing service index)
        (.listResources (listRequest s endpoint k)) = .ok items := by
      rw [Cloud.answer_forgiving, h]
      rfl
    rw [answer]
    exact selectionSound_forgiving

theorem serviceSound_forgiving {target : Service} :
    ServiceSound cloud.forgiving s index target ↔ ServiceSound cloud s index target := by
  unfold ServiceSound
  have answer : cloud.forgiving.answer (.apiCheck index) (.checkApi s.project target.api) =
      cloud.answer (.apiCheck index) (.checkApi s.project target.api) := by
    rw [Cloud.answer_forgiving]
    rcases cloud.answer (.apiCheck index) (.checkApi s.project target.api) with error | _ <;> rfl
  rw [answer]
  rcases cloud.answer (.apiCheck index) (.checkApi s.project target.api) with error | _ | _
  · exact .rfl
  · exact .rfl
  · exact forall₂_congr fun k _ => kindSound_forgiving

theorem projectSound_forgiving {endpoints : List ClusterEndpoint} {catalog : Catalog} :
    ProjectSound cloud.forgiving s endpoints catalog ↔ ProjectSound cloud s endpoints catalog :=
  and_congr (forall₂_congr fun _ _ => endpointSound_forgiving)
    (forall₂_congr fun _ _ => serviceSound_forgiving)

end Forgiving

/-! ## The exit status -/

/-- A run ends with zero exactly when nothing that counts as a failure happened in it. What goes
wrong with subnets, endpoints that cannot be reached, and failures to list or to delete what is
tolerated have no influence: a run against the cloud without them, under whatever schedule, ends in
the same way. -/
theorem exitCode_eq_zero_iff {endpoints : List ClusterEndpoint} {catalog : Catalog} {report : Report}
    (run : (project s endpoints catalog).Runs cloud moves report) :
    (report.exitCode = 0 ↔ ∀ m ∈ moves, ¬ m.Fatal s) ∧
      ∀ moves' report', (project s endpoints catalog).Runs cloud.forgiving moves' report' →
        report'.exitCode = report.exitCode := by
  -- Moves and report are compared through the cloud, on which both depend in the same way.
  have sound := (projectRun run).isSuccess_iff
  refine ⟨?_, fun moves' report' run' => ?_⟩
  · rw [Report.exitCode_eq_zero, sound]
    exact (projectRun run).quiet_iff.symm
  · have same : report'.isSuccess = report.isSuccess := by
      rw [Bool.eq_iff_iff, (projectRun run').isSuccess_iff, sound, projectSound_forgiving]
    rw [Report.exitCode, Report.exitCode, same]

/-- Settings that take everything. -/
def brokenSettings : Settings := { project := "p", cutoff := .clearAll }

/-- A sweep of all endpoints and of one tolerated kind. -/
def brokenSweep : Program Report :=
  project brokenSettings ClusterEndpoint.builtIn
    ⟨[{ api := "compute", kinds := [{ ResourceKind.of "compute" "disks" with tolerated := true }] }]⟩

/-- A cloud in which nothing can be listed. -/
def brokenCloud : InMemory where
  subnetListingFails := true
  unreachable := ClusterEndpoint.builtIn.map (·.url)
  listFailures := ["compute disks"]

theorem exitCode_eq_zero_iff_broken :
    brokenSweep.Runs brokenCloud.cloud (brokenSweep.moves brokenCloud.cloud)
        (brokenSweep.result brokenCloud.cloud) ∧
      (brokenSweep.result brokenCloud.cloud).exitCode = 0 ∧
      ∀ m ∈ brokenSweep.moves brokenCloud.cloud, ¬ m.Fatal brokenSettings := by
  have run : brokenSweep.Runs brokenCloud.cloud (brokenSweep.moves brokenCloud.cloud)
      (brokenSweep.result brokenCloud.cloud) := runs_project _ _ _
  have zero : (brokenSweep.result brokenCloud.cloud).exitCode = 0 := by decide +kernel
  exact ⟨run, zero, (exitCode_eq_zero_iff run).1.1 zero⟩

end CloudSweep.Sweep
