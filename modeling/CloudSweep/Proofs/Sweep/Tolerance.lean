/-
Tolerance. Whether a kind is tolerated decides how its failures are reported, and nothing else. In a
cloud that answers without regard to it, two sweeps of catalogs that are the same once nothing is
tolerated make the same calls in the same order, and their reports differ at most in how failures are
told apart; and the more is tolerated, the fewer kinds fail.
-/
import CloudSweep.Gcloud.Answer
import CloudSweep.Proofs.Sweep.Settled

namespace CloudSweep

/-! ## Without tolerance -/

/-- The kind, not tolerated. -/
def ResourceKind.strict (k : ResourceKind) : ResourceKind := { k with tolerated := false }

/-- The service with none of its kinds tolerated. -/
def Service.strict (target : Service) : Service :=
  { target with kinds := target.kinds.map (·.strict) }

/-- The catalog with no kind tolerated. -/
def Catalog.strict (c : Catalog) : Catalog := { services := c.services.map (·.strict) }

/-- Whether the kind in a place of a catalog is there and tolerated. -/
def Catalog.tolerates (c : Catalog) (i j : Nat) : Bool :=
  ((c.services[i]?).bind (·.kinds[j]?)).any (·.tolerated)

/-- The request for the kind that is not tolerated. -/
def ListRequest.strict (r : ListRequest) : ListRequest := { r with kind := r.kind.strict }

/-- The request for the kind that is not tolerated. -/
def DeleteRequest.strict (r : DeleteRequest) : DeleteRequest := { r with kind := r.kind.strict }

/-- The deletion with the kind that is not tolerated. -/
def Deletion.strict : Deletion → Deletion
  | .resources request => .resources request.strict
  | .cluster endpoint project target => .cluster endpoint project target

/-- The call with the kind that is not tolerated. -/
def Call.strict : Call → Call
  | .listResources request => .listResources request.strict
  | .delete deletion => .delete deletion.strict
  | call => call

/-- The ticket with the kind that is not tolerated. -/
def Ticket.strict (t : Ticket) : Ticket := { t with deletion := t.deletion.strict }

/-- The result with the kind that is not tolerated. -/
def RequestResult.strict (q : RequestResult) : RequestResult := (q.1.strict, q.2)

/-- The kind in its place, not tolerated. -/
def Sweep.KindPlace.strict (p : KindPlace) : KindPlace := { p with kind := p.kind.strict }

/-- The calls with their kinds not tolerated. -/
def strictCalls (calls : List (Site × Call)) : List (Site × Call) :=
  calls.map fun c => (c.1, c.2.strict)

/-- The cloud answers without regard to whether a kind is tolerated. -/
structure Cloud.Impartial (cloud : Cloud) : Prop where
  listing : ∀ site request,
    cloud.answer site (.listResources request) = cloud.answer site (.listResources request.strict)
  deletion : ∀ site request,
    cloud.answer site (.delete (.resources request)) =
      cloud.answer site (.delete (.resources request.strict))

theorem Cloud.Impartial.obliging {cloud : Cloud} (impartial : cloud.Impartial) :
    cloud.obliging.Impartial :=
  ⟨impartial.listing, fun _ _ => rfl⟩

/-- A deletion ends in the same way, whether its kind is tolerated or not. -/
theorem Cloud.Impartial.land_strict {cloud : Cloud} (impartial : cloud.Impartial) (ticket : Ticket) :
    (cloud.land ticket.strict).result = (cloud.land ticket).result := by
  obtain ⟨site, request | ⟨endpoint, project, target⟩⟩ := ticket
  · exact (impartial.deletion site request).symm
  · rfl

/-- Calls carried out by the same words are answered alike, if their outputs are read alike. -/
theorem Gcloud.Config.answer_listResources_congr (c : Config) {a b : ListRequest}
    (words : listArguments a = listArguments b) (result : ToolResult) :
    c.answer (.listResources a) result = c.answer (.listResources b) result := by
  have line : c.commandLine (.listResources a) = c.commandLine (.listResources b) :=
    congrArg (fun words => " ".intercalate (c.program :: words)) words
  cases result with
  | notStarted reason => rfl
  | timedOut => simp only [answer, line]
  | exited status output complaint => simp only [answer, line, read]

/-- Deletions carried out by the same words are answered alike. -/
theorem Gcloud.Config.answer_delete_congr (c : Config) {a b : DeleteRequest}
    (words : deleteArguments a = deleteArguments b) (result : ToolResult) :
    c.answer (.delete (.resources a)) result = c.answer (.delete (.resources b)) result := by
  have line : c.commandLine (.delete (.resources a)) = c.commandLine (.delete (.resources b)) :=
    congrArg (fun words => " ".intercalate (c.program :: words)) words
  cases result with
  | notStarted reason => rfl
  | timedOut => simp only [answer, line]
  | exited status output complaint => simp only [answer, line, read]

/-- Through the tool every cloud is impartial: its commands say nothing about tolerance. -/
theorem Gcloud.Config.impartial_cloud (c : Config) (tool : Site → Invocation → ToolResult) :
    (c.cloud tool).Impartial where
  listing site request := c.answer_listResources_congr (a := request) (b := request.strict) rfl
    (tool site (c.invocation (.listResources request)))
  deletion site request := c.answer_delete_congr (a := request) (b := request.strict) rfl
    (tool site (c.invocation (.delete (.resources request))))

/-- A cloud in memory is impartial: its tables go by the titles of kinds. -/
theorem InMemory.impartial_cloud (m : InMemory) : m.cloud.Impartial where
  listing _ _ := rfl
  deletion _ _ := rfl

/-- The requests of a plan are for the same names, whether the kind is tolerated or not. -/
theorem ResourceKind.plan_strict (k : ResourceKind) (groups : Groups) (project : String)
    (batchSize : Nat) (endpoint : Option EndpointOverride) :
    k.strict.plan groups project batchSize endpoint =
      (k.plan groups project batchSize endpoint).map (·.strict) := by
  rw [plan, plan, List.map_flatMap]
  refine List.flatMap_congr fun g _ => ?_
  rw [planGroup, planGroup, List.map_map]
  rfl

namespace Sweep

variable {cloud : Cloud} {s : Settings} {endpoints : List ClusterEndpoint} {catalog : Catalog}
  {moves : List Move} {report : Report}

/-! ## Kinds -/

section Kind

variable {service index : Nat} {endpoint : Option EndpointOverride} {k : ResourceKind}

/-- The kind is listed to the same effect, whether it is tolerated or not. -/
theorem listing_strict (impartial : cloud.Impartial) :
    cloud.answer (.listing service index) (.listResources (listRequest s endpoint k.strict)) =
      cloud.answer (.listing service index) (.listResources (listRequest s endpoint k)) :=
  (impartial.listing _ (listRequest s endpoint k)).symm

theorem listing_congr (impartial : cloud.Impartial) {k' : ResourceKind}
    (same : k.strict = k'.strict) :
    cloud.answer (.listing service index) (.listResources (listRequest s endpoint k)) =
      cloud.answer (.listing service index) (.listResources (listRequest s endpoint k')) := by
  rw [← listing_strict impartial, ← listing_strict (k := k') impartial, same]

theorem requestTickets_strict (requests : List DeleteRequest) :
    requestTickets service index (requests.map (·.strict)) =
      (requestTickets service index requests).map (·.strict) := by
  rw [requestTickets, requestTickets, List.mapIdx_eq_zipIdx_map, List.mapIdx_eq_zipIdx_map,
    List.zipIdx_map, List.map_map, List.map_map]
  rfl

/-- The same is to be deleted of the kind, whether it is tolerated or not. -/
theorem kindTickets_strict (impartial : cloud.Impartial) :
    kindTickets cloud s service index endpoint k.strict =
      (kindTickets cloud s service index endpoint k).map (·.strict) := by
  have selected (result : Except SelectionError Groups) :
      selectionTickets s service index endpoint k.strict result =
        (selectionTickets s service index endpoint k result).map (·.strict) := by
    cases result with
    | error error => rfl
    | ok groups =>
      rw [selectionTickets, selectionTickets, ResourceKind.plan_strict, requestTickets_strict]
  by_cases passedOver : (k.clearAllOnly && !s.cutoff.isClearAll) = true
  · rw [kindTickets, kindTickets, if_pos passedOver, if_pos]
    · rfl
    · exact passedOver
  · have swept := not_passedOver_iff.1 passedOver
    rw [kindTickets_of_swept swept, kindTickets_of_swept (k := k.strict) swept,
      listing_strict impartial]
    rcases cloud.answer (.listing service index) (.listResources (listRequest s endpoint k)) with
      error | items
    · rfl
    · exact selected (k.groups? s.cutoff items)

theorem carriedOut_map_strict (tickets : List Ticket) :
    carriedOut s (tickets.map (·.strict)) = (carriedOut s tickets).map (·.strict) := by
  unfold carriedOut
  split <;> rfl

/-- The calls on the kind are the same, whether it is tolerated or not. -/
theorem kindCalls_strict (impartial : cloud.Impartial) :
    kindCalls cloud s service index endpoint k.strict =
      strictCalls (kindCalls cloud s service index endpoint k) := by
  by_cases passedOver : (k.clearAllOnly && !s.cutoff.isClearAll) = true
  · rw [kindCalls, kindCalls, if_pos passedOver, if_pos]
    · rfl
    · exact passedOver
  · rw [kindCalls, kindCalls, if_neg passedOver, if_neg, kindTickets_strict impartial,
      deletionCalls, carriedOut_map_strict, List.map_map, strictCalls, List.map_cons, deletionCalls,
      List.map_map]
    · rfl
    · exact passedOver

/-- The results for the kind are the same, whether it is tolerated or not. -/
theorem kindResults_strict (impartial : cloud.Impartial) :
    kindResults cloud s service index endpoint k.strict =
      (kindResults cloud s service index endpoint k).map (·.strict) := by
  have recorded : (recordedCloud cloud s).Impartial := by
    cases dry : s.dryRun with
    | false => rwa [recordedCloud_of_live dry]
    | true =>
      rw [recordedCloud_of_dry dry]
      exact impartial.obliging
  rw [kindResults, kindResults, kindTickets_strict impartial, List.map_map, List.filterMap_map,
    List.filterMap_map, List.map_filterMap]
  refine List.filterMap_congr fun ticket _ => ?_
  have result := recorded.land_strict ticket
  obtain ⟨site, request | ⟨endpoint, project, target⟩⟩ := ticket
  · exact congrArg (fun result => some (request.strict, result)) result
  · rfl

end Kind

/-! ## The calls of a sweep -/

theorem strictCalls_append (a b : List (Site × Call)) :
    strictCalls (a ++ b) = strictCalls a ++ strictCalls b := List.map_append

theorem strictCalls_flatMap {α : Type} (f : α → List (Site × Call)) (as : List α) :
    strictCalls (as.flatMap f) = as.flatMap fun a => strictCalls (f a) := List.map_flatMap

/-- Calls that have nothing to do with a kind stay as they are. -/
theorem strictCalls_eq_self {calls : List (Site × Call)} (h : ∀ c ∈ calls, c.2.strict = c.2) :
    strictCalls calls = calls := by
  have same : ∀ c ∈ calls, (c.1, c.2.strict) = c := fun c hc => by rw [h c hc]
  rw [strictCalls, List.map_congr_left same, List.map_id']

theorem strictCalls_subnetsCalls : strictCalls (subnetsCalls cloud s) = subnetsCalls cloud s := by
  refine strictCalls_eq_self fun c hc => ?_
  cases worksOnSubnet_of_mem hc <;> rfl

theorem strictCalls_endpointCalls {index : Nat} {e : ClusterEndpoint} :
    strictCalls (endpointCalls cloud s index e) = endpointCalls cloud s index e := by
  refine strictCalls_eq_self fun c hc => ?_
  obtain ⟨rest, block, deletions⟩ := startsWith_endpointCalls cloud s index e
  rw [block] at hc
  rcases List.mem_cons.1 hc with rfl | later
  · rfl
  · cases deletions c later
    rfl

/-- The calls on a service are the same, whatever is tolerated of it. -/
theorem serviceCalls_strict (impartial : cloud.Impartial) {index : Nat} {target : Service} :
    serviceCalls cloud s index target.strict = strictCalls (serviceCalls cloud s index target) := by
  have perKind : (target.strict.kinds.zipIdx.flatMap fun k =>
      kindCalls cloud s index k.2 target.endpoint k.1) =
        strictCalls (target.kinds.zipIdx.flatMap fun k =>
          kindCalls cloud s index k.2 target.endpoint k.1) := by
    rw [Service.strict, List.zipIdx_map, List.flatMap_map, strictCalls_flatMap]
    exact List.flatMap_congr fun k _ => kindCalls_strict impartial
  have check : cloud.answer (.apiCheck index) (.checkApi s.project target.strict.api) =
      cloud.answer (.apiCheck index) (.checkApi s.project target.api) := rfl
  rw [serviceCalls, serviceCalls, check]
  rcases cloud.answer (.apiCheck index) (.checkApi s.project target.api) with error | _ | _
  · rfl
  · rfl
  · exact congrArg (_ :: ·) perKind

/-- What a run calls does not depend on what is tolerated. -/
theorem ProjectRun.strictCalls_eq (impartial : cloud.Impartial)
    (run : ProjectRun cloud s endpoints catalog moves report) :
    strictCalls (calls moves) =
      (.subnetListing, .listSubnets s.project s.filter) ::
        (subnetsCalls cloud s ++
          (endpoints.zipIdx.flatMap (fun e => endpointCalls cloud s e.2 e.1) ++
            catalog.strict.services.zipIdx.flatMap fun a => serviceCalls cloud s a.2 a.1)) := by
  have onEndpoints : strictCalls (endpoints.zipIdx.flatMap fun e => endpointCalls cloud s e.2 e.1) =
      endpoints.zipIdx.flatMap fun e => endpointCalls cloud s e.2 e.1 := by
    rw [strictCalls_flatMap]
    exact List.flatMap_congr fun e _ => strictCalls_endpointCalls
  have onServices : (catalog.strict.services.zipIdx.flatMap fun a => serviceCalls cloud s a.2 a.1) =
      strictCalls (catalog.services.zipIdx.flatMap fun a => serviceCalls cloud s a.2 a.1) := by
    rw [Catalog.strict, List.zipIdx_map, List.flatMap_map, strictCalls_flatMap]
    exact List.flatMap_congr fun a _ => serviceCalls_strict impartial
  rw [run.calls_eq, onServices, strictCalls, List.map_cons, ← strictCalls, strictCalls_append,
    strictCalls_append, strictCalls_subnetsCalls, onEndpoints]
  rfl

/-! ## The report of a sweep -/

theorem sweptKinds_strict :
    sweptKinds cloud s catalog.strict = (sweptKinds cloud s catalog).map (·.strict) := by
  have places (index : Nat) (target : Service) :
      kindPlaces index target.strict = (kindPlaces index target).map (·.strict) := by
    rw [kindPlaces, kindPlaces, Service.strict, List.zipIdx_map, List.map_map, List.map_map]
    rfl
  rw [sweptKinds, sweptKinds, Catalog.strict, List.zipIdx_map, List.filter_map, List.flatMap_map,
    List.map_flatMap]
  exact List.flatMap_congr fun a _ => places a.2 a.1

theorem KindPlace.results_strict (impartial : cloud.Impartial) (p : KindPlace) :
    p.strict.results cloud s = (p.results cloud s).map (·.strict) :=
  kindResults_strict impartial

theorem allResults_strict (impartial : cloud.Impartial) :
    allResults cloud s catalog.strict = (allResults cloud s catalog).map (·.strict) := by
  rw [allResults, allResults, sweptKinds_strict, List.flatMap_map, List.map_flatMap]
  exact List.flatMap_congr fun p _ => p.results_strict impartial

/-- A failure counts or is excused. -/
theorem countP_counted_add_excused (results : List RequestResult) :
    results.countP (·.counted?.isSome) + results.countP (·.isExcused) =
      results.countP (!·.2.isOk) := by
  induction results with
  | nil => rfl
  | cons q results ih =>
    rw [List.countP_cons, List.countP_cons, List.countP_cons, ← ih]
    have one : (if q.counted?.isSome then 1 else 0) + (if q.isExcused then 1 else 0) =
        if !q.2.isOk then 1 else 0 := by
      cases tolerated : q.1.kind.tolerated <;> cases failed : q.2.isOk <;>
        simp [RequestResult.counted?, RequestResult.isExcused, RequestResult.isSome_failure?,
          tolerated, failed]
    omega

/-- The services that are told apart by their checks are the same, whatever is tolerated of them. -/
theorem apis_strict {P : Nat → Service → Bool} (h : ∀ i target, P i target.strict = P i target) :
    (catalog.strict.services.zipIdx.filter fun a => P a.2 a.1).map (·.1.api) =
      (catalog.services.zipIdx.filter fun a => P a.2 a.1).map (·.1.api) := by
  rw [Catalog.strict, List.zipIdx_map, List.filter_map, List.map_map]
  refine congrArg (List.map _) (List.filter_congr fun a _ => ?_)
  exact h a.2 a.1

end Sweep

/-- The reports are the same but for how failures of kinds are told apart. -/
structure Report.SameButForTolerance (a b : Report) : Prop where
  kindsSwept : a.kindsSwept = b.kindsSwept
  disabledApis : a.disabledApis = b.disabledApis
  failedApis : a.failedApis = b.failedApis
  deletionCalls : a.deletionCalls = b.deletionCalls
  deleted : a.deleted = b.deleted
  failures : a.failedDeletions + a.toleratedFailures = b.failedDeletions + b.toleratedFailures
  clusters : a.clusters = b.clusters
  subnetsFailed : a.subnetsFailed = b.subnetsFailed

namespace Report.SameButForTolerance

variable {a b c : Report}

theorem symm (h : a.SameButForTolerance b) : b.SameButForTolerance a :=
  ⟨h.kindsSwept.symm, h.disabledApis.symm, h.failedApis.symm, h.deletionCalls.symm, h.deleted.symm,
    h.failures.symm, h.clusters.symm, h.subnetsFailed.symm⟩

theorem trans (h : a.SameButForTolerance b) (h' : b.SameButForTolerance c) :
    a.SameButForTolerance c :=
  ⟨h.kindsSwept.trans h'.kindsSwept, h.disabledApis.trans h'.disabledApis,
    h.failedApis.trans h'.failedApis, h.deletionCalls.trans h'.deletionCalls,
    h.deleted.trans h'.deleted, h.failures.trans h'.failures, h.clusters.trans h'.clusters,
    h.subnetsFailed.trans h'.subnetsFailed⟩

end Report.SameButForTolerance

namespace Sweep

variable {cloud : Cloud} {s : Settings} {endpoints : List ClusterEndpoint}
  {catalog catalog' : Catalog} {moves : List Move} {report : Report}

/-- A report is the same but for the telling apart as that of the sweep in which nothing is
tolerated. -/
theorem projectReport_strict (impartial : cloud.Impartial) (endpoints : List ClusterEndpoint)
    (catalog : Catalog) :
    (projectReport cloud s endpoints catalog).SameButForTolerance
      (projectReport cloud s endpoints catalog.strict) := by
  rw [projectReport_eq, projectReport_eq]
  constructor
  case kindsSwept =>
    show (sweptKinds cloud s catalog).length = (sweptKinds cloud s catalog.strict).length
    rw [sweptKinds_strict, List.length_map]
  case disabledApis => exact (apis_strict fun _ _ => rfl).symm
  case failedApis => exact (apis_strict fun _ _ => rfl).symm
  case deletionCalls =>
    show (allResults cloud s catalog).length = (allResults cloud s catalog.strict).length
    rw [allResults_strict impartial, List.length_map]
  case deleted =>
    show ((allResults cloud s catalog).map (·.deleted)).sum =
      ((allResults cloud s catalog.strict).map (·.deleted)).sum
    rw [allResults_strict impartial, List.map_map]
    rfl
  case failures =>
    dsimp only
    rw [countP_counted_add_excused, countP_counted_add_excused, allResults_strict impartial,
      List.countP_map]
    rfl
  case clusters => rfl
  case subnetsFailed => rfl

/-! ## Kinds that fail -/

/-- The listing of the kind is there and has a defect. -/
def KindPlace.isRejected (p : KindPlace) (cloud : Cloud) (s : Settings) : Bool :=
  !(p.kind.clearAllOnly && !s.cutoff.isClearAll) &&
    match cloud.answer (.listing p.service p.index)
      (.listResources (listRequest s p.endpoint p.kind)) with
    | .error _ => false
    | .ok items => !(p.kind.groups? s.cutoff items).isOk

/-- Of a kind that is tolerated nothing but a defect of its listing counts. -/
theorem fails_eq_isRejected {p : KindPlace} (tolerated : p.kind.tolerated = true) :
    p.fails cloud s = p.isRejected cloud s := by
  rw [Bool.eq_iff_iff, fails_eq_true_iff, exists_kindSelection_error_iff, ← not_passedOver_iff,
    KindPlace.isRejected]
  cases p.kind.clearAllOnly && !s.cutoff.isClearAll with
  | true => simp [tolerated]
  | false =>
    rcases cloud.answer (.listing p.service p.index)
      (.listResources (listRequest s p.endpoint p.kind)) with error | items
    · simp [tolerated]
    · rcases grouped : p.kind.groups? s.cutoff items with error | groups <;>
        simp [tolerated, grouped]

/-- A kind that fails fails as well when less is tolerated. -/
theorem fails_of_tolerated (impartial : cloud.Impartial) {p p' : KindPlace}
    (same : p.strict = p'.strict) (more : p.kind.tolerated = true → p'.kind.tolerated = true)
    (fails : p'.fails cloud s = true) : p.fails cloud s = true := by
  have results : (p.results cloud s).map (·.strict) = (p'.results cloud s).map (·.strict) := by
    rw [← p.results_strict impartial, ← p'.results_strict impartial, same]
  obtain ⟨i, j, endpoint, k⟩ := p
  obtain ⟨i', j', endpoint', k'⟩ := p'
  obtain ⟨rfl, rfl, rfl, same⟩ := KindPlace.mk.inj same
  have ofKind : k.strict = k'.strict := same
  have only : k.clearAllOnly = k'.clearAllOnly := congrArg (·.clearAllOnly) ofKind
  have grouped (items : List ListedItem) : k.groups? s.cutoff items = k'.groups? s.cutoff items :=
    congrArg (·.groups? s.cutoff items) ofKind
  have listing : cloud.answer (.listing i j) (.listResources (listRequest s endpoint k)) =
      cloud.answer (.listing i j) (.listResources (listRequest s endpoint k')) :=
    listing_congr impartial ofKind
  -- What is not tolerated of the second kind is not tolerated of the first.
  have counts (h : k'.tolerated = false) : k.tolerated = false := by
    cases tolerated : k.tolerated with
    | false => rfl
    | true => exact absurd (h.symm.trans (more tolerated)) Bool.false_ne_true
  rw [fails_eq_true_iff, exists_kindSelection_error_iff] at fails ⊢
  dsimp only at fails results ⊢
  rw [only, listing]
  refine fails.imp (And.imp_right ?_) ?_
  · rcases cloud.answer (.listing i j) (.listResources (listRequest s endpoint k')) with error | items
    · exact counts
    · dsimp only
      rw [grouped]
      exact id
  · rintro ⟨counted, q, hq, failed⟩
    have there := List.mem_map_of_mem (f := RequestResult.strict) hq
    rw [← results] at there
    obtain ⟨q', hq', sameResult⟩ := List.mem_map.1 there
    have failed' : q'.2.isOk = false := (congrArg (·.2.isOk) sameResult).trans failed
    exact ⟨counts counted, q', hq', failed'⟩

/-- Lists that are the same under one view, filtered and seen under another: where less is kept the
rest is in order. -/
theorem map_filter_sublist {α β γ : Type} {view : α → β} {name : α → γ} {keep : α → Bool}
    (named : ∀ a b, view a = view b → name a = name b) {as bs : List α}
    (same : as.map view = bs.map view)
    (kept : ∀ a ∈ as, ∀ b ∈ bs, view a = view b → keep b = true → keep a = true) :
    ((bs.filter keep).map name).Sublist ((as.filter keep).map name) := by
  induction as generalizing bs with
  | nil =>
    rw [List.map_eq_nil_iff.1 same.symm]
  | cons a as ih =>
    cases bs with
    | nil => cases same
    | cons b bs =>
      obtain ⟨head, tail⟩ := List.cons.inj same
      have rest := ih tail fun a ha b hb =>
        kept a (List.mem_cons_of_mem _ ha) b (List.mem_cons_of_mem _ hb)
      cases hb : keep b with
      | false =>
        rw [List.filter_cons_of_neg (by simp [hb]), List.filter_cons]
        split
        · exact rest.cons _
        · exact rest
      | true =>
        have ha := kept a List.mem_cons_self b List.mem_cons_self head hb
        rw [List.filter_cons_of_pos hb, List.filter_cons_of_pos ha, List.map_cons, List.map_cons,
          named a b head]
        exact rest.cons_cons _

/-- The place of a kind that is swept says whether the kind is tolerated. -/
theorem tolerates_of_mem_sweptKinds {p : KindPlace} (hp : p ∈ sweptKinds cloud s catalog) :
    catalog.tolerates p.service p.index = p.kind.tolerated := by
  obtain ⟨target, declared, -, ofKind, -⟩ := mem_sweptKinds_iff.1 hp
  rw [Catalog.tolerates, declared, Option.bind_some, ofKind]
  rfl

/-- Where more is tolerated no kind fails that does not fail where less is. -/
theorem failedKinds_sublist (impartial : cloud.Impartial) (alike : catalog.strict = catalog'.strict)
    (more : ∀ i j, catalog.tolerates i j = true → catalog'.tolerates i j = true) :
    (((sweptKinds cloud s catalog').filter (·.fails cloud s)).map (·.kind.title)).Sublist
      (((sweptKinds cloud s catalog).filter (·.fails cloud s)).map (·.kind.title)) := by
  have same : (sweptKinds cloud s catalog).map (·.strict) =
      (sweptKinds cloud s catalog').map (·.strict) := by
    rw [← sweptKinds_strict, ← sweptKinds_strict, alike]
  refine map_filter_sublist (fun p p' same => ?_) same fun p hp p' hp' same fails => ?_
  · exact congrArg (·.kind.title) same
  · refine fails_of_tolerated impartial same (fun tolerated => ?_) fails
    rw [← tolerates_of_mem_sweptKinds hp] at tolerated
    have place := more _ _ tolerated
    rwa [show p.service = p'.service from congrArg (·.service) same,
      show p.index = p'.index from congrArg (·.index) same, tolerates_of_mem_sweptKinds hp'] at place

/-- In a cloud that answers without regard to tolerance, sweeps of two catalogs that are the same once
nothing is tolerated come to their ends, and whatever the schedules, they make the same calls in the
same order, and their reports are the same but for how failures are told apart. Where more is
tolerated no kind fails besides, and where everything is, those fail whose listings have a defect. -/
theorem sameButForTolerance_of_runs (cloud : Cloud) (s : Settings) (endpoints : List ClusterEndpoint)
    (catalog catalog' : Catalog) (impartial : cloud.Impartial)
    (alike : catalog.strict = catalog'.strict) :
    (∃ moves report, (project s endpoints catalog).Runs cloud moves report) ∧
      (∃ moves report, (project s endpoints catalog').Runs cloud moves report) ∧
      ∀ moves report moves' report', (project s endpoints catalog).Runs cloud moves report →
        (project s endpoints catalog').Runs cloud moves' report' →
        strictCalls (calls moves) = strictCalls (calls moves') ∧
        report.SameButForTolerance report' ∧
        ((∀ i j, catalog.tolerates i j = true → catalog'.tolerates i j = true) →
          report'.failedKinds.Sublist report.failedKinds) ∧
        ((∀ target ∈ catalog'.services, ∀ k ∈ target.kinds, k.tolerated = true) →
          report'.failedKinds =
            ((sweptKinds cloud s catalog').filter (·.isRejected cloud s)).map (·.kind.title)) := by
  refine ⟨⟨_, _, runs_project cloud endpoints catalog⟩, ⟨_, _, runs_project cloud endpoints catalog'⟩,
    fun moves report moves' report' run run' => ?_⟩
  have settled := (projectRun run).report_eq
  have settled' := (projectRun run').report_eq
  refine ⟨?_, ?_, fun more => ?_, fun all => ?_⟩
  · rw [(projectRun run).strictCalls_eq impartial, (projectRun run').strictCalls_eq impartial, alike]
  · have same := projectReport_strict (s := s) impartial endpoints catalog
    have same' := projectReport_strict (s := s) impartial endpoints catalog'
    rw [settled, settled']
    rw [alike] at same
    exact same.trans same'.symm
  · rw [settled, settled', projectReport_eq, projectReport_eq]
    exact failedKinds_sublist impartial alike more
  · rw [settled', projectReport_eq]
    refine congrArg (List.map _) (List.filter_congr fun p hp => ?_)
    obtain ⟨target, declared, -, ofKind, -⟩ := mem_sweptKinds_iff.1 hp
    exact fails_eq_isRejected
      (all target (List.mem_of_getElem? declared) p.kind (List.mem_of_getElem? ofKind))

/-- A catalog of three kinds, all of them tolerated or none. -/
def threeKinds (tolerated : Bool) : Catalog where
  services := [{ api := "compute", kinds := [
    { ResourceKind.of "compute" "disks" with tolerated },
    { ResourceKind.of "compute" "images" with tolerated },
    { ResourceKind.of "compute" "routes" with tolerated }] }]

/-- A cloud with a disk that stays, images without names and routes that cannot be listed. -/
def failingKinds : InMemory where
  listings := [("compute disks", [.named "kept", .named "gone"]), ("compute images", [{}])]
  listFailures := ["compute routes"]
  protectedNames := ["kept"]

theorem sameButForTolerance_of_runs_threeKinds :
    failingKinds.cloud.Impartial ∧ (threeKinds false).strict = (threeKinds true).strict ∧
      ∃ moves report moves' report',
        (project { project := "p", cutoff := .clearAll, batchSize := 1 } [] (threeKinds false)).Runs
          failingKinds.cloud moves report ∧
        (project { project := "p", cutoff := .clearAll, batchSize := 1 } [] (threeKinds true)).Runs
          failingKinds.cloud moves' report' ∧
        strictCalls (calls moves) = strictCalls (calls moves') ∧
        report.deleted = report'.deleted ∧
        report'.failedKinds = ["compute images"] ∧
        report'.failedKinds.Sublist report.failedKinds := by
  have impartial : failingKinds.cloud.Impartial := failingKinds.impartial_cloud
  have alike : (threeKinds false).strict = (threeKinds true).strict := rfl
  obtain ⟨⟨moves, report, run⟩, ⟨moves', report', run'⟩, all⟩ :=
    sameButForTolerance_of_runs failingKinds.cloud
      { project := "p", cutoff := .clearAll, batchSize := 1 } [] (threeKinds false)
      (threeKinds true) impartial alike
  obtain ⟨called, same, fewer, rejected⟩ := all moves report moves' report' run run'
  have nothing (i j : Nat) : (threeKinds false).tolerates i j = false := by
    match i, j with
    | 0, 0 | 0, 1 | 0, 2 | 0, _ + 3 | _ + 1, _ => rfl
  have more (i j : Nat) (h : (threeKinds false).tolerates i j = true) :
      (threeKinds true).tolerates i j = true :=
    absurd ((nothing i j).symm.trans h) Bool.false_ne_true
  have everything : ∀ target ∈ (threeKinds true).services, ∀ k ∈ target.kinds,
      k.tolerated = true := by
    decide
  exact ⟨impartial, alike, moves, report, moves', report', run, run', called, same.deleted,
    (rejected everything).trans (by decide +kernel), fewer more⟩

end Sweep
end CloudSweep
