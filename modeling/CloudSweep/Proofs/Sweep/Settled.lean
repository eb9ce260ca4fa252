/-
What is settled beforehand. The deletions of a kind land in any order, but no order changes what they
come to in the end. So the report of a sweep follows from the cloud's answers alone: unit by unit there
is one outcome, and under every schedule the report is that of these outcomes.
-/
import CloudSweep.Proofs.Sweep.ClusterAccounts
import CloudSweep.Proofs.Sweep.DryRun

namespace CloudSweep

/-! ## Outcomes that are recorded alike -/

/-- Of kinds the same was recorded but for the order of failures. -/
abbrev KindOutcome.Same (o o' : KindOutcome) : Prop := Alike DeletionOutcome.SameUpToOrder o o'

/-- The service came to the same but for the order of failures. -/
inductive ServiceOutcome.Same : ServiceOutcome → ServiceOutcome → Prop
  | disabled : Same .disabled .disabled
  | unknown : Same .unknown .unknown
  | swept {kinds kinds' : List (ResourceKind × KindOutcome)}
      (same : List.Forall₂ (fun k k' => k.1 = k'.1 ∧ KindOutcome.Same k.2 k'.2) kinds kinds') :
      Same (.swept kinds) (.swept kinds')

namespace Report

/-- A report does not tell in which order deletions failed. -/
theorem recordKind_congr (r : Report) (k : ResourceKind) {o o' : KindOutcome} (same : o.Same o') :
    r.recordKind k o = r.recordKind k o' := by
  cases same with
  | error error => rfl
  | ok related =>
    simp only [recordKind, recordDeletions]
    rw [related.calls, related.deleted, related.failures.length_eq, related.tolerated,
      related.isFailed_eq]

theorem recordService_congr (r : Report) (api : String) {o o' : ServiceOutcome} (same : o.Same o') :
    r.recordService api o = r.recordService api o' := by
  cases same with
  | disabled => rfl
  | unknown => rfl
  | @swept kinds kinds' same =>
    show kinds.foldl (fun r k => r.recordKind k.1 k.2) r =
      kinds'.foldl (fun r k => r.recordKind k.1 k.2) r
    refine List.rel_foldl (P := Eq) ?_ rfl same
    rintro r _ rfl k k' ⟨ofKind, same⟩
    show r.recordKind k.1 k.2 = r.recordKind k'.1 k'.2
    rw [ofKind]
    exact r.recordKind_congr k'.1 same

theorem recordServices_congr (r : Report) {outcomes outcomes' : List (String × ServiceOutcome)}
    (same : List.Forall₂ (fun o o' => o.1 = o'.1 ∧ o.2.Same o'.2) outcomes outcomes') :
    r.recordServices outcomes = r.recordServices outcomes' := by
  show outcomes.foldl (fun r o => r.recordService o.1 o.2) r =
    outcomes'.foldl (fun r o => r.recordService o.1 o.2) r
  refine List.rel_foldl (P := Eq) ?_ rfl same
  rintro r _ rfl o o' ⟨ofApi, same⟩
  show r.recordService o.1 o.2 = r.recordService o'.1 o'.2
  rw [ofApi]
  exact r.recordService_congr o'.1 same

end Report

/-- A list of parts comes to what its parts come to, one by one. -/
theorem Program.forall₂_of_runs_each {α β : Type} {cloud : Cloud} {f : Nat → α → Program β}
    {start : Nat} {as : List α} {moves : List Move} {bs : List β} {S : α × Nat → β → Prop}
    (run : (each f start as).Runs cloud moves bs)
    (h : ∀ i a part b, (f i a).Runs cloud part b → S (a, i) b) :
    List.Forall₂ S (as.zipIdx start) bs := by
  obtain ⟨parts, -, rfl, sweeps⟩ := runs_each.1 run
  rw [List.forall₂_map_right_iff]
  exact sweeps.imp fun a part run => h a.2 a.1 part.1 part.2 run

/-- Results go with the names of their places. -/
theorem forall₂_zip {α β γ : Type} {S : α → β → Prop} (name : α → γ) {as : List α} {bs : List β}
    (h : List.Forall₂ S as bs) :
    List.Forall₂ (fun a b => b.1 = name a ∧ S a b.2) as ((as.map name).zip bs) := by
  induction h with
  | nil => exact .nil
  | cons related _ ih => exact .cons ⟨rfl, related⟩ ih

namespace Sweep

variable {cloud : Cloud} {s : Settings} {moves : List Move}

/-! ## Kinds -/

section Kind

variable (cloud : Cloud) (s : Settings) (service index : Nat) (endpoint : Option EndpointOverride)
  (k : ResourceKind)

/-- What is selected of the kind; nothing if it is passed over, or if its listing fails and the kind is
tolerated. -/
def kindSelection : Except SelectionError Groups :=
  if k.clearAllOnly && !s.cutoff.isClearAll then .ok []
  else
    match cloud.answer (.listing service index) (.listResources (listRequest s endpoint k)) with
    | .error error => if k.tolerated then .ok [] else .error (.listing k.label error)
    | .ok items => k.groups? s.cutoff items

/-- The cloud from which results are recorded. No deletion fails that is not made. -/
def recordedCloud : Cloud := if s.dryRun then cloud.obliging else cloud

/-- The results of the kind's requests, in the order of the plan. -/
def kindResults : List RequestResult :=
  ((kindTickets cloud s service index endpoint k).map (recordedCloud cloud s).land).filterMap
    requestResult?

/-- What comes of the kind. -/
def kindOutcome : KindOutcome :=
  (kindSelection cloud s service index endpoint k).map fun _ =>
    .ofResults (kindResults cloud s service index endpoint k)

variable {cloud s service index endpoint k}

theorem recordedCloud_of_live (live : s.dryRun = false) : recordedCloud cloud s = cloud := by
  rw [recordedCloud, live]
  rfl

theorem recordedCloud_of_dry (dry : s.dryRun = true) : recordedCloud cloud s = cloud.obliging :=
  if_pos dry

theorem SelectRun.kindSelection_eq {result : Except SelectionError Groups}
    (run : SelectRun cloud s service index endpoint k moves result)
    (swept : k.clearAllOnly = true → s.cutoff.isClearAll = true) :
    kindSelection cloud s service index endpoint k = result := by
  rw [kindSelection, if_neg (not_passedOver_iff.2 swept)]
  cases run with
  | unlisted listing counts => simp [listing, counts]
  | excused listing tolerated => simp [listing, tolerated]
  | listed listing grouped => simp only [listing, grouped]

/-- Nothing can be selected of a kind that is not passed over if its listing fails, which is not
tolerated, or has a defect. -/
theorem exists_kindSelection_error_iff :
    (∃ error, kindSelection cloud s service index endpoint k = .error error) ↔
      (k.clearAllOnly = true → s.cutoff.isClearAll = true) ∧
        match cloud.answer (.listing service index) (.listResources (listRequest s endpoint k)) with
        | .error _ => k.tolerated = false
        | .ok items => ∃ error, k.groups? s.cutoff items = .error error := by
  rw [← not_passedOver_iff, kindSelection]
  split
  · rename_i passedOver
    exact iff_of_false nofun fun h => h.1 passedOver
  rename_i swept
  rw [and_iff_right swept]
  rcases cloud.answer (.listing service index) (.listResources (listRequest s endpoint k)) with
    error | items
  · cases tolerated : k.tolerated with
    | false => exact iff_of_true ⟨_, rfl⟩ rfl
    | true => exact iff_of_false nofun nofun
  · exact .rfl

/-- The deletions of the kind are those of what is selected of it. -/
theorem kindTickets_eq :
    kindTickets cloud s service index endpoint k =
      selectionTickets s service index endpoint k (kindSelection cloud s service index endpoint k) := by
  unfold kindTickets kindSelection
  split
  · rfl
  rcases cloud.answer (.listing service index) (.listResources (listRequest s endpoint k)) with
    error | items
  · cases k.tolerated <;> rfl
  · rfl

theorem kindResults_of_selection {groups : Groups}
    (selected : kindSelection cloud s service index endpoint k = .ok groups) :
    kindResults cloud s service index endpoint k = requestResults (recordedCloud cloud s) service
      index (k.plan groups s.project s.batchSize endpoint) := by
  rw [kindResults, kindTickets_eq, selected, selectionTickets, requestResult?_land]

/-- Of a kind that fails there are no results. -/
theorem kindResults_of_failed {error : SelectionError}
    (failed : kindSelection cloud s service index endpoint k = .error error) :
    kindResults cloud s service index endpoint k = [] := by
  rw [kindResults, kindTickets_eq, failed]
  rfl

/-- What is recorded of the kind are its results. -/
theorem recorded_kindOutcome :
    (kindOutcome cloud s service index endpoint k).recorded =
      .ofResults (kindResults cloud s service index endpoint k) := by
  unfold kindOutcome
  rcases selected : kindSelection cloud s service index endpoint k with error | groups
  · rw [kindResults_of_failed selected]
    rfl
  · rfl

/-- What is deleted comes to the results that are recorded, up to the order of failures. -/
theorem DeleteRun.sameAsRecorded {groups : Groups} {outcome : DeletionOutcome}
    (run : DeleteRun cloud s service index endpoint k groups moves outcome) :
    outcome.SameUpToOrder (.ofResults (requestResults (recordedCloud cloud s) service index
      (k.plan groups s.project s.batchSize endpoint))) := by
  cases dry : s.dryRun with
  | false =>
    rw [recordedCloud_of_live dry]
    exact run.sameUpToOrder dry
  | true =>
    rw [recordedCloud_of_dry dry, requestResults_of_obliges cloud.obliges_obliging,
      DeletionOutcome.ofResults_ok]
    cases run with
    | nothing empty =>
      rw [empty]
      exact .refl {}
    | dry planned =>
      rw [planned]
      exact .refl _
    | live _ _ live => exact absurd (live.symm.trans dry) Bool.false_ne_true

/-- Under every schedule the same comes of the kind, up to the order of failures. -/
theorem KindRun.same {outcome : KindOutcome}
    (run : KindRun cloud s service index endpoint k moves outcome) :
    outcome.Same (kindOutcome cloud s service index endpoint k) := by
  -- Nothing is selected, so that nothing is to be deleted.
  have nothing (selected : kindSelection cloud s service index endpoint k = .ok []) :
      KindOutcome.Same (.ok {}) (kindOutcome cloud s service index endpoint k) := by
    rw [kindOutcome, kindResults_of_selection selected, selected]
    exact .ok (.refl {})
  cases run with
  | passedOver only aged =>
    refine nothing ?_
    simp [kindSelection, only, aged]
  | failed swept selection =>
    rw [kindOutcome, selection.kindSelection_eq swept]
    exact .error _
  | spared swept selection => exact nothing (selection.kindSelection_eq swept)
  | selected swept selection _ deletion =>
    have selected := selection.kindSelection_eq swept
    rw [kindOutcome, kindResults_of_selection selected, selected]
    exact .ok deletion.sameAsRecorded

end Kind

/-! ## Services -/

section Service

variable (cloud : Cloud) (s : Settings) (index : Nat) (target : Service)

/-- Whether the service is enabled; asking for that may fail. -/
def apiState : Except CallError Bool :=
  cloud.answer (.apiCheck index) (.checkApi s.project target.api)

/-- What comes of the service. -/
def serviceOutcome : ServiceOutcome :=
  match apiState cloud s index target with
  | .error _ => .unknown
  | .ok false => .disabled
  | .ok true => .swept (target.kinds.zipIdx.map fun k =>
      (k.1, kindOutcome cloud s index k.2 target.endpoint k.1))

variable {cloud s index target}

/-- Under every schedule the same comes of the service, up to the order of failures. -/
theorem ServiceRun.same {outcome : ServiceOutcome}
    (run : ServiceRun cloud s index target moves outcome) :
    outcome.Same (serviceOutcome cloud s index target) := by
  unfold serviceOutcome apiState
  cases run with
  | unknown check =>
    rw [check]
    exact .unknown
  | disabled check =>
    rw [check]
    exact .disabled
  | swept check kinds =>
    rw [check]
    refine .swept (List.forall₂_map_right_iff.2 (List.Forall₂.flip ?_))
    refine Program.forall₂_of_runs_each kinds fun j k part outcome run => ?_
    obtain ⟨_, result, -, rfl, kindRun⟩ := reportedKindRun run
    exact ⟨rfl, kindRun.same⟩

end Service

/-! ## Projects -/

/-- Whether the subnets fail: they cannot be listed, or their listing has a defect. -/
def subnetsFail (cloud : Cloud) (s : Settings) : Bool :=
  match cloud.answer .subnetListing (.listSubnets s.project s.filter) with
  | .error _ => true
  | .ok records => !(SubnetRecord.subnets records).isOk

theorem SubnetsRun.isOk_eq {outcome : Except SelectionError (List SubnetOutcome)}
    (run : SubnetsRun cloud s moves outcome) : (!outcome.isOk) = subnetsFail cloud s := by
  unfold subnetsFail
  cases run with
  | unlisted listing => simp [listing]
  | malformed listing selection => simp [listing, selection]
  | swept listing selection => simp [listing, selection]

/-- What comes of the services of a catalog. -/
def serviceOutcomes (cloud : Cloud) (s : Settings) (catalog : Catalog) :
    List (String × ServiceOutcome) :=
  catalog.services.zipIdx.map fun a => (a.1.api, serviceOutcome cloud s a.2 a.1)

/-- The report of a sweep. -/
def projectReport (cloud : Cloud) (s : Settings) (endpoints : List ClusterEndpoint)
    (catalog : Catalog) : Report :=
  Report.recordServices
    { clusters := .ofOutcomes
        (endpoints.zipIdx.map fun e => (e.1.name, endpointOutcome cloud s e.2 e.1))
      subnetsFailed := subnetsFail cloud s }
    (serviceOutcomes cloud s catalog)

/-- Under every schedule the report is the same. -/
theorem ProjectRun.report_eq {endpoints : List ClusterEndpoint} {catalog : Catalog} {report : Report}
    (run : ProjectRun cloud s endpoints catalog moves report) :
    report = projectReport cloud s endpoints catalog := by
  cases run with
  | @parts _ _ _ _ _ outcomes subnetSweep endpointSweep serviceSweep =>
    have perService : List.Forall₂ (fun a o => o.Same (serviceOutcome cloud s a.2 a.1))
        catalog.services.zipIdx outcomes :=
      Program.forall₂_of_runs_each serviceSweep fun _ _ _ _ run => (serviceRun run).same
    have named := forall₂_zip (fun a : Service × Nat => a.1.api) perService
    rw [← map_eq_map_zipIdx fun a : Service => a.api] at named
    rw [projectReport, (subnetsRun subnetSweep).isOk_eq, zip_endpointOutcomes endpointSweep]
    exact Report.recordServices_congr _ (List.forall₂_map_right_iff.2 named.flip)

/-! ## The kinds that are swept -/

/-- A kind of a catalog, with its place and the address that goes with it. -/
structure KindPlace where
  service : Nat
  index : Nat
  endpoint : Option EndpointOverride
  kind : ResourceKind

namespace KindPlace

/-- The results of the requests for the kind. -/
def results (p : KindPlace) (cloud : Cloud) (s : Settings) : List RequestResult :=
  kindResults cloud s p.service p.index p.endpoint p.kind

/-- What comes of the kind. -/
def outcome (p : KindPlace) (cloud : Cloud) (s : Settings) : KindOutcome :=
  kindOutcome cloud s p.service p.index p.endpoint p.kind

/-- Whether the kind counts against a run. -/
def fails (p : KindPlace) (cloud : Cloud) (s : Settings) : Bool := (p.outcome cloud s).isFailed

end KindPlace

section Place

variable {p : KindPlace} {q : RequestResult}

/-- The results of a kind are those of its deletions. -/
theorem mem_results_iff :
    q ∈ p.results cloud s ↔
      ∃ ticket ∈ kindTickets cloud s p.service p.index p.endpoint p.kind,
        requestResult? ((recordedCloud cloud s).land ticket) = some q := by
  rw [KindPlace.results, kindResults, List.filterMap_map, List.mem_filterMap]
  rfl

theorem kind_of_mem_results (hq : q ∈ p.results cloud s) : q.1.kind = p.kind := by
  obtain ⟨ticket, ht, result⟩ := mem_results_iff.1 hq
  obtain ⟨r, names, scope, rfl⟩ := mem_kindTickets ht
  cases result
  rfl

/-- A kind fails if nothing can be selected of it, or if a deletion fails and it is not tolerated. -/
theorem fails_eq_true_iff :
    p.fails cloud s = true ↔
      (∃ error, kindSelection cloud s p.service p.index p.endpoint p.kind = .error error) ∨
        p.kind.tolerated = false ∧ ∃ q ∈ p.results cloud s, q.2.isOk = false := by
  have counted : (∃ q ∈ p.results cloud s, q.1.kind.tolerated = false ∧ q.2.isOk = false) ↔
      p.kind.tolerated = false ∧ ∃ q ∈ p.results cloud s, q.2.isOk = false := by
    constructor
    · rintro ⟨q, hq, counts, failed⟩
      exact ⟨kind_of_mem_results hq ▸ counts, q, hq, failed⟩
    · rintro ⟨counts, q, hq, failed⟩
      exact ⟨q, hq, (kind_of_mem_results hq).symm ▸ counts, failed⟩
  rw [← counted, ← DeletionOutcome.isFailed_ofResults_iff, KindPlace.fails, KindPlace.outcome,
    kindOutcome, KindPlace.results]
  rcases kindSelection cloud s p.service p.index p.endpoint p.kind with error | groups
  · exact iff_of_true rfl (.inl ⟨error, rfl⟩)
  · exact ⟨.inr, fun h => h.resolve_left nofun⟩

end Place

section Service

variable (cloud : Cloud) (s : Settings) (index : Nat) (target : Service)

/-- The service is enabled. -/
def isEnabled : Bool :=
  match apiState cloud s index target with
  | .ok enabled => enabled
  | .error _ => false

/-- The service is not enabled. -/
def isDisabled : Bool :=
  match apiState cloud s index target with
  | .ok enabled => !enabled
  | .error _ => false

/-- It cannot be told whether the service is enabled. -/
def isUnknown : Bool := !(apiState cloud s index target).isOk

/-- The kinds of the service with their places. -/
def kindPlaces : List KindPlace :=
  target.kinds.zipIdx.map fun k =>
    { service := index, index := k.2, endpoint := target.endpoint, kind := k.1 }

variable {cloud s index target}

theorem length_kindPlaces : (kindPlaces index target).length = target.kinds.length := by
  rw [kindPlaces, List.length_map, List.length_zipIdx]

theorem isDisabled_serviceOutcome :
    (serviceOutcome cloud s index target).isDisabled = isDisabled cloud s index target := by
  unfold serviceOutcome isDisabled
  rcases apiState cloud s index target with error | _ | _ <;> rfl

theorem isUnknown_serviceOutcome :
    (serviceOutcome cloud s index target).isUnknown = isUnknown cloud s index target := by
  unfold serviceOutcome isUnknown
  rcases apiState cloud s index target with error | _ | _ <;> rfl

theorem kinds_serviceOutcome :
    (serviceOutcome cloud s index target).kinds =
      if isEnabled cloud s index target then
        (kindPlaces index target).map fun p => (p.kind, p.outcome cloud s)
      else [] := by
  unfold serviceOutcome isEnabled
  rcases apiState cloud s index target with error | _ | _
  · rfl
  · rfl
  · rw [kindPlaces, List.map_map]
    rfl

end Service

/-- The kinds of a catalog that are swept: those of its services that are enabled, in order. -/
def sweptKinds (cloud : Cloud) (s : Settings) (catalog : Catalog) : List KindPlace :=
  (catalog.services.zipIdx.filter fun a => isEnabled cloud s a.2 a.1).flatMap fun a =>
    kindPlaces a.2 a.1

theorem mem_sweptKinds_iff {catalog : Catalog} {p : KindPlace} :
    p ∈ sweptKinds cloud s catalog ↔ ∃ target, catalog.services[p.service]? = some target ∧
      apiState cloud s p.service target = .ok true ∧ target.kinds[p.index]? = some p.kind ∧
        p.endpoint = target.endpoint := by
  simp only [sweptKinds, List.mem_flatMap, List.mem_filter, kindPlaces, List.mem_map,
    List.mem_zipIdx_iff_getElem?]
  constructor
  · rintro ⟨⟨target, i⟩, ⟨declared, enabled⟩, ⟨k, j⟩, ofKind, rfl⟩
    refine ⟨target, declared, ?_, ofKind, rfl⟩
    unfold isEnabled at enabled
    split at enabled
    · rename_i state check
      dsimp only at check enabled
      rw [check, enabled]
    · cases enabled
  · rintro ⟨target, declared, check, ofKind, addressed⟩
    refine ⟨⟨target, p.service⟩, ⟨declared, ?_⟩, ⟨p.kind, p.index⟩, ofKind, ?_⟩
    · rw [isEnabled, check]
    · cases p
      cases addressed
      rfl

/-- The results of all requests of a sweep, kind by kind. -/
def allResults (cloud : Cloud) (s : Settings) (catalog : Catalog) : List RequestResult :=
  (sweptKinds cloud s catalog).flatMap (·.results cloud s)

theorem flatMap_ite {α β : Type} (p : α → Bool) (f : α → List β) (as : List α) :
    as.flatMap (fun a => if p a then f a else []) = (as.filter p).flatMap f := by
  induction as with
  | nil => rfl
  | cons a as ih =>
    rw [List.flatMap_cons, List.filter_cons, ih]
    cases p a <;> rfl

theorem sum_map_flatMap {α β : Type} (g : β → Nat) (f : α → List β) (as : List α) :
    ((as.flatMap f).map g).sum = (as.map fun a => ((f a).map g).sum).sum := by
  rw [List.map_flatMap, List.flatMap_def, List.sum_flatten, List.map_map]
  rfl

theorem kinds_serviceOutcomes (catalog : Catalog) :
    (serviceOutcomes cloud s catalog).flatMap (·.2.kinds) =
      (sweptKinds cloud s catalog).map fun p => (p.kind, p.outcome cloud s) := by
  rw [serviceOutcomes, List.flatMap_map, sweptKinds, List.map_flatMap, ← flatMap_ite]
  exact List.flatMap_congr fun a _ => kinds_serviceOutcome

/-- The report of a sweep, field by field. -/
theorem projectReport_eq (cloud : Cloud) (s : Settings) (endpoints : List ClusterEndpoint)
    (catalog : Catalog) :
    projectReport cloud s endpoints catalog =
      { kindsSwept := (sweptKinds cloud s catalog).length
        disabledApis :=
          (catalog.services.zipIdx.filter fun a => isDisabled cloud s a.2 a.1).map (·.1.api)
        failedApis :=
          (catalog.services.zipIdx.filter fun a => isUnknown cloud s a.2 a.1).map (·.1.api)
        failedKinds :=
          ((sweptKinds cloud s catalog).filter (·.fails cloud s)).map (·.kind.title)
        deletionCalls := (allResults cloud s catalog).length
        deleted := ((allResults cloud s catalog).map (·.deleted)).sum
        failedDeletions := (allResults cloud s catalog).countP (·.counted?.isSome)
        toleratedFailures := (allResults cloud s catalog).countP (·.isExcused)
        clusters := .ofOutcomes
          (endpoints.zipIdx.map fun e => (e.1.name, endpointOutcome cloud s e.2 e.1))
        subnetsFailed := subnetsFail cloud s } := by
  have disabled : ((serviceOutcomes cloud s catalog).filter (·.2.isDisabled)).map (·.1) =
      (catalog.services.zipIdx.filter fun a => isDisabled cloud s a.2 a.1).map (·.1.api) := by
    rw [serviceOutcomes, List.filter_map, List.map_map]
    simp only [Function.comp_def, isDisabled_serviceOutcome]
  have unknown : ((serviceOutcomes cloud s catalog).filter (·.2.isUnknown)).map (·.1) =
      (catalog.services.zipIdx.filter fun a => isUnknown cloud s a.2 a.1).map (·.1.api) := by
    rw [serviceOutcomes, List.filter_map, List.map_map]
    simp only [Function.comp_def, isUnknown_serviceOutcome]
  have recorded (p : KindPlace) :
      (p.outcome cloud s).recorded = .ofResults (p.results cloud s) := recorded_kindOutcome
  rw [projectReport, Report.recordServices_eq, disabled, unknown, kinds_serviceOutcomes]
  simp only [List.length_map, List.map_map, List.filter_map, Function.comp_def, recorded,
    DeletionOutcome.ofResults_eq, allResults, List.length_flatMap, sum_map_flatMap,
    List.countP_flatMap, List.length_filterMap_eq_countP, List.nil_append, Nat.zero_add]
  rfl

end Sweep
end CloudSweep
