/-
The report and the trace. Each list and each count of a report can be told from what was asked in the
run, what was answered, and which deletions landed how: services by their checks, deletions by the
requests that were sent, and kinds that failed by their listings and their deletions. Nothing is
counted twice, and nothing is left out.
-/
import CloudSweep.Proofs.Sweep.Cutoff
import CloudSweep.Proofs.Sweep.Settled

namespace CloudSweep

/-- The results of the requests whose deletions landed, in the order in which they did. -/
def landedResults (moves : List Move) : List RequestResult :=
  (landings moves).filterMap Sweep.requestResult?

/-- The requests among some calls. -/
def sentRequests (moves : List Move) : List DeleteRequest := (calls moves).filterMap (·.2.request?)

/-- The kind failed in a run: its listing failed, and the kind is not tolerated; or the listing has a
defect; or one of its deletions failed, and the kind is not tolerated. -/
inductive Sweep.KindPlace.FailsIn (p : KindPlace) (s : Settings) (moves : List Move) : Prop
  | unlisted {request : ListRequest} {error : CallError}
      (asked : .asked (.listing p.service p.index) (.listResources request) (.error error) ∈ moves)
      (counts : p.kind.tolerated = false)
  | malformed {request : ListRequest} {items : List ListedItem} {error : SelectionError}
      (asked : .asked (.listing p.service p.index) (.listResources request) (.ok items) ∈ moves)
      (defect : p.kind.groups? s.cutoff items = .error error)
  | undeleted {l : Landing} {r : Nat} (landed : .landed l ∈ moves)
      (ofKind : l.ticket.site = .deletion p.service p.index r) (failed : l.result.isOk = false)
      (counts : p.kind.tolerated = false)

namespace Sweep

variable {cloud : Cloud} {s : Settings} {endpoints : List ClusterEndpoint} {catalog : Catalog}
  {moves : List Move} {report : Report} {p : KindPlace}

/-! ## Deletions -/

/-- The deletions of a service are those of its kinds, if it is enabled. -/
theorem serviceTickets_eq {index : Nat} {target : Service} :
    serviceTickets cloud s index target =
      if isEnabled cloud s index target then
        (kindPlaces index target).flatMap fun p =>
          kindTickets cloud s p.service p.index p.endpoint p.kind
      else [] := by
  unfold serviceTickets isEnabled apiState
  rcases cloud.answer (.apiCheck index) (.checkApi s.project target.api) with error | _ | _
  · rfl
  · rfl
  · rw [kindPlaces, List.flatMap_map]
    rfl

/-- A cluster is no request. -/
theorem requestResult?_endpointTickets {index : Nat} {e : ClusterEndpoint} :
    ((endpointTickets cloud s index e).map cloud.land).filterMap requestResult? = [] := by
  rw [List.filterMap_map, List.filterMap_eq_nil_iff]
  intro ticket ht
  obtain ⟨n, target, rfl⟩ := mem_endpointTickets ht
  rfl

/-- The deletions of the services are those of the kinds that are swept. -/
theorem flatMap_serviceTickets :
    (catalog.services.zipIdx.flatMap fun a => serviceTickets cloud s a.2 a.1) =
      (sweptKinds cloud s catalog).flatMap fun p =>
        kindTickets cloud s p.service p.index p.endpoint p.kind := by
  rw [sweptKinds, List.flatMap_assoc, ← flatMap_ite]
  exact List.flatMap_congr fun a _ => serviceTickets_eq

/-- The deletions of a live sweep have all its results. -/
theorem requestResult?_projectTickets (endpoints : List ClusterEndpoint)
    (live : s.dryRun = false) :
    ((projectTickets cloud s endpoints catalog).map cloud.land).filterMap requestResult? =
      allResults cloud s catalog := by
  have endpointPart : (endpoints.zipIdx.flatMap fun e =>
      ((endpointTickets cloud s e.2 e.1).map cloud.land).filterMap requestResult?) = [] :=
    List.flatMap_eq_nil_iff.2 fun e _ => requestResult?_endpointTickets
  have perKind (p : KindPlace) : ((kindTickets cloud s p.service p.index p.endpoint p.kind).map
      cloud.land).filterMap requestResult? = p.results cloud s := by
    rw [KindPlace.results, kindResults, recordedCloud_of_live live]
  rw [projectTickets, flatMap_serviceTickets, List.map_append, List.filterMap_append,
    List.map_flatMap, List.filterMap_flatMap, endpointPart, List.nil_append, List.map_flatMap,
    List.filterMap_flatMap, allResults]
  exact List.flatMap_congr fun p _ => perKind p

/-- In a live run the results come in some order, and none is missing. -/
theorem landedResults_perm (live : s.dryRun = false)
    (run : (project s endpoints catalog).Runs cloud moves report) :
    (landedResults moves).Perm (allResults cloud s catalog) := by
  have landed := run.landings_perm
  rw [(projectRun run).starts_eq live] at landed
  rw [← requestResult?_projectTickets endpoints live]
  exact landed.filterMap requestResult?

/-- A request is sent for each deletion that starts. -/
theorem sentRequests_eq (run : (project s endpoints catalog).Runs cloud moves report) :
    sentRequests moves = (starts moves).filterMap (·.deletion.request?) := by
  rw [sentRequests, calls, starts, List.filterMap_filterMap, List.filterMap_filterMap]
  refine List.filterMap_congr fun m hm => ?_
  cases m with
  | noted event => rfl
  | asked site call answer =>
    -- What is asked is no deletion, and so no request.
    have asks : ¬ call.IsDeletion := run.within (within_project endpoints catalog) _ hm
    cases call with
    | delete deletion => exact absurd trivial asks
    | _ => rfl
  | started ticket => rfl
  | landed landing => rfl

/-- There is a result for each deletion that is for a request. -/
theorem length_requestResults_land (cloud : Cloud) (tickets : List Ticket) :
    ((tickets.map cloud.land).filterMap requestResult?).length =
      (tickets.filterMap (·.deletion.request?)).length := by
  rw [List.filterMap_map, List.length_filterMap_eq_countP, List.length_filterMap_eq_countP]
  refine List.countP_congr fun ticket _ => ?_
  obtain ⟨site, request | ⟨endpoint, project, target⟩⟩ := ticket <;> rfl

/-- In a live run as many requests are sent as there are results. -/
theorem length_sentRequests (live : s.dryRun = false)
    (run : (project s endpoints catalog).Runs cloud moves report) :
    (sentRequests moves).length = (allResults cloud s catalog).length := by
  rw [sentRequests_eq run, (projectRun run).starts_eq live,
    ← requestResult?_projectTickets endpoints live, length_requestResults_land]

/-! ## Kinds that failed -/

/-- The calls on a kind that is swept are its block. -/
theorem callsIn_place (run : ProjectRun cloud s endpoints catalog moves report)
    (hp : p ∈ sweptKinds cloud s catalog) :
    (SweepUnit.kind p.service p.index).callsIn moves =
      kindCalls cloud s p.service p.index p.endpoint p.kind := by
  obtain ⟨target, declared, check, ofKind, addressed⟩ := mem_sweptKinds_iff.1 hp
  rw [run.callsIn_kind, kindBlock_eq declared ofKind, addressed]
  rw [apiState] at check
  rw [check]

theorem mem_kindCalls_iff {service index : Nat} {endpoint : Option EndpointOverride}
    {k : ResourceKind} {c : Site × Call} :
    c ∈ kindCalls cloud s service index endpoint k ↔
      (k.clearAllOnly = true → s.cutoff.isClearAll = true) ∧
        (c = (.listing service index, .listResources (listRequest s endpoint k)) ∨
          ∃ ticket ∈ carriedOut s (kindTickets cloud s service index endpoint k),
            (ticket.site, ticket.call) = c) := by
  rw [← not_passedOver_iff, kindCalls]
  split
  · rename_i passedOver
    exact iff_of_false (List.not_mem_nil) fun h => h.1 passedOver
  · rename_i swept
    rw [List.mem_cons, deletionCalls, List.mem_map]
    exact (and_iff_right swept).symm

/-- The calls at the sites of a kind that is swept are those of its block. -/
theorem mem_calls_of_place (run : ProjectRun cloud s endpoints catalog moves report)
    (hp : p ∈ sweptKinds cloud s catalog) {site : Site} {call : Call}
    (own : site.InKind p.service p.index) :
    (site, call) ∈ calls moves ↔
      (site, call) ∈ kindCalls cloud s p.service p.index p.endpoint p.kind := by
  have owned : (SweepUnit.kind p.service p.index).owns site = true := by
    rw [SweepUnit.owns_eq own.unit?_eq]
    simp [SweepUnit.covers]
  rw [← callsIn_place run hp, SweepUnit.callsIn, List.mem_filter]
  exact (and_iff_left owned).symm

/-- A kind that is swept and not passed over is listed. -/
theorem listing_mem_moves (run : (project s endpoints catalog).Runs cloud moves report)
    (hp : p ∈ sweptKinds cloud s catalog)
    (swept : p.kind.clearAllOnly = true → s.cutoff.isClearAll = true) :
    .asked (.listing p.service p.index) (.listResources (listRequest s p.endpoint p.kind))
      (cloud.answer (.listing p.service p.index)
        (.listResources (listRequest s p.endpoint p.kind))) ∈ moves := by
  have own : (Site.listing p.service p.index).InKind p.service p.index := ⟨rfl, rfl⟩
  refine run.asked_of_mem_calls ?_ id
  rw [mem_calls_of_place (projectRun run) hp own]
  exact mem_kindCalls_iff.2 ⟨swept, .inl rfl⟩

/-- What is listed at the site of a kind is the kind. -/
theorem listing_of_mem_moves (run : (project s endpoints catalog).Runs cloud moves report)
    (hp : p ∈ sweptKinds cloud s catalog) {request : ListRequest}
    {answer : (Call.listResources request).Answer}
    (asked : .asked (.listing p.service p.index) (.listResources request) answer ∈ moves) :
    (p.kind.clearAllOnly = true → s.cutoff.isClearAll = true) ∧
      request = listRequest s p.endpoint p.kind ∧
      cloud.answer (.listing p.service p.index) (.listResources request) = answer := by
  have own : (Site.listing p.service p.index).InKind p.service p.index := ⟨rfl, rfl⟩
  have called := mem_calls.2 (.inl ⟨answer, asked⟩)
  rw [mem_calls_of_place (projectRun run) hp own, mem_kindCalls_iff] at called
  obtain ⟨swept, listing | ⟨ticket, -, deletion⟩⟩ := called
  · cases listing
    exact ⟨swept, rfl, run.answer_eq asked⟩
  · cases congrArg Prod.snd deletion

/-- What starts at the sites of a kind are its deletions, if they are carried out. -/
theorem mem_starts_of_place (run : (project s endpoints catalog).Runs cloud moves report)
    (hp : p ∈ sweptKinds cloud s catalog) {ticket : Ticket}
    (own : ticket.site.InKind p.service p.index) :
    ticket ∈ starts moves ↔
      ticket ∈ carriedOut s (kindTickets cloud s p.service p.index p.endpoint p.kind) := by
  have called : (ticket.site, ticket.call) ∈ calls moves ↔ _ :=
    mem_calls_of_place (projectRun run) hp own
  rw [mem_kindCalls_iff] at called
  constructor
  · intro started
    obtain ⟨-, listing | ⟨other, carried, same⟩⟩ :=
      called.1 (mem_calls.2 (.inr ⟨ticket, mem_starts.1 started, rfl, rfl⟩))
    · cases congrArg Prod.snd listing
    · cases ticket
      cases other
      cases same
      exact carried
  · intro carried
    have swept : p.kind.clearAllOnly = true → s.cutoff.isClearAll = true := by
      rw [← not_passedOver_iff]
      intro passedOver
      rw [kindTickets, if_pos passedOver, carriedOut_nil] at carried
      cases carried
    rcases mem_calls.1 (called.2 ⟨swept, .inr ⟨ticket, carried, rfl⟩⟩) with
      ⟨answer, asked⟩ | ⟨other, started, sameSite, sameCall⟩
    · exact absurd trivial (run.within (within_project endpoints catalog) _ asked)
    · cases ticket
      cases other
      cases sameSite
      cases sameCall
      exact mem_starts.2 started

/-- In a dry run every result is good. -/
theorem live_of_failed {ticket : Ticket} {q : RequestResult}
    (ht : ticket ∈ kindTickets cloud s p.service p.index p.endpoint p.kind)
    (result : requestResult? ((recordedCloud cloud s).land ticket) = some q)
    (failed : q.2.isOk = false) : s.dryRun = false := by
  cases dry : s.dryRun with
  | false => rfl
  | true =>
    obtain ⟨r, names, scope, rfl⟩ := mem_kindTickets ht
    rw [recordedCloud_of_dry dry] at result
    cases result
    cases failed

/-- The deletions of a kind are at its sites. -/
theorem inKind_of_mem_kindTickets {service index : Nat} {endpoint : Option EndpointOverride}
    {k : ResourceKind} {ticket : Ticket}
    (h : ticket ∈ kindTickets cloud s service index endpoint k) :
    ticket.site.InKind service index := by
  obtain ⟨r, names, scope, rfl⟩ := mem_kindTickets h
  exact ⟨rfl, rfl⟩

/-- What landed at the sites of a kind are its deletions, if they are carried out. -/
theorem mem_landed_of_place (run : (project s endpoints catalog).Runs cloud moves report)
    (hp : p ∈ sweptKinds cloud s catalog) {l : Landing}
    (own : l.ticket.site.InKind p.service p.index) :
    .landed l ∈ moves ↔
      l.ticket ∈ carriedOut s (kindTickets cloud s p.service p.index p.endpoint p.kind) ∧
        cloud.land l.ticket = l := by
  rw [← mem_landings, run.landings_perm.mem_iff, List.mem_map]
  constructor
  · rintro ⟨ticket, started, rfl⟩
    exact ⟨(mem_starts_of_place run hp own).1 started, rfl⟩
  · rintro ⟨carried, landed⟩
    exact ⟨l.ticket, (mem_starts_of_place run hp own).2 carried, landed⟩

/-- A kind that counts against the run failed in its trace. -/
theorem failsIn_of_fails (run : (project s endpoints catalog).Runs cloud moves report)
    (hp : p ∈ sweptKinds cloud s catalog) (fails : p.fails cloud s = true) : p.FailsIn s moves := by
  rw [fails_eq_true_iff, exists_kindSelection_error_iff] at fails
  rcases fails with ⟨swept, unselected⟩ | ⟨counts, q, hq, failed⟩
  · have asked := listing_mem_moves run hp swept
    rcases listing : cloud.answer (.listing p.service p.index)
      (.listResources (listRequest s p.endpoint p.kind)) with error | items
    · rw [listing] at asked unselected
      exact .unlisted asked unselected
    · rw [listing] at asked unselected
      obtain ⟨error, defect⟩ := unselected
      exact .malformed asked defect
  · obtain ⟨ticket, ht, result⟩ := mem_results_iff.1 hq
    have live := live_of_failed ht result failed
    have landed : .landed (cloud.land ticket) ∈ moves :=
      (mem_landed_of_place run hp (inKind_of_mem_kindTickets ht)).2
        ⟨mem_carriedOut.2 ⟨live, ht⟩, rfl⟩
    obtain ⟨r, names, scope, rfl⟩ := mem_kindTickets ht
    rw [recordedCloud_of_live live] at result
    cases result
    exact .undeleted landed rfl failed counts

/-- A kind that failed in the trace of the run counts against it. -/
theorem fails_of_failsIn (run : (project s endpoints catalog).Runs cloud moves report)
    (hp : p ∈ sweptKinds cloud s catalog) (failsIn : p.FailsIn s moves) :
    p.fails cloud s = true := by
  rw [fails_eq_true_iff, exists_kindSelection_error_iff]
  cases failsIn with
  | unlisted asked counts =>
    obtain ⟨swept, rfl, listing⟩ := listing_of_mem_moves run hp asked
    refine .inl ⟨swept, ?_⟩
    rw [listing]
    exact counts
  | malformed asked defect =>
    obtain ⟨swept, rfl, listing⟩ := listing_of_mem_moves run hp asked
    refine .inl ⟨swept, ?_⟩
    rw [listing]
    exact ⟨_, defect⟩
  | @undeleted l _ landed ofKind failed counts =>
    have own : l.ticket.site.InKind p.service p.index := by
      rw [ofKind]
      exact ⟨rfl, rfl⟩
    obtain ⟨carried, result⟩ := (mem_landed_of_place run hp own).1 landed
    obtain ⟨live, ht⟩ := mem_carriedOut.1 carried
    obtain ⟨r, names, scope, ticket⟩ := mem_kindTickets ht
    refine .inr ⟨counts, (⟨p.kind, s.project, names, scope, p.endpoint⟩, l.result),
      mem_results_iff.2 ⟨l.ticket, ht, ?_⟩, failed⟩
    rw [recordedCloud_of_live live, result, requestResult?, ticket]

/-! ## The report -/

/-- What the report of a sweep says about its run. -/
structure ReportAccounts (cloud : Cloud) (s : Settings) (catalog : Catalog) (moves : List Move)
    (report : Report) : Prop where
  checked : ∀ i target, catalog.services[i]? = some target →
    .asked (.apiCheck i) (.checkApi s.project target.api) (apiState cloud s i target) ∈ moves
  disabledApis : report.disabledApis =
    (catalog.services.zipIdx.filter fun a => isDisabled cloud s a.2 a.1).map (·.1.api)
  failedApis : report.failedApis =
    (catalog.services.zipIdx.filter fun a => isUnknown cloud s a.2 a.1).map (·.1.api)
  kindsSwept : report.kindsSwept =
    ((catalog.services.zipIdx.filter fun a => isEnabled cloud s a.2 a.1).map
      (·.1.kinds.length)).sum
  /-- Every request that is sent has one result in the end. -/
  answered : ((landedResults moves).map Prod.fst).Perm (sentRequests moves)
  deletionCalls : s.dryRun = false → report.deletionCalls = (sentRequests moves).length
  deleted : s.dryRun = false →
    report.deleted = (((landedResults moves).filter (·.2.isOk)).map (·.1.names.length)).sum
  failedDeletions : s.dryRun = false →
    report.failedDeletions = (landedResults moves).countP fun q => !q.1.kind.tolerated && !q.2.isOk
  toleratedFailures : s.dryRun = false →
    report.toleratedFailures = (landedResults moves).countP fun q => q.1.kind.tolerated && !q.2.isOk
  /-- The kinds that count against the run are those that failed in it. -/
  fails : ∀ p ∈ sweptKinds cloud s catalog, p.fails cloud s = true ↔ p.FailsIn s moves
  failedKinds : report.failedKinds =
    ((sweptKinds cloud s catalog).filter (·.fails cloud s)).map (·.kind.title)

theorem isSome_counted? (q : RequestResult) :
    q.counted?.isSome = (!q.1.kind.tolerated && !q.2.isOk) := by
  cases tolerated : q.1.kind.tolerated with
  | false => simp [RequestResult.counted?, tolerated, RequestResult.isSome_failure?]
  | true => simp [RequestResult.counted?, tolerated]

/-- The results are for the requests that were sent. -/
theorem fst_landedResults_perm (run : (project s endpoints catalog).Runs cloud moves report) :
    ((landedResults moves).map Prod.fst).Perm (sentRequests moves) := by
  have sent : ((starts moves).map cloud.land).filterMap (fun l => (requestResult? l).map Prod.fst) =
      (starts moves).filterMap (·.deletion.request?) := by
    rw [List.filterMap_map]
    refine List.filterMap_congr fun ticket _ => ?_
    obtain ⟨site, request | ⟨endpoint, project, target⟩⟩ := ticket <;> rfl
  rw [landedResults, List.map_filterMap, sentRequests_eq run, ← sent]
  exact run.landings_perm.filterMap _

/-- Every service is checked. -/
theorem check_mem_moves (run : (project s endpoints catalog).Runs cloud moves report) {i : Nat}
    {target : Service} (declared : catalog.services[i]? = some target) :
    .asked (.apiCheck i) (.checkApi s.project target.api) (apiState cloud s i target) ∈ moves := by
  refine run.asked_of_mem_calls ?_ id
  rw [(projectRun run).calls_eq]
  refine List.mem_cons_of_mem _ (List.mem_append_right _ (List.mem_append_right _ ?_))
  have place : (target, i) ∈ catalog.services.zipIdx := List.mk_mem_zipIdx_iff_getElem?.2 declared
  exact List.mem_flatMap.2 ⟨(target, i), place, List.mem_cons_self⟩

/-- A sweep comes to its end, and under every schedule its report agrees with the trace of the run. -/
theorem reportAccounts_of_runs (cloud : Cloud) (s : Settings) (endpoints : List ClusterEndpoint)
    (catalog : Catalog) :
    (∃ moves report, (project s endpoints catalog).Runs cloud moves report) ∧
      ∀ moves report, (project s endpoints catalog).Runs cloud moves report →
        ReportAccounts cloud s catalog moves report := by
  refine ⟨⟨_, _, runs_project cloud endpoints catalog⟩, fun moves report run => ?_⟩
  have settled := (projectRun run).report_eq
  rw [projectReport_eq] at settled
  rw [settled]
  constructor
  case checked => exact fun i target declared => check_mem_moves run declared
  case disabledApis => rfl
  case failedApis => rfl
  case kindsSwept =>
    show (sweptKinds cloud s catalog).length = _
    rw [sweptKinds, List.length_flatMap]
    simp only [length_kindPlaces]
  case answered => exact fst_landedResults_perm run
  case deletionCalls => exact fun live => (length_sentRequests live run).symm
  case deleted =>
    intro live
    have sum := ((landedResults_perm live run).map (·.deleted)).sum_eq
    rw [← DeletionOutcome.sum_deleted]
    exact sum.symm
  case failedDeletions =>
    intro live
    simp only [← isSome_counted?]
    exact ((landedResults_perm live run).countP_eq _).symm
  case toleratedFailures => exact fun live => ((landedResults_perm live run).countP_eq _).symm
  case fails => exact fun p hp => ⟨failsIn_of_fails run hp, fails_of_failsIn run hp⟩
  case failedKinds => rfl

/-- A service whose kinds go wrong in different ways, one that is disabled and one that cannot be
checked. -/
def mixedCatalog : Catalog where
  services := [
    { api := "compute", kinds := [
      .of "compute" "disks", .of "compute" "images", .of "compute" "routes",
      { ResourceKind.of "compute" "snapshots" with tolerated := true },
      { ResourceKind.of "compute" "addresses" with tolerated := true }] },
    { api := "pubsub", kinds := [.of "pubsub" "topics"] },
    { api := "run", kinds := [.of "run" "jobs"] }]

/-- A cloud with a disk that stays, images without names, routes and snapshots that cannot be listed,
and an address that stays. -/
def mixedCloud : InMemory where
  listings := [("compute disks", [.named "kept", .named "gone"]), ("compute images", [{}]),
    ("compute addresses", [.named "kept"])]
  listFailures := ["compute routes", "compute snapshots"]
  protectedNames := ["kept"]
  disabledApis := ["pubsub"]
  failingApis := ["run"]

theorem reportAccounts_of_runs_mixed :
    ∃ moves report,
      (project { project := "p", cutoff := .clearAll, batchSize := 1 } [] mixedCatalog).Runs
        mixedCloud.cloud moves report ∧
      report.disabledApis = ["pubsub"] ∧ report.failedApis = ["run"] ∧ report.kindsSwept = 5 ∧
      report.failedKinds = ["compute disks", "compute images", "compute routes"] ∧
      report.deletionCalls = (sentRequests moves).length := by
  obtain ⟨⟨moves, report, run⟩, all⟩ := reportAccounts_of_runs mixedCloud.cloud
    { project := "p", cutoff := .clearAll, batchSize := 1 } [] mixedCatalog
  have accounts := all moves report run
  refine ⟨moves, report, run, accounts.disabledApis.trans (by decide +kernel),
    accounts.failedApis.trans (by decide +kernel), accounts.kindsSwept.trans (by decide +kernel),
    accounts.failedKinds.trans (by decide +kernel), accounts.deletionCalls rfl⟩

end Sweep
end CloudSweep
