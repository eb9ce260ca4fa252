/-
Dry runs. A sweep that is told to delete nothing only reads, reads what the real sweep reads in the
same order, and announces the requests that the real sweep sends. Its report has what the real report
has before any deletion fails, and all of it but the count of deleted clusters when none does.
-/
import CloudSweep.Call.InMemory
import CloudSweep.Proofs.Sweep.Comparison
import CloudSweep.Proofs.Sweep.Deletion

namespace CloudSweep

/-! ## What is compared -/

/-- Whether the call only asks. -/
def Call.isRead : Call → Bool
  | .checkApi .. | .listResources _ | .listSubnets .. | .describeSubnet .. | .listClusters .. => true
  | .activateAccount _ | .updateSubnet .. | .delete _ => false

/-- The request of a deletion of resources. -/
def Deletion.request? : Deletion → Option DeleteRequest
  | .resources request => some request
  | .cluster .. => none

/-- What a dry run has in common with a real one. -/
inductive Glimpse
  | read (site : Site) (call : Call)
  | deletion (request : DeleteRequest)
  /-- Something that a dry run must not do. -/
  | intervention

/-- A dry run shows what it reads and which deletions it announces, and should it do anything else,
that as well. -/
def dryView : View Glimpse where
  noted event := event.planned?.map .deletion
  asked site call := some (if call.isRead then .read site call else .intervention)
  started _ := some .intervention

/-- A real run shows what it reads and which deletions of resources it starts. -/
def liveView : View Glimpse where
  noted _ := none
  asked site call := if call.isRead then some (.read site call) else none
  started ticket := ticket.deletion.request?.map .deletion

/-- A dry run in one cloud and a real run in another one. -/
def rehearsal (cloud cloud' : Cloud) : Comparison Glimpse :=
  { first := cloud, second := cloud', left := dryView, right := liveView }

/-- Deletions never fail in the cloud. -/
def Cloud.Obliges (cloud : Cloud) : Prop :=
  ∀ site deletion, cloud.answer site (.delete deletion) = .ok ()

/-! ## Outcomes -/

/-- The first outcome has what the second has before any deletion; the two are the same if deletions
cannot fail. -/
structure DeletionOutcome.Foretells (obliging : Prop) (a b : DeletionOutcome) : Prop where
  calls : a.calls = b.calls
  eq : obliging → a = b

/-- The second endpoint was swept where the first was, and without failure if deletions cannot fail. -/
inductive EndpointOutcome.Foretells (obliging : Prop) : EndpointOutcome → EndpointOutcome → Prop
  | unreachable : Foretells obliging .unreachable .unreachable
  | malformed : Foretells obliging .malformed .malformed
  | swept {deleted failed : Nat} (faultless : obliging → failed = 0) :
      Foretells obliging (.swept 0 0) (.swept deleted failed)

/-- The first finding has what the second has before any deletion. -/
inductive Finding.Foretells (obliging : Prop) : Finding → Finding → Prop
  | subnets {o o' : Except SelectionError (List SubnetOutcome)} (alike : o.isOk = o'.isOk) :
      Foretells obliging (.subnets o) (.subnets o')
  | endpoint (name : String) {o o' : EndpointOutcome} (h : o.Foretells obliging o') :
      Foretells obliging (.endpoint name o) (.endpoint name o')
  | disabled (api : String) : Foretells obliging (.disabled api) (.disabled api)
  | unknown (api : String) : Foretells obliging (.unknown api) (.unknown api)
  | kind (k : ResourceKind) {o o' : KindOutcome} (h : Alike (DeletionOutcome.Foretells obliging) o o') :
      Foretells obliging (.kind k o) (.kind k o')

/-- The first report has what the second has before any deletion; if deletions cannot fail, all but the
count of deleted clusters is the same. -/
structure Report.Foretells (obliging : Prop) (a b : Report) : Prop where
  kindsSwept : a.kindsSwept = b.kindsSwept
  deletionCalls : a.deletionCalls = b.deletionCalls
  disabledApis : a.disabledApis = b.disabledApis
  failedApis : a.failedApis = b.failedApis
  subnetsFailed : a.subnetsFailed = b.subnetsFailed
  visited : a.clusters.visited = b.clusters.visited
  unreachable : a.clusters.unreachable = b.clusters.unreachable
  malformed : a.clusters.malformed = b.clusters.malformed
  eq : obliging → a = { b with clusters := { b.clusters with deleted := a.clusters.deleted } }

theorem Report.Foretells.add {obliging : Prop} {a b : Report} {x y : Finding}
    (h : a.Foretells obliging b) (related : x.Foretells obliging y) :
    (a.add x).Foretells obliging (b.add y) := by
  have eq := h.eq
  -- Where deletions cannot fail, the first report is written in terms of the second.
  cases related with
  | subnets alike =>
    refine { h with subnetsFailed := congrArg (!·) alike, eq := fun o => ?_ }
    rw [eq o]
    simp [Report.add, alike]
  | endpoint name related =>
    have visited := congrArg (· + 1) h.visited
    cases related with
    | unreachable =>
      refine { h with visited, unreachable := congrArg (· ++ [name]) h.unreachable, eq := fun o => ?_ }
      rw [eq o]
      simp [Report.add, ClusterReport.record]
    | malformed =>
      refine { h with visited, malformed := congrArg (· ++ [name]) h.malformed, eq := fun o => ?_ }
      rw [eq o]
      simp [Report.add, ClusterReport.record]
    | swept faultless =>
      refine { h with visited, eq := fun o => ?_ }
      rw [eq o]
      simp [Report.add, ClusterReport.record, faultless o]
  | disabled api =>
    refine { h with disabledApis := congrArg (· ++ [api]) h.disabledApis, eq := fun o => ?_ }
    rw [eq o]
    simp [Report.add, Report.recordService]
  | unknown api =>
    refine { h with failedApis := congrArg (· ++ [api]) h.failedApis, eq := fun o => ?_ }
    rw [eq o]
    simp [Report.add, Report.recordService]
  | kind k alike =>
    have kindsSwept := congrArg (· + 1) h.kindsSwept
    cases alike with
    | ok related =>
      have deletionCalls := congrArg₂ (· + ·) h.deletionCalls related.calls
      refine { h with kindsSwept, deletionCalls, eq := fun o => ?_ }
      rw [eq o, related.eq o]
      simp [Report.add, Report.recordKind, Report.recordDeletions]
    | error =>
      refine { h with kindsSwept, eq := fun o => ?_ }
      rw [eq o]
      simp [Report.add, Report.recordKind]

/-- A ledger that foretells another one adds up to a report that foretells the other's. -/
theorem Ledger.foretells_report {obliging : Prop} {a b : Ledger}
    (h : a.AgreeOn (fun _ => true) (Finding.Foretells obliging) b) :
    a.report.Foretells obliging b.report := by
  have fold {r r' : Report} (hr : r.Foretells obliging r') {a b : Ledger}
      (h : List.Forall₂ (fun x y => x.1 = y.1 ∧ x.2.Foretells obliging y.2) a b) :
      (r.addAll a).Foretells obliging (r'.addAll b) := by
    induction h generalizing r r' with
    | nil => exact hr
    | cons related _ ih => exact ih (hr.add related.2)
  simp only [AgreeOn, List.filter_true] at h
  exact fold ⟨rfl, rfl, rfl, rfl, rfl, rfl, rfl, rfl, fun _ => rfl⟩ h

namespace Sweep

open Program (Matches matches_bind matches_done matches_request matches_say matches_sayAll
  matches_of_shows matches_unseen_right shows_say shows_sayAll shows_request shows_deleteAll)

variable {cloud cloud' : Cloud} {s : Settings}

theorem discreet_rehearsal : (rehearsal cloud cloud').Discreet :=
  ⟨fun _ quiet => congrArg (Option.map Glimpse.deletion) quiet, fun _ _ => rfl⟩

/-- The deletions of a kind are for the requests that were planned. -/
theorem requests_requestTickets (service index : Nat) (requests : List DeleteRequest) :
    (requestTickets service index requests).filterMap (·.deletion.request?) = requests := by
  have started : (requestTickets service index requests).filterMap (·.deletion.request?) =
      requests.zipIdx.map Prod.fst := by
    rw [requestTickets, List.mapIdx_eq_zipIdx_map, List.filterMap_map, ← List.filterMap_eq_map]
    rfl
  rw [started, List.zipIdx_map_fst]

/-- What a dry run announces is what the real run starts. -/
theorem announced_eq_started (service index : Nat) (requests : List DeleteRequest) :
    (requests.map Event.wouldDelete).filterMap dryView.noted =
      (requestTickets service index requests).filterMap liveView.started := by
  have started : (requestTickets service index requests).filterMap liveView.started =
      requests.map Glimpse.deletion := by
    conv_rhs => rw [← requests_requestTickets service index requests, List.map_filterMap]
    rfl
  rw [started, List.filterMap_map, ← List.filterMap_eq_map]
  rfl

/-- Nothing is seen of clusters that are deleted. -/
theorem unseen_clusterTickets (index : Nat) (e : ClusterEndpoint) (targets : List ClusterTarget) :
    (clusterTickets s index e targets).filterMap liveView.started = [] := by
  refine List.filterMap_eq_nil_iff.2 fun ticket ht => ?_
  obtain ⟨i, target, -, rfl⟩ := mem_clusterTickets.1 ht
  rfl

theorem requestResults_of_obliges (obliges : cloud.Obliges) (service index : Nat)
    (requests : List DeleteRequest) :
    requestResults cloud service index requests = requests.map fun request => (request, .ok ()) := by
  have all : requestResults cloud service index requests =
      (requests.zipIdx.map Prod.fst).map fun request => (request, .ok ()) := by
    rw [requestResults, List.mapIdx_eq_zipIdx_map, List.map_map]
    exact List.map_congr_left fun r _ => congrArg (r.1, ·) (obliges _ _)
  rw [all, List.zipIdx_map_fst]

theorem delete_foretells (service index : Nat) (endpoint : Option EndpointOverride) (k : ResourceKind)
    (groups : Groups) :
    Matches (rehearsal cloud cloud') (DeletionOutcome.Foretells cloud'.Obliges)
      (delete (s.withDryRun true) service index endpoint k groups)
      (delete (s.withDryRun false) service index endpoint k groups) := by
  unfold delete
  dsimp only [Settings.withDryRun]
  split
  · exact matches_done ⟨rfl, fun _ => rfl⟩
  refine matches_say rfl rfl (matches_bind (matches_of_shows (shows_sayAll _) (shows_deleteAll _ _)
    (announced_eq_started ..)) ?_)
  rintro _ landed ⟨-, (perm : landed.Perm (List.map cloud'.land _))⟩
  have same := DeletionOutcome.ofResults_perm (perm.filterMap requestResult?)
  rw [requestResult?_land] at same
  refine matches_done ⟨?_, fun obliges => ?_⟩
  · rw [same.calls, DeletionOutcome.ofResults_eq]
    exact (length_requestResults _).symm
  · rw [requestResults_of_obliges obliges, DeletionOutcome.ofResults_ok] at same
    exact (same.eq_of_failures_nil rfl).symm

section Reads

variable (reads : ∀ site call, call.isRead = true → cloud.answer site call = cloud'.answer site call)
include reads

theorem agrees_of_isRead {site : Site} {call : Call} (read : call.isRead = true) :
    (rehearsal cloud cloud').Agrees site call := by
  refine ⟨reads site call read, ?_⟩
  simp [rehearsal, dryView, liveView, read]

theorem subnets_foretell :
    Matches (rehearsal cloud cloud') (fun o o' => o.isOk = o'.isOk) (subnets (s.withDryRun true))
      (subnets (s.withDryRun false)) := by
  have one (index : Nat) (target : Subnet) : Matches (rehearsal cloud cloud') (fun _ _ => True)
      (subnet (s.withDryRun true) index target) (subnet (s.withDryRun false) index target) := by
    refine matches_subnet discreet_rehearsal (agrees_of_isRead reads rfl) (fun _ _ => trivial)
      fun names => ?_
    refine matches_say rfl rfl (matches_unseen_right (shows_request _ _) fun answer _ => ?_)
    rcases answer with error | _
    · exact matches_unseen_right (shows_say _) fun _ _ => matches_done trivial
    · exact matches_done trivial
  refine (matches_subnets (agrees_of_isRead reads rfl) one).mono fun o o' alike => ?_
  cases alike <;> rfl

theorem endpoint_foretells (index : Nat) (e : ClusterEndpoint) :
    Matches (rehearsal cloud cloud') (EndpointOutcome.Foretells cloud'.Obliges)
      (endpoint (s.withDryRun true) index e) (endpoint (s.withDryRun false) index e) := by
  refine matches_endpoint discreet_rehearsal (agrees_of_isRead reads rfl) ?_ fun targets => ?_
  · simp only [List.forall_mem_cons]
    exact ⟨.unreachable, .malformed, .swept fun _ => rfl, fun _ h => nomatch h⟩
  refine matches_bind (matches_of_shows (shows_say _) (shows_deleteAll _ _) ?_) ?_
  · exact (unseen_clusterTickets index e targets).symm
  rintro _ landed ⟨-, (perm : landed.Perm (List.map cloud'.land _))⟩
  refine matches_done (.swept fun obliges => ?_)
  rw [perm.countP_eq, List.countP_eq_zero]
  intro l hl
  obtain ⟨ticket, -, rfl⟩ := List.mem_map.1 hl
  have landed : (cloud'.land ticket).result = .ok () := obliges ticket.site ticket.deletion
  simp [isFailure, landed]

theorem ledger_foretells (endpoints : List ClusterEndpoint) (catalog : Catalog) :
    Matches (rehearsal cloud cloud') (Ledger.AgreeOn (fun _ => true) (Finding.Foretells cloud'.Obliges))
      (ledger (s.withDryRun true) endpoints catalog) (ledger (s.withDryRun false) endpoints catalog) := by
  refine matches_ledger discreet_rehearsal endpoints catalog ?_ (fun i e => ?_) fun i target => ?_
  · exact (subnets_foretell reads).mono fun _ _ alike _ => .subnets alike
  · exact (endpoint_foretells reads i e).mono fun _ _ h _ name => .endpoint name h
  refine matches_service discreet_rehearsal (agrees_of_isRead reads rfl)
    (fun api => ⟨.disabled api, .unknown api⟩) fun j k => ?_
  refine (matches_reportedKind discreet_rehearsal (matches_kind discreet_rehearsal
    (agrees_of_isRead reads rfl) ⟨rfl, fun _ => rfl⟩ fun groups =>
      delete_foretells i j target.endpoint k groups)).mono ?_
  rintro ⟨k, o⟩ ⟨_, o'⟩ ⟨rfl, alike⟩ -
  exact .kind k alike

end Reads

end Sweep

/-! ## What the runs show -/

/-- The requests that some moves announce, in order. -/
def announced (moves : List Move) : List DeleteRequest :=
  moves.filterMap fun
    | .noted event => event.planned?
    | .asked .. | .started _ | .landed _ => none

/-- The requests that some moves send, in order. -/
def sent (moves : List Move) : List DeleteRequest := (starts moves).filterMap (·.deletion.request?)

namespace Glimpse

/-- The call, if something is read. -/
def read? : Glimpse → Option (Site × Call)
  | .read site call => some (site, call)
  | .deletion _ | .intervention => none

/-- The request, if something is to be deleted. -/
def request? : Glimpse → Option DeleteRequest
  | .deletion request => some request
  | .read .. | .intervention => none

end Glimpse

variable {moves : List Move}

theorem reads_dryView :
    (dryView.of moves).filterMap Glimpse.read? = (calls moves).filter (·.2.isRead) := by
  rw [View.of, calls, List.filterMap_filterMap, List.filter_filterMap]
  refine List.filterMap_congr fun m _ => ?_
  cases m with
  | noted event => simp only [View.see?, dryView]; cases event.planned? <;> rfl
  | asked site call _ => cases call <;> rfl
  | started _ | landed _ => rfl

theorem reads_liveView :
    (liveView.of moves).filterMap Glimpse.read? = (calls moves).filter (·.2.isRead) := by
  rw [View.of, calls, List.filterMap_filterMap, List.filter_filterMap]
  refine List.filterMap_congr fun m _ => ?_
  cases m with
  | noted _ | landed _ => rfl
  | asked site call _ => cases call <;> rfl
  | started ticket => simp only [View.see?, liveView]; cases ticket.deletion.request? <;> rfl

theorem requests_dryView : (dryView.of moves).filterMap Glimpse.request? = announced moves := by
  rw [View.of, announced, List.filterMap_filterMap]
  refine List.filterMap_congr fun m _ => ?_
  cases m with
  | noted event => simp only [View.see?, dryView]; cases event.planned? <;> rfl
  | asked site call _ => cases call <;> rfl
  | started _ | landed _ => rfl

theorem requests_liveView : (liveView.of moves).filterMap Glimpse.request? = sent moves := by
  rw [View.of, sent, starts, List.filterMap_filterMap, List.filterMap_filterMap]
  refine List.filterMap_congr fun m _ => ?_
  cases m with
  | noted _ | landed _ => rfl
  | asked site call _ => cases call <;> rfl
  | started ticket =>
    simp only [View.see?, liveView, Move.started?, Option.bind_some]
    cases ticket.deletion.request? <;> rfl

/-- A real run never shows what a dry run must not do. -/
theorem intervention_not_mem_liveView : .intervention ∉ liveView.of moves := by
  intro h
  obtain ⟨m, -, h⟩ := List.mem_filterMap.1 h
  cases m with
  | noted _ | landed _ => cases h
  | asked site call _ => cases call <;> cases h
  | started ticket =>
    obtain ⟨_, -, h⟩ := Option.map_eq_some_iff.1 h
    cases h

theorem intervention_mem_dryView {site : Site} {call : Call} (h : (site, call) ∈ calls moves)
    (unread : call.isRead = false) : .intervention ∈ dryView.of moves := by
  rcases mem_calls.1 h with ⟨answer, h⟩ | ⟨ticket, h, -, -⟩
  · refine List.mem_filterMap.2 ⟨_, h, ?_⟩
    simp [View.see?, dryView, unread]
  · exact List.mem_filterMap.2 ⟨_, h, rfl⟩

/-! ## Projects -/

/-- The cloud, but no deletion fails in it. -/
def Cloud.obliging (cloud : Cloud) : Cloud where
  answer site
    | .delete _ => .ok ()
    | call => cloud.answer site call

theorem Cloud.obliges_obliging (cloud : Cloud) : cloud.obliging.Obliges := fun _ _ => rfl

theorem Cloud.answer_obliging {cloud : Cloud} {site : Site} {call : Call} (h : ¬ call.IsDeletion) :
    cloud.obliging.answer site call = cloud.answer site call := by
  cases call with
  | delete _ => exact absurd trivial h
  | _ => rfl

theorem Call.isRead.not_isDeletion {call : Call} (h : call.isRead = true) : ¬ call.IsDeletion := by
  cases call with
  | delete _ => cases h
  | _ => exact id

namespace Sweep

variable {cloud : Cloud} {s : Settings} {endpoints : List ClusterEndpoint} {catalog : Catalog}
  {report : Report}

/-- A sweep in which no deletion failed could have been one of the obliging cloud. -/
theorem runs_obliging (run : (project s endpoints catalog).Runs cloud moves report)
    (landed : ∀ l ∈ landings moves, l.result.isOk = true) :
    (project s endpoints catalog).Runs cloud.obliging moves report := by
  refine run.of_answers (fun site call answer h => ?_) fun l hl => ?_
  · exact Cloud.answer_obliging (run.within (within_project endpoints catalog) _ h)
  · have ok := landed l (mem_landings.2 hl)
    cases hr : l.result with
    | ok => rfl
    | error => simp [hr] at ok

/-- A dry run against one cloud and a real run against another one, in which the same is read: the dry
run reads what the real run reads, and does nothing else; it announces the requests that the real run
sends; and its report foretells the real one, all but the count of deleted clusters if no deletion
fails. -/
theorem dryRun_foretells (cloud cloud' : Cloud) (s : Settings) (endpoints : List ClusterEndpoint)
    (catalog : Catalog)
    (reads : ∀ site call, call.isRead = true → cloud.answer site call = cloud'.answer site call) :
    (∃ moves report, (project (s.withDryRun true) endpoints catalog).Runs cloud moves report) ∧
      (∃ moves report, (project (s.withDryRun false) endpoints catalog).Runs cloud' moves report) ∧
      ∀ moves report moves' report',
        (project (s.withDryRun true) endpoints catalog).Runs cloud moves report →
        (project (s.withDryRun false) endpoints catalog).Runs cloud' moves' report' →
        (∀ c ∈ calls moves, c.2.isRead = true) ∧
        calls moves = (calls moves').filter (·.2.isRead) ∧
        announced moves = sent moves' ∧
        report.Foretells (∀ l ∈ landings moves', l.result.isOk = true) report' := by
  refine ⟨⟨_, _, runs_project cloud endpoints catalog⟩, ⟨_, _, runs_project cloud' endpoints catalog⟩,
    ?_⟩
  intro moves report moves' report' run run'
  -- Both runs keep a ledger, and so does the real run among clouds in which no deletion fails.
  have foretold {cloud' : Cloud} (run' : (project (s.withDryRun false) endpoints catalog).Runs cloud'
      moves' report')
      (reads : ∀ site call, call.isRead = true → cloud.answer site call = cloud'.answer site call) :
      dryView.of moves = liveView.of moves' ∧ report.Foretells cloud'.Obliges report' := by
    obtain ⟨found, kept, rfl⟩ := runs_project_iff.1 run
    obtain ⟨found', kept', rfl⟩ := runs_project_iff.1 run'
    exact (ledger_foretells reads endpoints catalog _ _ _ _ kept kept').imp_right
      Ledger.foretells_report
  obtain ⟨seen, foretells⟩ := foretold run' reads
  have harmless : ∀ c ∈ calls moves, c.2.isRead = true := by
    rintro ⟨site, call⟩ hc
    rcases read : call.isRead with _ | _
    · exact absurd (seen ▸ intervention_mem_dryView hc read) intervention_not_mem_liveView
    · rfl
  refine ⟨harmless, ?_, ?_, { foretells with eq := fun landed => ?_ }⟩
  · rw [← reads_liveView, ← seen, reads_dryView, List.filter_eq_self.2 harmless]
  · rw [← requests_dryView, seen, requests_liveView]
  · refine (foretold (runs_obliging run' landed) fun site call read => ?_).2.eq
      cloud'.obliges_obliging
    rw [reads site call read, Cloud.answer_obliging (Call.isRead.not_isDeletion read)]

/-- A disk to delete, and a cluster. -/
def diskAndCluster : InMemory where
  listings := [("compute disks", [.named "d"])]
  clusters := [("https://test/", [
    { name := some "c", createTime := some "2020-01-01T00:00:00Z", zone := some "z" }])]

/-- An endpoint at which there is a cluster. -/
def oneEndpoint : List ClusterEndpoint := [{ name := "test", url := "https://test/" }]

/-- A catalog with nothing but disks. -/
def oneKind : Catalog where
  services := [{ api := "compute.googleapis.com", kinds := [.of "compute" "disks"] }]

/-- Settings under which everything goes. -/
def everything : Settings where
  project := "p"
  cutoff := .clearAll

theorem dryRun_foretells_disk :
    (∀ site call, call.isRead = true →
      diskAndCluster.cloud.answer site call = diskAndCluster.cloud.answer site call) ∧
    ∃ moves report moves' report',
      (project (everything.withDryRun true) oneEndpoint oneKind).Runs diskAndCluster.cloud moves report ∧
      (project (everything.withDryRun false) oneEndpoint oneKind).Runs diskAndCluster.cloud moves'
        report' ∧
      announced moves = sent moves' ∧ (sent moves').length = 1 ∧
      report = { report' with
        clusters := { report'.clusters with deleted := report.clusters.deleted } } ∧
      report.clusters.deleted = 0 ∧ report'.clusters.deleted = 1 := by
  obtain ⟨-, -, all⟩ := dryRun_foretells diskAndCluster.cloud diskAndCluster.cloud everything
    oneEndpoint oneKind fun _ _ _ => rfl
  have run := runs_project (s := everything.withDryRun true) diskAndCluster.cloud oneEndpoint oneKind
  have run' := runs_project (s := everything.withDryRun false) diskAndCluster.cloud oneEndpoint oneKind
  obtain ⟨-, -, same, foretells⟩ := all _ _ _ _ run run'
  refine ⟨fun _ _ _ => rfl, _, _, _, _, run, run', same, by decide +kernel, ?_, by decide +kernel,
    by decide +kernel⟩
  exact foretells.eq (by decide +kernel)

end Sweep
end CloudSweep
