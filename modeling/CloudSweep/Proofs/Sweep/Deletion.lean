/-
Deletions of a kind come to the same whatever the order in which they land. The pool hands results
over as they come in; the outcome is that of the requests of the plan one after the other, but for
the order of its failures, and it tallies with what the cloud answered to each of them.
-/
import CloudSweep.Call.InMemory
import CloudSweep.Proofs.Deletion.Outcome
import CloudSweep.Proofs.Deletion.Plan
import CloudSweep.Proofs.Sweep.Footprint
import CloudSweep.Proofs.Sweep.Runs

namespace CloudSweep.Sweep

variable {cloud : Cloud} {s : Settings} {moves : List Move} {service index : Nat}
  {endpoint : Option EndpointOverride} {k : ResourceKind} {groups : Groups}
  {outcome : DeletionOutcome}

/-- The results of requests in this cloud, in the order of the plan. -/
def requestResults (cloud : Cloud) (service index : Nat) (requests : List DeleteRequest) :
    List RequestResult :=
  requests.mapIdx fun r request =>
    (request, cloud.answer (.deletion service index r) (.delete (.resources request)))

@[simp] theorem length_requestResults (requests : List DeleteRequest) :
    (requestResults cloud service index requests).length = requests.length := by
  simp [requestResults]

theorem requestResult?_land (requests : List DeleteRequest) :
    ((requestTickets service index requests).map cloud.land).filterMap requestResult? =
      requestResults cloud service index requests := by
  rw [requestTickets, requestResults, List.mapIdx_eq_zipIdx_map, List.mapIdx_eq_zipIdx_map,
    List.map_map, List.filterMap_map, ← List.filterMap_eq_map]
  rfl

theorem mem_requestResults {requests : List DeleteRequest} {p : RequestResult} :
    p ∈ requestResults cloud service index requests ↔
      ∃ ticket ∈ requestTickets service index requests,
        requestResult? (cloud.land ticket) = some p := by
  rw [← requestResult?_land, List.filterMap_map, List.mem_filterMap]
  rfl

/-- The requests of a plan are for its kind. -/
theorem kind_of_mem_requestResults {project : String} {batchSize : Nat} {p : RequestResult}
    (h : p ∈ requestResults cloud service index (k.plan groups project batchSize endpoint)) :
    p.1.kind = k := by
  obtain ⟨r, hr, rfl⟩ := List.mem_mapIdx.1 h
  obtain ⟨_, _, _, _, request_eq⟩ := ResourceKind.mem_plan_iff.1 (List.getElem_mem hr)
  rw [← request_eq]

/-- What lands comes to the same as the plan. -/
theorem DeleteRun.sameUpToOrder (live : s.dryRun = false)
    (run : DeleteRun cloud s service index endpoint k groups moves outcome) :
    outcome.SameUpToOrder (.ofResults (requestResults cloud service index
      (k.plan groups s.project s.batchSize endpoint))) := by
  cases run with
  | nothing empty =>
    rw [empty]
    exact .refl {}
  | dry _ _ dry => exact absurd (live.symm.trans dry) Bool.false_ne_true
  | live planned _ _ pool =>
    rw [planned, ← requestResult?_land]
    exact DeletionOutcome.ofResults_perm (pool.finished.2.2.filterMap requestResult?)

theorem DeleteRun.tallies (live : s.dryRun = false)
    (run : DeleteRun cloud s service index endpoint k groups moves outcome) :
    outcome.Tallies k (requestResults cloud service index
      (k.plan groups s.project s.batchSize endpoint)) :=
  (DeletionOutcome.tallies_ofResults fun _ hp => kind_of_mem_requestResults hp).of_sameUpToOrder
    (run.sameUpToOrder live)

/-- Deletions of a kind come to an end, and under every schedule they have the outcome of the planned
requests one after the other, up to the order of failures. -/
theorem delete_outcome (cloud : Cloud) (s : Settings) (service index : Nat)
    (endpoint : Option EndpointOverride) (k : ResourceKind) (groups : Groups)
    (live : s.dryRun = false) :
    (∃ moves outcome, (delete s service index endpoint k groups).Runs cloud moves outcome) ∧
      ∀ moves outcome, (delete s service index endpoint k groups).Runs cloud moves outcome →
        outcome.SameUpToOrder (.ofResults (requestResults cloud service index
          (k.plan groups s.project s.batchSize endpoint))) ∧
        outcome.calls = (k.plan groups s.project s.batchSize endpoint).length ∧
        outcome.Tallies k (requestResults cloud service index
          (k.plan groups s.project s.batchSize endpoint)) := by
  constructor
  · have within := (within_delete (s := s) service index endpoint k groups).mono (fun _ _ h => h)
      fun _ _ h => h.room
    exact ⟨_, _, Program.runs_run cloud within⟩
  · intro moves outcome run
    have tallies := (deleteRun run).tallies live
    refine ⟨(deleteRun run).sameUpToOrder live, ?_, tallies⟩
    rw [tallies.calls, length_requestResults]

/-- Two networks, one to a request, and two requests at a time. -/
def networkDeletion : Program DeletionOutcome :=
  delete { project := "p", cutoff := .clearAll, batchSize := 1, workers := 2 } 0 0 none
    (.of "compute" "networks") [{ scopeValue := "", names := ["kept", "gone"] }]

/-- A cloud that does not delete one of them. -/
def networkCloud : InMemory := { protectedNames := ["kept"] }

theorem delete_outcome_networks :
    (∃ moves outcome, networkDeletion.Runs networkCloud.cloud moves outcome) ∧
      ∀ moves outcome, networkDeletion.Runs networkCloud.cloud moves outcome →
        outcome.calls = 2 ∧ outcome.deleted = 1 ∧ outcome.isFailed = true := by
  obtain ⟨ends, all⟩ := delete_outcome networkCloud.cloud
    { project := "p", cutoff := .clearAll, batchSize := 1, workers := 2 } 0 0 none
    (.of "compute" "networks") [{ scopeValue := "", names := ["kept", "gone"] }] rfl
  refine ⟨ends, fun moves outcome run => ?_⟩
  obtain ⟨same, calls, tallies⟩ := all moves outcome run
  refine ⟨calls.trans (by decide +kernel), same.deleted.trans (by decide +kernel), ?_⟩
  exact tallies.failed.2 (by decide +kernel)

end CloudSweep.Sweep
