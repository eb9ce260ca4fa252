/-
When a report is a success. Each thing that a run reports on is fine or is not, and the report
succeeds when all of them are: the endpoints, the services and the kinds of each service. What became
of the subnets has no say in it.
-/
import CloudSweep.Proofs.Deletion.Outcome
import CloudSweep.Report

namespace CloudSweep

/-! ## What is fine -/

/-- The endpoint does not count against a run. -/
def EndpointOutcome.IsFine : EndpointOutcome → Prop
  | .unreachable => True
  | .malformed => False
  | .swept _ failed => failed = 0

/-- How many clusters of the endpoint were deleted. -/
def EndpointOutcome.deleted : EndpointOutcome → Nat
  | .unreachable | .malformed => 0
  | .swept deleted _ => deleted

/-- How many deletions of clusters of the endpoint failed. -/
def EndpointOutcome.failed : EndpointOutcome → Nat
  | .unreachable | .malformed => 0
  | .swept _ failed => failed

/-- The kind does not count against a run. -/
def KindOutcome.IsFine : KindOutcome → Prop
  | .ok outcome => outcome.isFailed = false
  | .error _ => False

/-- The service does not count against a run, and neither does any of its kinds. -/
def ServiceOutcome.IsFine : ServiceOutcome → Prop
  | .disabled => True
  | .unknown => False
  | .swept kinds => ∀ k ∈ kinds, KindOutcome.IsFine k.2

/-- Whether the kind counts against a run. -/
def KindOutcome.isFailed : KindOutcome → Bool
  | .ok outcome => outcome.isFailed
  | .error _ => true

/-- What is recorded of the deletions of the kind. -/
def KindOutcome.recorded : KindOutcome → DeletionOutcome
  | .ok outcome => outcome
  | .error _ => {}

namespace ServiceOutcome

/-- Whether the service is not enabled. -/
def isDisabled : ServiceOutcome → Bool
  | .disabled => true
  | .unknown | .swept _ => false

/-- Whether it could not be told if the service is enabled. -/
def isUnknown : ServiceOutcome → Bool
  | .unknown => true
  | .disabled | .swept _ => false

/-- The kinds of the service that were swept, in order. -/
def kinds : ServiceOutcome → List (ResourceKind × KindOutcome)
  | .swept kinds => kinds
  | .disabled | .unknown => []

end ServiceOutcome

/-- A fold keeps a property when the property held at its start and each element is fine. -/
theorem foldl_iff {α β : Type} {f : β → α → β} (good : β → Prop) (fine : α → Prop)
    (step : ∀ b a, good (f b a) ↔ good b ∧ fine a) (as : List α) (b : β) :
    good (as.foldl f b) ↔ good b ∧ ∀ a ∈ as, fine a := by
  induction as generalizing b with
  | nil => simp
  | cons a as ih => rw [List.foldl_cons, ih, step, List.forall_mem_cons, and_assoc]

/-! ## Reports on clusters -/

namespace ClusterReport

theorem isFailed_eq_false_iff (r : ClusterReport) :
    r.isFailed = false ↔ r.malformed = [] ∧ r.failedDeletions = 0 := by
  unfold isFailed
  rw [Bool.or_eq_false_iff, Bool.not_eq_false', List.isEmpty_iff, decide_eq_false_iff_not,
    Nat.not_lt, Nat.le_zero]

/-- The report on endpoints, field by field. -/
theorem ofOutcomes_eq (outcomes : List (String × EndpointOutcome)) :
    ofOutcomes outcomes =
      { visited := outcomes.length
        unreachable := (outcomes.filter (·.2 = .unreachable)).map (·.1)
        malformed := (outcomes.filter (·.2 = .malformed)).map (·.1)
        deleted := (outcomes.map (·.2.deleted)).sum
        failedDeletions := (outcomes.map (·.2.failed)).sum } := by
  -- The fold adds to whatever report it starts from.
  have fold (r : ClusterReport) :
      outcomes.foldl (fun r o => r.record o.1 o.2) r =
        { visited := r.visited + outcomes.length
          unreachable := r.unreachable ++ (outcomes.filter (·.2 = .unreachable)).map (·.1)
          malformed := r.malformed ++ (outcomes.filter (·.2 = .malformed)).map (·.1)
          deleted := r.deleted + (outcomes.map (·.2.deleted)).sum
          failedDeletions := r.failedDeletions + (outcomes.map (·.2.failed)).sum } := by
    induction outcomes generalizing r with
    | nil => simp
    | cons o rest ih =>
      obtain ⟨name, outcome⟩ := o
      rw [List.foldl_cons, ih]
      cases outcome with
      | unreachable =>
        simp [record, EndpointOutcome.deleted, EndpointOutcome.failed]
        omega
      | malformed =>
        simp [record, EndpointOutcome.deleted, EndpointOutcome.failed]
        omega
      | swept deleted failed =>
        simp [record, EndpointOutcome.deleted, EndpointOutcome.failed]
        omega
  refine (fold {}).trans ?_
  simp

theorem isFailed_eq_true_iff (r : ClusterReport) :
    r.isFailed = true ↔ r.malformed ≠ [] ∨ 0 < r.failedDeletions := by
  rw [← Bool.not_eq_false, isFailed_eq_false_iff, not_and_or, Nat.pos_iff_ne_zero]

theorem isFailed_record (r : ClusterReport) (endpoint : String) (outcome : EndpointOutcome) :
    (r.record endpoint outcome).isFailed = false ↔ r.isFailed = false ∧ outcome.IsFine := by
  rw [isFailed_eq_false_iff, isFailed_eq_false_iff]
  cases outcome with
  | unreachable => simp [record, EndpointOutcome.IsFine]
  | malformed => simp [record, EndpointOutcome.IsFine]
  | swept deleted failed => simp [record, EndpointOutcome.IsFine, and_assoc]

theorem isFailed_ofOutcomes (outcomes : List (String × EndpointOutcome)) :
    (ofOutcomes outcomes).isFailed = false ↔ ∀ o ∈ outcomes, o.2.IsFine := by
  have fold := foldl_iff (fun r : ClusterReport => r.isFailed = false)
    (fun o : String × EndpointOutcome => o.2.IsFine) (fun r o => isFailed_record r o.1 o.2)
  exact (fold outcomes {}).trans (and_iff_right rfl)

end ClusterReport

/-! ## Reports -/

namespace Report

theorem isSuccess_iff (r : Report) :
    r.isSuccess = true ↔ r.failedKinds = [] ∧ r.failedApis = [] ∧ r.clusters.isFailed = false := by
  simp [isSuccess, and_assoc]

theorem exitCode_eq_zero (r : Report) : r.exitCode = 0 ↔ r.isSuccess = true := by
  simp [exitCode]

theorem isSuccess_recordKind (r : Report) (k : ResourceKind) (outcome : KindOutcome) :
    (r.recordKind k outcome).isSuccess = true ↔ r.isSuccess = true ∧ outcome.IsFine := by
  rw [isSuccess_iff, isSuccess_iff]
  cases outcome with
  | error error => simp [recordKind, KindOutcome.IsFine]
  | ok outcome =>
    by_cases h : outcome.isFailed = true
    · simp [recordKind, recordDeletions, KindOutcome.IsFine, h]
    · simp [recordKind, recordDeletions, KindOutcome.IsFine, h]

theorem isSuccess_recordService (r : Report) (api : String) (outcome : ServiceOutcome) :
    (r.recordService api outcome).isSuccess = true ↔ r.isSuccess = true ∧ outcome.IsFine := by
  cases outcome with
  | disabled => simp [recordService, isSuccess_iff, ServiceOutcome.IsFine]
  | unknown => simp [recordService, isSuccess_iff, ServiceOutcome.IsFine]
  | swept kinds =>
    exact foldl_iff (fun r : Report => r.isSuccess = true)
      (fun k : ResourceKind × KindOutcome => KindOutcome.IsFine k.2)
      (fun r k => isSuccess_recordKind r k.1 k.2) kinds r

/-- The report with the kinds of a service, field by field. -/
theorem foldl_recordKind_eq (r : Report) (kinds : List (ResourceKind × KindOutcome)) :
    kinds.foldl (fun r k => r.recordKind k.1 k.2) r =
      { r with
        kindsSwept := r.kindsSwept + kinds.length
        failedKinds := r.failedKinds ++ (kinds.filter (·.2.isFailed)).map (·.1.title)
        deletionCalls := r.deletionCalls + (kinds.map (·.2.recorded.calls)).sum
        deleted := r.deleted + (kinds.map (·.2.recorded.deleted)).sum
        failedDeletions := r.failedDeletions + (kinds.map (·.2.recorded.failures.length)).sum
        toleratedFailures := r.toleratedFailures + (kinds.map (·.2.recorded.tolerated)).sum } := by
  induction kinds generalizing r with
  | nil => simp
  | cons k kinds ih =>
    obtain ⟨k, error | outcome⟩ := k
    · rw [List.foldl_cons, ih]
      simp [recordKind, KindOutcome.isFailed, KindOutcome.recorded]
      omega
    · rw [List.foldl_cons, ih]
      by_cases failed : outcome.isFailed = true
      · simp [recordKind, recordDeletions, KindOutcome.isFailed, KindOutcome.recorded, failed]
        omega
      · simp [recordKind, recordDeletions, KindOutcome.isFailed, KindOutcome.recorded, failed]
        omega

/-- The report with services, field by field. -/
theorem recordServices_eq (r : Report) (outcomes : List (String × ServiceOutcome)) :
    r.recordServices outcomes =
      { r with
        disabledApis := r.disabledApis ++ (outcomes.filter (·.2.isDisabled)).map (·.1)
        failedApis := r.failedApis ++ (outcomes.filter (·.2.isUnknown)).map (·.1)
        kindsSwept := r.kindsSwept + (outcomes.flatMap (·.2.kinds)).length
        failedKinds := r.failedKinds ++
          ((outcomes.flatMap (·.2.kinds)).filter (·.2.isFailed)).map (·.1.title)
        deletionCalls := r.deletionCalls +
          ((outcomes.flatMap (·.2.kinds)).map (·.2.recorded.calls)).sum
        deleted := r.deleted + ((outcomes.flatMap (·.2.kinds)).map (·.2.recorded.deleted)).sum
        failedDeletions := r.failedDeletions +
          ((outcomes.flatMap (·.2.kinds)).map (·.2.recorded.failures.length)).sum
        toleratedFailures := r.toleratedFailures +
          ((outcomes.flatMap (·.2.kinds)).map (·.2.recorded.tolerated)).sum } := by
  show outcomes.foldl (fun r o => r.recordService o.1 o.2) r = _
  induction outcomes generalizing r with
  | nil => simp
  | cons o outcomes ih =>
    obtain ⟨api, _ | _ | kinds⟩ := o
    · rw [List.foldl_cons, ih]
      simp [recordService, ServiceOutcome.isDisabled, ServiceOutcome.isUnknown, ServiceOutcome.kinds]
    · rw [List.foldl_cons, ih]
      simp [recordService, ServiceOutcome.isDisabled, ServiceOutcome.isUnknown, ServiceOutcome.kinds]
    · have step : r.recordService api (.swept kinds) =
          kinds.foldl (fun r k => r.recordKind k.1 k.2) r := rfl
      rw [List.foldl_cons, ih, step, foldl_recordKind_eq]
      simp [ServiceOutcome.isDisabled, ServiceOutcome.isUnknown, ServiceOutcome.kinds, Nat.add_assoc]

/-- No service has a say in whether the subnets failed. -/
theorem subnetsFailed_recordServices (r : Report) (outcomes : List (String × ServiceOutcome)) :
    (r.recordServices outcomes).subnetsFailed = r.subnetsFailed := by
  rw [recordServices_eq]

theorem isSuccess_recordServices (r : Report) (outcomes : List (String × ServiceOutcome)) :
    (r.recordServices outcomes).isSuccess = true ↔
      r.isSuccess = true ∧ ∀ o ∈ outcomes, o.2.IsFine :=
  foldl_iff (fun r : Report => r.isSuccess = true)
    (fun o : String × ServiceOutcome => o.2.IsFine)
    (fun r o => isSuccess_recordService r o.1 o.2) outcomes r

end Report
end CloudSweep
