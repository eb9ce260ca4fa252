/-
Outcomes add up. Results are recorded one by one, but what they come to can be read off all of them
at once: the number of requests, the names in those that succeeded, and the failures, told apart by
whether their kind is tolerated. Only the order of the failures depends on that of the results.
-/
import CloudSweep.Deletion.Outcome
import Mathlib.Algebra.BigOperators.Group.List.Basic
import Mathlib.Algebra.GroupWithZero.Nat
import Mathlib.Data.List.Perm.Basic

namespace CloudSweep

@[simp] theorem isOk_ok {ε α : Type} (a : α) : (Except.ok a : Except ε α).isOk = true := rfl

@[simp] theorem isOk_error {ε α : Type} (error : ε) : (Except.error error : Except ε α).isOk = false :=
  rfl

/-- A request with its result. -/
abbrev RequestResult := DeleteRequest × Except CallError Unit

namespace RequestResult

/-- The names that are gone. -/
def deleted (p : RequestResult) : Nat := if p.2.isOk then p.1.names.length else 0

/-- The failure, if the request failed. -/
def failure? (p : RequestResult) : Option DeletionFailure :=
  match p.2 with
  | .ok () => none
  | .error error => some { target := p.1.describe, error }

/-- The failure, if it counts. -/
def counted? (p : RequestResult) : Option DeletionFailure :=
  if p.1.kind.tolerated then none else p.failure?

/-- The request failed, but its kind is tolerated. -/
def isExcused (p : RequestResult) : Bool := p.1.kind.tolerated && !p.2.isOk

theorem isSome_failure? (p : RequestResult) : p.failure?.isSome = !p.2.isOk := by
  obtain ⟨request, error | ⟨⟩⟩ := p <;> rfl

end RequestResult

namespace DeletionOutcome

variable {results : List RequestResult} {k : ResourceKind}

/-- Two outcomes are the same but for the order of their failures. -/
structure SameUpToOrder (a b : DeletionOutcome) : Prop where
  calls : a.calls = b.calls
  deleted : a.deleted = b.deleted
  failures : a.failures.Perm b.failures
  tolerated : a.tolerated = b.tolerated

theorem SameUpToOrder.refl (o : DeletionOutcome) : o.SameUpToOrder o := ⟨rfl, rfl, .refl _, rfl⟩

theorem SameUpToOrder.isFailed_eq {a b : DeletionOutcome} (same : a.SameUpToOrder b) :
    a.isFailed = b.isFailed := by
  rw [isFailed, isFailed, same.failures.isEmpty_eq]

/-- Without failures there is nothing to put in another order. -/
theorem SameUpToOrder.eq_of_failures_nil {a b : DeletionOutcome} (same : a.SameUpToOrder b)
    (faultless : b.failures = []) : a = b := by
  obtain ⟨calls, deleted, failures, tolerated⟩ := same
  rw [faultless] at failures
  cases a
  cases b
  simp_all

/-! ## Results all at once -/

/-- The outcome of results, field by field. -/
theorem ofResults_eq (results : List RequestResult) :
    ofResults results =
      { calls := results.length
        deleted := (results.map (·.deleted)).sum
        failures := results.filterMap (·.counted?)
        tolerated := results.countP (·.isExcused) } := by
  -- The fold adds to whatever outcome it starts from.
  have fold (o : DeletionOutcome) :
      results.foldl (fun o (request, result) => o.record request result) o =
        { calls := o.calls + results.length
          deleted := o.deleted + (results.map (·.deleted)).sum
          failures := o.failures ++ results.filterMap (·.counted?)
          tolerated := o.tolerated + results.countP (·.isExcused) } := by
    induction results generalizing o with
    | nil => simp
    | cons p rest ih =>
      obtain ⟨request, result⟩ := p
      rw [List.foldl_cons, ih]
      rcases result with error | ⟨⟩
      · by_cases ht : request.kind.tolerated = true
        · simp [record, ht, RequestResult.deleted, RequestResult.counted?, RequestResult.isExcused]
          omega
        · simp [record, ht, RequestResult.deleted, RequestResult.counted?, RequestResult.isExcused,
            RequestResult.failure?]
          omega
      · simp [record, RequestResult.deleted, RequestResult.counted?, RequestResult.isExcused,
          RequestResult.failure?]
        omega
  rw [ofResults, fold]
  simp

/-- Results that come in in another order have the same outcome, up to the order of failures. -/
theorem ofResults_perm {a b : List RequestResult} (h : a.Perm b) :
    SameUpToOrder (ofResults a) (ofResults b) := by
  rw [ofResults_eq, ofResults_eq]
  exact ⟨h.length_eq, (h.map _).sum_eq, h.filterMap _, h.countP_eq _⟩

/-- What is planned is the outcome if no request fails. -/
theorem ofResults_ok (requests : List DeleteRequest) :
    ofResults (requests.map fun request => (request, .ok ())) = planned requests := by
  have deleted : ((requests.map fun request => ((request, .ok ()) : RequestResult)).map
      RequestResult.deleted).sum =
        requests.foldr (fun request names => request.names.length + names) 0 := by
    induction requests with
    | nil => rfl
    | cons request requests ih => exact congrArg (request.names.length + ·) ih
  have counted (request : DeleteRequest) :
      RequestResult.counted? (request, .ok ()) = none := ite_self none
  have excused (request : DeleteRequest) :
      RequestResult.isExcused (request, .ok ()) = false := Bool.and_false _
  rw [ofResults_eq, deleted]
  simp [planned, counted, excused, Function.comp_def]

theorem isFailed_ofResults_iff :
    (ofResults results).isFailed = true ↔
      ∃ p ∈ results, p.1.kind.tolerated = false ∧ p.2.isOk = false := by
  have counted (p : RequestResult) :
      p.counted?.isSome = true ↔ p.1.kind.tolerated = false ∧ p.2.isOk = false := by
    by_cases ht : p.1.kind.tolerated = true
    · simp [RequestResult.counted?, ht]
    · simp [RequestResult.counted?, ht, RequestResult.isSome_failure?]
  rw [ofResults_eq]
  simp only [isFailed, Bool.not_eq_true', List.isEmpty_eq_false_iff, ne_eq,
    List.filterMap_eq_nil_iff, not_forall, ← Option.isSome_iff_ne_none, counted, exists_prop]

/-! ## Results of one kind -/

/-- What an outcome says about results of one kind: nothing is lost and nothing counted twice. -/
structure Tallies (o : DeletionOutcome) (k : ResourceKind) (results : List RequestResult) :
    Prop where
  calls : o.calls = results.length
  deleted : o.deleted = ((results.filter (·.2.isOk)).map (·.1.names.length)).sum
  counted : k.tolerated = false →
    o.failures.Perm (results.filterMap (·.failure?)) ∧ o.tolerated = 0
  excused : k.tolerated = true → o.failures = [] ∧ o.tolerated = results.countP (!·.2.isOk)
  balanced : results.countP (·.2.isOk) + o.failures.length + o.tolerated = o.calls
  failed : o.isFailed = true ↔ k.tolerated = false ∧ ∃ p ∈ results, p.2.isOk = false

theorem sum_deleted (results : List RequestResult) :
    (results.map (·.deleted)).sum = ((results.filter (·.2.isOk)).map (·.1.names.length)).sum := by
  induction results with
  | nil => rfl
  | cons p rest ih =>
    rw [List.map_cons, List.sum_cons, ih, List.filter_cons]
    by_cases h : p.2.isOk = true
    · simp [RequestResult.deleted, h]
    · simp [RequestResult.deleted, h]

theorem length_failures (results : List RequestResult) :
    (results.filterMap (·.failure?)).length = results.countP (!·.2.isOk) := by
  rw [List.length_filterMap_eq_countP]
  exact List.countP_congr fun p _ => by rw [RequestResult.isSome_failure?]

/-- The outcome of results of one kind tallies with them. -/
theorem tallies_ofResults (h : ∀ p ∈ results, p.1.kind = k) : (ofResults results).Tallies k results := by
  have total : results.countP (·.2.isOk) + results.countP (!·.2.isOk) = results.length := by
    rw [@List.length_eq_countP_add_countP _ (·.2.isOk) results]
    simp
  have failed : (ofResults results).isFailed = true ↔
      k.tolerated = false ∧ ∃ p ∈ results, p.2.isOk = false := by
    rw [isFailed_ofResults_iff]
    constructor
    · rintro ⟨p, hp, ht, hf⟩
      exact ⟨h p hp ▸ ht, p, hp, hf⟩
    · rintro ⟨ht, p, hp, hf⟩
      exact ⟨p, hp, (h p hp).symm ▸ ht, hf⟩
  rw [ofResults_eq] at failed ⊢
  cases ht : k.tolerated with
  | false =>
    have counted : results.filterMap (·.counted?) = results.filterMap (·.failure?) :=
      List.filterMap_congr fun p hp => by simp [RequestResult.counted?, h p hp, ht]
    have excused : results.countP (·.isExcused) = 0 :=
      List.countP_eq_zero.2 fun p hp => by simp [RequestResult.isExcused, h p hp, ht]
    rw [counted, excused] at failed ⊢
    refine ⟨rfl, sum_deleted results, fun _ => ⟨.refl _, rfl⟩, fun h => ?_, ?_, failed⟩
    · rw [ht] at h
      cases h
    · show _ + (results.filterMap (·.failure?)).length + 0 = results.length
      rw [length_failures, Nat.add_zero, total]
  | true =>
    have counted : results.filterMap (·.counted?) = [] :=
      List.filterMap_eq_nil_iff.2 fun p hp => by simp [RequestResult.counted?, h p hp, ht]
    have excused : results.countP (·.isExcused) = results.countP (!·.2.isOk) :=
      List.countP_congr fun p hp => by simp [RequestResult.isExcused, h p hp, ht]
    rw [counted, excused] at failed ⊢
    refine ⟨rfl, sum_deleted results, fun h => ?_, fun _ => ⟨rfl, rfl⟩, total, failed⟩
    rw [ht] at h
    cases h

/-- Outcomes that are the same but for the order of failures tally with the same results. -/
theorem Tallies.of_sameUpToOrder {a b : DeletionOutcome} (h : b.Tallies k results)
    (same : a.SameUpToOrder b) : a.Tallies k results := by
  refine ⟨same.calls.trans h.calls, same.deleted.trans h.deleted, fun ht => ?_, fun ht => ?_, ?_, ?_⟩
  · exact ⟨same.failures.trans (h.counted ht).1, same.tolerated.trans (h.counted ht).2⟩
  · refine ⟨?_, same.tolerated.trans (h.excused ht).2⟩
    have empty := same.failures
    rw [(h.excused ht).1] at empty
    exact empty.eq_nil
  · rw [same.failures.length_eq, same.tolerated, same.calls, h.balanced]
  · rw [same.isFailed_eq, h.failed]

end DeletionOutcome
end CloudSweep
