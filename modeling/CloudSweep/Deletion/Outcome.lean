/-
Outcomes of deletions. Every request of a plan either deletes its names or fails, and a failure of a
tolerated kind is told apart from one that counts.
-/
import CloudSweep.Call.Basic

namespace CloudSweep

/-- A delete call that failed. -/
structure DeletionFailure where
  /-- What was to be deleted. -/
  target : String
  error : CallError
  deriving DecidableEq

/-- What came of deleting the groups of a kind. -/
structure DeletionOutcome where
  /-- The requests, sent or only planned. -/
  calls : Nat := 0
  /-- The names in requests that succeeded. -/
  deleted : Nat := 0
  /-- The failures that count. -/
  failures : List DeletionFailure := []
  /-- How many requests of a tolerated kind failed. -/
  tolerated : Nat := 0
  deriving DecidableEq

namespace DeletionOutcome

/-- Whether a failure counts. -/
def isFailed (o : DeletionOutcome) : Bool := !o.failures.isEmpty

/-- The outcome with the result of one more request. -/
def record (o : DeletionOutcome) (request : DeleteRequest) (result : Except CallError Unit) :
    DeletionOutcome :=
  match result with
  | .ok () => { o with calls := o.calls + 1, deleted := o.deleted + request.names.length }
  | .error error =>
    if request.kind.tolerated then { o with calls := o.calls + 1, tolerated := o.tolerated + 1 }
    else
      { o with
        calls := o.calls + 1
        failures := o.failures ++ [{ target := request.describe, error }] }

/-- The outcome of results, in the order in which they came in. -/
def ofResults (results : List (DeleteRequest × Except CallError Unit)) : DeletionOutcome :=
  results.foldl (fun o (request, result) => o.record request result) {}

/-- The outcome when every request is only planned. -/
def planned (requests : List DeleteRequest) : DeletionOutcome :=
  { calls := requests.length
    deleted := requests.foldr (fun request names => request.names.length + names) 0 }

end DeletionOutcome
end CloudSweep
