/-
Deletion plans. The names of each group are cut into batches, and each batch becomes one request,
narrowed to the group's place: in the order of the groups, and within a group in its own order.
-/
import CloudSweep.Call.Target
import CloudSweep.Selection.Groups

namespace CloudSweep

/-- The names in batches of the given size, and of at least one; only the last may hold fewer. -/
def batches (size : Nat) (names : List String) : List (List String) :=
  if names.isEmpty then []
  else names.take (max size 1) :: batches size (names.drop (max size 1))
termination_by names.length
decreasing_by
  have nonempty : 0 < names.length := List.length_pos_iff.2 (mt List.isEmpty_iff.2 ‹_›)
  rw [List.length_drop]
  omega

namespace ResourceKind

/-- The place that a deletion is narrowed to. A zonal or regional kind without a place is not
narrowed. -/
def deleteScope (k : ResourceKind) (scopeValue : String) : DeleteScope :=
  match k.scope with
  | .none => .none
  | .global => .global
  | .zone => if scopeValue = "" then .none else .zone scopeValue
  | .region => if scopeValue = "" then .none else .region scopeValue

/-- The requests that delete one group. -/
def planGroup (k : ResourceKind) (project : String) (batchSize : Nat)
    (endpoint : Option EndpointOverride) (group : Group) : List DeleteRequest :=
  (batches (k.batchLimit batchSize) group.names).map fun names =>
    { kind := k, project, names, scope := k.deleteScope group.scopeValue, endpoint }

/-- The requests that delete groups. -/
def plan (k : ResourceKind) (groups : Groups) (project : String) (batchSize : Nat)
    (endpoint : Option EndpointOverride) : List DeleteRequest :=
  groups.flatMap (k.planGroup project batchSize endpoint)

end ResourceKind
end CloudSweep
