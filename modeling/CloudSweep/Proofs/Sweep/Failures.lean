/-
Which failures count. A failed check of a service, a listing or a deletion that fails for a kind that
is not tolerated, a listing with a defect, and a cluster that is not deleted all do; what goes wrong
with subnets, endpoints that cannot be reached and whatever is tolerated do not.
-/
import CloudSweep.Deletion.Plan
import CloudSweep.Proofs.Program.Traces
import CloudSweep.Selection.Cluster
import CloudSweep.Settings.Basic

namespace CloudSweep

/-! ## Failures that count -/

/-- The move is a failure that counts. -/
inductive Move.Fatal (s : Settings) : Move → Prop
  | apiCheck {site : Site} {project api : String} {error : CallError} :
      Fatal s (.asked site (.checkApi project api) (.error error))
  | listing {site : Site} {request : ListRequest} {error : CallError}
      (counts : request.kind.tolerated = false) :
      Fatal s (.asked site (.listResources request) (.error error))
  | selection {site : Site} {request : ListRequest} {items : List ListedItem}
      {error : SelectionError} (defect : request.kind.groups? s.cutoff items = .error error) :
      Fatal s (.asked site (.listResources request) (.ok items))
  | deletion {site : Site} {request : DeleteRequest} {error : CallError}
      (counts : request.kind.tolerated = false) :
      Fatal s (.landed ⟨⟨site, .resources request⟩, .error error⟩)
  | clusterListing {site : Site} {endpoint : EndpointOverride} {project filter : String}
      {records : List ClusterRecord} {error : SelectionError}
      (defect : ClusterRecord.stale s.cutoff records = .error error) :
      Fatal s (.asked site (.listClusters endpoint project filter) (.ok records))
  | cluster {site : Site} {endpoint : EndpointOverride} {project : String} {target : ClusterTarget}
      {error : CallError} : Fatal s (.landed ⟨⟨site, .cluster endpoint project target⟩, .error error⟩)

/-- None of the moves is a failure that counts. -/
def Quiet (s : Settings) (moves : List Move) : Prop := ∀ m ∈ moves, ¬ m.Fatal s

section Quiet

variable {s : Settings} {moves : List Move} {site : Site}

@[simp] theorem not_fatal_noted (event : Event) : ¬ (Move.noted event).Fatal s := by
  rintro ⟨⟩

@[simp] theorem not_fatal_started (ticket : Ticket) : ¬ (Move.started ticket).Fatal s := by
  rintro ⟨⟩

@[simp] theorem fatal_checkApi {project api : String} {answer : (Call.checkApi project api).Answer} :
    (Move.asked site (.checkApi project api) answer).Fatal s ↔
      match answer with
      | .error _ => True
      | .ok _ => False := by
  constructor
  · rintro ⟨⟩
    trivial
  · intro h
    cases answer with
    | error error => exact .apiCheck
    | ok enabled => exact h.elim

@[simp] theorem fatal_listing {request : ListRequest} {answer : (Call.listResources request).Answer} :
    (Move.asked site (.listResources request) answer).Fatal s ↔
      match answer with
      | .error _ => request.kind.tolerated = false
      | .ok items => ∃ error, request.kind.groups? s.cutoff items = .error error := by
  constructor
  · rintro (_ | counts | defect)
    · exact counts
    · exact ⟨_, defect⟩
  · intro h
    cases answer with
    | error error => exact .listing h
    | ok items =>
      obtain ⟨error, defect⟩ := h
      exact .selection defect

@[simp] theorem fatal_clusterListing {endpoint : EndpointOverride} {project filter : String}
    {answer : (Call.listClusters endpoint project filter).Answer} :
    (Move.asked site (.listClusters endpoint project filter) answer).Fatal s ↔
      match answer with
      | .error _ => False
      | .ok records => ∃ error, ClusterRecord.stale s.cutoff records = .error error := by
  constructor
  · rintro (_ | _ | _ | _ | defect)
    exact ⟨_, defect⟩
  · intro h
    cases answer with
    | error error => exact h.elim
    | ok records =>
      obtain ⟨error, defect⟩ := h
      exact .clusterListing defect

@[simp] theorem fatal_deletion {request : DeleteRequest} {result : Except CallError Unit} :
    (Move.landed ⟨⟨site, .resources request⟩, result⟩).Fatal s ↔
      request.kind.tolerated = false ∧ result.isOk = false := by
  constructor
  · rintro ⟨⟩
    exact ⟨by assumption, rfl⟩
  · rintro ⟨counts, h⟩
    rcases result with error | ⟨⟩
    · exact .deletion counts
    · cases h

@[simp] theorem fatal_cluster {endpoint : EndpointOverride} {project : String}
    {target : ClusterTarget} {result : Except CallError Unit} :
    (Move.landed ⟨⟨site, .cluster endpoint project target⟩, result⟩).Fatal s ↔
      result.isOk = false := by
  constructor
  · rintro ⟨⟩
    rfl
  · intro h
    rcases result with error | ⟨⟩
    · exact .cluster
    · cases h

@[simp] theorem quiet_nil : Quiet s [] := fun _ h => nomatch h

@[simp] theorem quiet_cons {m : Move} : Quiet s (m :: moves) ↔ ¬ m.Fatal s ∧ Quiet s moves :=
  List.forall_mem_cons

@[simp] theorem quiet_append {more : List Move} :
    Quiet s (moves ++ more) ↔ Quiet s moves ∧ Quiet s more :=
  List.forall_mem_append

@[simp] theorem quiet_notes (events : List Event) : Quiet s (notes events) :=
  List.forall_mem_map.2 fun event _ => not_fatal_noted event

end Quiet

/-! ## Failures that do not count -/

/-- The answer, with failures that do not count taken back: nothing is found where nothing could be
listed, and what was to be deleted is. Subnets have nothing that could fail. -/
def Call.forgive : (call : Call) → call.Answer → call.Answer
  | .listSubnets .., _ => .ok []
  | .describeSubnet .., _ => .ok []
  | .updateSubnet .., _ => .ok ()
  | .listClusters .., .error _ => .ok []
  | .listResources request, .error error =>
    if request.kind.tolerated then .ok [] else .error error
  | .delete (.resources request), .error error =>
    if request.kind.tolerated then .ok () else .error error
  | _, answer => answer

/-- The cloud without failures that do not count. -/
def Cloud.forgiving (cloud : Cloud) : Cloud where
  answer site call := call.forgive (cloud.answer site call)

theorem Cloud.answer_forgiving (cloud : Cloud) (site : Site) (call : Call) :
    cloud.forgiving.answer site call = call.forgive (cloud.answer site call) := rfl

end CloudSweep
