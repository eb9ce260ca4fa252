/-
Places of deletions. The groups of a listing stand for places of the sort that the kind asks for: zones
and regions have names, free of slashes, and without such a scope there is the one blank place. So a
request of a zonal or regional kind always carries the flag of its place, and its command can be read
back: it tells the names and the place, whatever the names look like.
-/
import CloudSweep.Gcloud.Command
import CloudSweep.Proofs.Deletion.Plan
import CloudSweep.Proofs.Selection.Groups
import CloudSweep.Proofs.Text.Segment

namespace CloudSweep

/-- A place as a scope asks for it, with what narrows a deletion to it. -/
inductive Narrows : ScopeKind → String → DeleteScope → Prop
  | none : Narrows .none "" .none
  | global : Narrows .global "" .global
  | zone {name : String} (nonempty : name ≠ "") (plain : '/' ∉ name.toList) :
      Narrows .zone name (.zone name)
  | region {name : String} (nonempty : name ≠ "") (plain : '/' ∉ name.toList) :
      Narrows .region name (.region name)

/-! ## Places of items and groups -/

namespace ResourceKind

variable {k : ResourceKind} {cutoff : Cutoff} {item : ListedItem} {items : List ListedItem}
  {groups : Groups} {name v : String}

/-- A zone or region is the end of its address or a segment of a name, and not blank. -/
theorem named_of_located {field : Option String}
    (h : scopeValue?.located k name field = some v) : v ≠ "" ∧ '/' ∉ v.toList := by
  unfold scopeValue?.located at h
  cases field with
  | some address =>
    obtain ⟨found, nonblank⟩ := Option.filter_eq_some_iff.1 h
    cases found
    exact ⟨of_decide_eq_true nonblank, Text.slash_not_mem_lastSegment address⟩
  | none =>
    obtain ⟨found, nonblank⟩ := Option.filter_eq_some_iff.1 h
    obtain ⟨index, -, segment⟩ := Option.bind_eq_some_iff.1 found
    exact ⟨of_decide_eq_true nonblank, Text.slash_not_mem_of_segment? segment⟩

theorem narrows_of_placed (h : k.scopeValue? item name = some v) :
    Narrows k.scope v (k.deleteScope v) := by
  unfold scopeValue? at h
  unfold deleteScope
  cases scope : k.scope with
  | none =>
    simp only [scope] at h
    cases h
    exact .none
  | global =>
    simp only [scope] at h
    split at h
    · cases h
    · cases h
      exact .global
  | zone =>
    simp only [scope] at h
    obtain ⟨nonempty, plain⟩ := named_of_located h
    simpa only [nonempty, if_false] using Narrows.zone nonempty plain
  | region =>
    simp only [scope] at h
    obtain ⟨nonempty, plain⟩ := named_of_located h
    simpa only [nonempty, if_false] using Narrows.region nonempty plain

/-- The place of a group is the place of the items that it holds, of which there is at least one. -/
theorem narrows_of_mem_groups (selection : k.groups? cutoff items = .ok groups) {g : Group}
    (h : g ∈ groups) : Narrows k.scope g.scopeValue (k.deleteScope g.scopeValue) := by
  obtain ⟨n, hn⟩ := List.exists_mem_of_ne_nil _ ((arranges_groups? selection).nonempty g h)
  obtain ⟨item, -, condemns⟩ := (holds_groups? selection).1 ⟨g, h, rfl, hn⟩
  exact narrows_of_placed condemns.placed

/-! ## Requests -/

variable {project : String} {batchSize : Nat} {endpoint : Option EndpointOverride}
  {request : DeleteRequest}

theorem mem_planGroup {g : Group} (h : request ∈ k.planGroup project batchSize endpoint g) :
    request.kind = k ∧ request.project = project ∧ request.scope = k.deleteScope g.scopeValue := by
  obtain ⟨names, -, rfl⟩ := List.mem_map.1 h
  exact ⟨rfl, rfl, rfl⟩

/-- A request is for one group, of the kind, on the project and narrowed to the group's place. -/
theorem exists_group_of_mem_plan (selection : k.groups? cutoff items = .ok groups)
    (h : request ∈ k.plan groups project batchSize endpoint) :
    request.kind = k ∧ request.project = project ∧
      ∃ g ∈ groups, request ∈ k.planGroup project batchSize endpoint g ∧
        Narrows k.scope g.scopeValue request.scope := by
  obtain ⟨g, hg, planned⟩ := List.mem_flatMap.1 h
  obtain ⟨ofKind, onProject, scope⟩ := mem_planGroup planned
  exact ⟨ofKind, onProject, g, hg, planned, scope ▸ narrows_of_mem_groups selection hg⟩

end ResourceKind

/-! ## Commands -/

/-- Flags of one sort of place are equally many, and the same only for the same place. -/
theorem Narrows.flag {scope : ScopeKind} {v v' : String} {d d' : DeleteScope}
    (h : Narrows scope v d) (h' : Narrows scope v' d') :
    d.flag?.toList.length = d'.flag?.toList.length ∧ (d.flag?.toList = d'.flag?.toList → d = d') := by
  cases h with
  | none => cases h'; exact ⟨rfl, fun _ => rfl⟩
  | global => cases h'; exact ⟨rfl, fun _ => rfl⟩
  | zone =>
    cases h'
    refine ⟨rfl, fun same => ?_⟩
    rw [(String.append_right_inj "--zone=").1 (List.head_eq_of_cons_eq same)]
  | region =>
    cases h'
    refine ⟨rfl, fun same => ?_⟩
    rw [(String.append_right_inj "--region=").1 (List.head_eq_of_cons_eq same)]

/-- The names stand between words that the kind and the project fix, and flags that are equally many
for all places of the kind, so that nothing in them can be taken for anything else. -/
theorem Gcloud.deleteArguments_inj {r r' : DeleteRequest} {v v' : String} (kind : r.kind = r'.kind)
    (project : r.project = r'.project) (narrows : Narrows r.kind.scope v r.scope)
    (narrows' : Narrows r'.kind.scope v' r'.scope)
    (same : deleteArguments r = deleteArguments r') : r.names = r'.names ∧ r.scope = r'.scope := by
  rw [← kind] at narrows'
  obtain ⟨equallyMany, flag_inj⟩ := narrows.flag narrows'
  unfold deleteArguments at same
  rw [kind, project] at same
  have between := List.append_cancel_right same
  simp only [List.append_assoc] at between
  have tail := List.append_cancel_left (List.append_cancel_left (List.append_cancel_left between))
  obtain ⟨names, flags⟩ := List.append_inj' tail equallyMany
  exact ⟨names, flag_inj flags⟩

namespace ResourceKind

/-- The groups of a listing stand for places as the kind's scope asks for them, and each request of a
plan is narrowed to the place of its group. Two requests for instances of a kind that are planned in
this way on one project, from whatever listings, have the same command only if they carry the same
names and are narrowed to the same place. -/
theorem narrows_of_selection (k : ResourceKind) (cutoff : Cutoff) (items : List ListedItem)
    (groups : Groups) (selection : k.groups? cutoff items = .ok groups) :
    (∀ g ∈ groups, Narrows k.scope g.scopeValue (k.deleteScope g.scopeValue)) ∧
      ∀ project batchSize endpoint, ∀ request ∈ k.plan groups project batchSize endpoint,
        (∃ g ∈ groups, request ∈ k.planGroup project batchSize endpoint g ∧
          Narrows k.scope g.scopeValue request.scope) ∧
        ∀ cutoff' items' groups', k.groups? cutoff' items' = .ok groups' →
          ∀ batchSize' endpoint', ∀ request' ∈ k.plan groups' project batchSize' endpoint',
            Gcloud.deleteArguments request = Gcloud.deleteArguments request' →
            request.names = request'.names ∧ request.scope = request'.scope := by
  refine ⟨fun g hg => narrows_of_mem_groups selection hg, fun project batchSize endpoint request h => ?_⟩
  obtain ⟨ofKind, onProject, g, hg, planned, narrows⟩ := exists_group_of_mem_plan selection h
  refine ⟨⟨g, hg, planned, narrows⟩, ?_⟩
  intro cutoff' items' groups' selection' batchSize' endpoint' request' h' same
  obtain ⟨ofKind', onProject', g', -, -, narrows'⟩ := exists_group_of_mem_plan selection' h'
  rw [← ofKind] at narrows
  rw [← ofKind'] at narrows'
  exact Gcloud.deleteArguments_inj (ofKind.trans ofKind'.symm) (onProject.trans onProject'.symm)
    narrows narrows' same

/-- Disks by zones, deleted by force. -/
def forcedDisks : ResourceKind :=
  { (ResourceKind.of "compute" "disks").withScope .zone with forceDelete := true }

/-- Disks that are named like flags, each like the zone of the other. -/
def flagNames : List ListedItem :=
  [(ListedItem.named "--zone=b").inZone "zones/a", (ListedItem.named "--zone=a").inZone "zones/b"]

theorem narrows_of_selection_flagNames :
    ∃ groups, forcedDisks.groups? .clearAll flagNames = .ok groups ∧
      ∃ inA ∈ forcedDisks.plan groups "p" 2 none, ∃ inB ∈ forcedDisks.plan groups "p" 2 none,
        Gcloud.deleteArguments inA = ["compute", "-q", "disks", "delete", "--project=p",
          "--zone=b", "--zone=a", "--force"] ∧
        (∃ g ∈ groups, g.scopeValue = "a" ∧ Narrows .zone "a" inA.scope) ∧
        Gcloud.deleteArguments inA ≠ Gcloud.deleteArguments inB := by
  let groups : Groups := [⟨"a", ["--zone=b"]⟩, ⟨"b", ["--zone=a"]⟩]
  have selection : forcedDisks.groups? .clearAll flagNames = .ok groups := by cbv
  obtain ⟨-, ofRequests⟩ := narrows_of_selection forcedDisks .clearAll flagNames groups selection
  let inA : DeleteRequest :=
    { kind := forcedDisks, project := "p", names := ["--zone=b"], scope := .zone "a" }
  let inB : DeleteRequest :=
    { kind := forcedDisks, project := "p", names := ["--zone=a"], scope := .zone "b" }
  have plannedA : inA ∈ forcedDisks.plan groups "p" 2 none := by decide +kernel
  have plannedB : inB ∈ forcedDisks.plan groups "p" 2 none := by decide +kernel
  obtain ⟨⟨g, hg, -, narrows⟩, distinct⟩ := ofRequests "p" 2 none inA plannedA
  refine ⟨groups, selection, inA, plannedA, inB, plannedB, by decide, ⟨g, hg, ?_⟩, fun same => ?_⟩
  · generalize here : g.scopeValue = v at narrows
    cases narrows with
    | zone nonempty plain => exact ⟨rfl, .zone nonempty plain⟩
  · have names := (distinct .clearAll flagNames groups selection 2 none inB plannedB same).1
    revert names
    decide

end ResourceKind
end CloudSweep
