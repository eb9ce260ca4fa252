/-
From a listing to requests. A plan names the selected items of the listing, each of them once: by the
bytes of their places, and those of one place in the order of the listing. What batches the names are
cut into has no influence on that.
-/
import CloudSweep.Proofs.Deletion.Plan
import CloudSweep.Proofs.Selection.Partition
import CloudSweep.Proofs.Text.ByteOrder

namespace CloudSweep

/-! ## Selections in the order of their groups -/

/-- A selected item with its position in the listing. -/
abbrev Pick := Candidate × Nat

namespace Pick

/-- By the bytes of the place first, and by the position in the listing then. -/
def Earlier (a b : Pick) : Prop :=
  Text.bytes a.1.scopeValue < Text.bytes b.1.scopeValue ∨
    a.1.scopeValue = b.1.scopeValue ∧ a.2 < b.2

theorem not_earlier_self (a : Pick) : ¬ Earlier a a := by
  rintro (less | ⟨-, less⟩)
  · exact List.lt_irrefl _ less
  · exact Nat.lt_irrefl _ less

end Pick

namespace Groups

variable {groups : Groups} {picks : List Pick} {v : String} {a : Pick}

/-- The picks of a place. -/
def picksAt (picks : List Pick) (v : String) : List Pick := picks.filter fun a => a.1.scopeValue = v

theorem mem_picksAt : a ∈ picksAt picks v ↔ a ∈ picks ∧ a.1.scopeValue = v := by
  rw [picksAt, List.mem_filter, decide_eq_true_eq]

/-- The picks of all groups, group by group. -/
def inOrder (groups : Groups) (picks : List Pick) : List Pick :=
  groups.flatMap fun g => picksAt picks g.scopeValue

theorem mem_inOrder :
    a ∈ groups.inOrder picks ↔ a ∈ picks ∧ ∃ g ∈ groups, a.1.scopeValue = g.scopeValue := by
  simp only [inOrder, List.mem_flatMap, mem_picksAt]
  constructor
  · rintro ⟨g, hg, ha, here⟩
    exact ⟨ha, g, hg, here⟩
  · rintro ⟨ha, g, hg, here⟩
    exact ⟨g, hg, ha, here⟩

theorem pairwise_inOrder (positions : picks.Pairwise fun a b => a.2 < b.2)
    (ordered : groups.Ordered) : (groups.inOrder picks).Pairwise Pick.Earlier := by
  refine List.pairwise_flatMap.2 ⟨fun g _ => ?_, ordered.imp fun less a ha b hb => ?_⟩
  · refine List.Pairwise.imp_of_mem (fun ha hb less => .inr ⟨?_, less⟩) (positions.filter _)
    exact (mem_picksAt.1 ha).2.trans (mem_picksAt.1 hb).2.symm
  · left
    rw [(mem_picksAt.1 ha).2, (mem_picksAt.1 hb).2]
    exact Text.lt_iff_bytes_lt.1 less

/-- Nothing is lost when every pick has a group. -/
theorem inOrder_perm (positions : picks.Pairwise fun a b => a.2 < b.2) (ordered : groups.Ordered)
    (covered : ∀ a ∈ picks, ∃ g ∈ groups, a.1.scopeValue = g.scopeValue) :
    (groups.inOrder picks).Perm picks := by
  have nodup : picks.Nodup := positions.imp fun {a b} less same => by
    rw [same] at less
    exact Nat.lt_irrefl _ less
  have nodup' : (groups.inOrder picks).Nodup :=
    (pairwise_inOrder positions ordered).imp fun {a b} less same => by
      rw [same] at less
      exact Pick.not_earlier_self _ less
  refine (List.perm_ext_iff_of_nodup nodup' nodup).2 fun a => ?_
  rw [mem_inOrder]
  exact and_iff_left_of_imp (covered a)

end Groups

namespace ResourceKind

variable {k : ResourceKind} {cutoff : Cutoff} {items : List ListedItem} {groups : Groups}
  {project : String} {batchSize : Nat} {endpoint : Option EndpointOverride}

/-- The selected items of a listing. -/
def picks (k : ResourceKind) (cutoff : Cutoff) (items : List ListedItem) : List Pick :=
  items.zipIdx.filterMap fun item => (k.selected? cutoff item.1).map (·, item.2)

theorem map_fst_picks :
    (k.picks cutoff items).map Prod.fst = items.filterMap (k.selected? cutoff) := by
  conv_rhs => rw [← List.zipIdx_map_fst 0 items, List.filterMap_map]
  rw [picks, List.map_filterMap]
  refine List.filterMap_congr fun item _ => ?_
  rw [Option.map_map]
  exact Option.map_id'

theorem pairwise_picks : (k.picks cutoff items).Pairwise fun a b => a.2 < b.2 := by
  have positions : items.zipIdx.Pairwise fun a b => a.2 < b.2 := by
    rw [← List.pairwise_map, List.zipIdx_map_snd]
    exact List.pairwise_lt_range'
  refine positions.filterMap _ fun a b less a' ha b' hb => ?_
  obtain ⟨_, -, rfl⟩ := Option.map_eq_some_iff.1 ha
  obtain ⟨_, -, rfl⟩ := Option.map_eq_some_iff.1 hb
  exact less

theorem exists_group_of_mem_picks (h : groups.Arranges (items.filterMap (k.selected? cutoff)))
    {a : Pick} (ha : a ∈ k.picks cutoff items) :
    ∃ g ∈ groups, a.1.scopeValue = g.scopeValue := by
  have selected : a.1 ∈ items.filterMap (k.selected? cutoff) :=
    map_fst_picks ▸ List.mem_map_of_mem ha
  have named : a.1.name ∈ groups.namesAt a.1.scopeValue := by
    rw [h.namesAt_eq]
    exact List.mem_map_of_mem (List.mem_filter.2 ⟨selected, decide_eq_true rfl⟩)
  obtain ⟨g, hg, same⟩ := Groups.exists_of_mem_namesAt named
  exact ⟨g, hg, same.symm⟩

/-! ## Plans -/

/-- The names that requests carry, each with the place that its request is narrowed to. -/
def placedNames (requests : List DeleteRequest) : List (DeleteScope × String) :=
  requests.flatMap fun request => request.names.map (request.scope, ·)

theorem placedNames_planGroup (g : Group) :
    placedNames (k.planGroup project batchSize endpoint g) =
      g.names.map (k.deleteScope g.scopeValue, ·) := by
  conv_rhs => rw [← flatten_batches (k.batchLimit batchSize) g.names, List.map_flatten]
  rw [placedNames, planGroup, List.flatMap_map]
  rfl

theorem placedNames_plan :
    placedNames (k.plan groups project batchSize endpoint) =
      groups.flatMap fun g => g.names.map (k.deleteScope g.scopeValue, ·) := by
  rw [placedNames, plan, List.flatMap_assoc]
  exact List.flatMap_congr fun g _ => placedNames_planGroup g

/-- A plan for a listing names its picks, group by group. -/
theorem placedNames_inOrder (h : groups.Arranges (items.filterMap (k.selected? cutoff))) :
    placedNames (k.plan groups project batchSize endpoint) =
      (groups.inOrder (k.picks cutoff items)).map fun a =>
        (k.deleteScope a.1.scopeValue, a.1.name) := by
  rw [placedNames_plan, Groups.inOrder, List.map_flatMap]
  refine List.flatMap_congr fun g hg => ?_
  rw [← h.ordered.namesAt_of_mem hg, h.namesAt_eq, ← map_fst_picks, List.filter_map, List.map_map,
    List.map_map]
  refine List.map_congr_left fun a ha => ?_
  have here : a.1.scopeValue = g.scopeValue := (Groups.mem_picksAt.1 ha).2
  simp [here]

/-- Selection from a listing fails exactly with the error of the first item that has one. Otherwise
the groups arrange the selected items, and every plan for them names each selected item once, by the
bytes of their places and then in the order of the listing. -/
theorem plan_of_listing (k : ResourceKind) (cutoff : Cutoff) (items : List ListedItem) :
    (∀ error, k.groups? cutoff items = .error error ↔
      ∃ before item after, items = before ++ item :: after ∧
        (∀ other ∈ before, k.defect? cutoff other = none) ∧ k.defect? cutoff item = some error) ∧
    ((∀ item ∈ items, k.defect? cutoff item = none) →
      ∃ groups, k.groups? cutoff items = .ok groups ∧
        groups.Arranges (items.filterMap (k.selected? cutoff)) ∧
        ∃ order : List Pick, order.Perm (k.picks cutoff items) ∧ order.Pairwise Pick.Earlier ∧
          ∀ project batchSize endpoint,
            placedNames (k.plan groups project batchSize endpoint) =
              order.map fun a => (k.deleteScope a.1.scopeValue, a.1.name)) := by
  refine ⟨fun error => groups?_eq_error_iff, fun clean => ?_⟩
  let groups := Groups.ofCandidates (items.filterMap (k.selected? cutoff))
  have arranges : groups.Arranges (items.filterMap (k.selected? cutoff)) :=
    Groups.arranges_ofCandidates _
  refine ⟨groups, groups?_eq_ok clean, arranges, groups.inOrder (k.picks cutoff items), ?_, ?_, ?_⟩
  · exact Groups.inOrder_perm pairwise_picks arranges.ordered fun a => exists_group_of_mem_picks arranges
  · exact Groups.pairwise_inOrder pairwise_picks arranges.ordered
  · exact fun project batchSize endpoint => placedNames_inOrder arranges

/-- Instances by zones. -/
def zonalInstances : ResourceKind := (ResourceKind.of "compute" "instances").withScope .zone

/-- Instances of two zones in turn, one of which is listed twice, and one without a zone. -/
def mixedListing : List ListedItem := [
  (ListedItem.named "c").inZone "zones/b", (ListedItem.named "a").inZone "zones/a",
  ListedItem.named "stray", (ListedItem.named "c").inZone "zones/b",
  (ListedItem.named "b").inZone "zones/a"]

theorem plan_of_listing_mixed :
    (∀ item ∈ mixedListing, zonalInstances.defect? .clearAll item = none) ∧
      ∃ groups, zonalInstances.groups? .clearAll mixedListing = .ok groups ∧
        groups.namesAt "b" = ["c", "c"] ∧
        placedNames (zonalInstances.plan groups "p" 2 none) =
          [(.zone "a", "a"), (.zone "a", "b"), (.zone "b", "c"), (.zone "b", "c")] := by
  have clean : ∀ item ∈ mixedListing, zonalInstances.defect? .clearAll item = none := by
    decide +kernel
  obtain ⟨groups, selection, arranges, -⟩ :=
    (plan_of_listing zonalInstances .clearAll mixedListing).2 clean
  refine ⟨clean, groups, selection, (arranges.namesAt_eq "b").trans (by decide +kernel), ?_⟩
  rw [placedNames_plan]
  cases selection
  decide +kernel

end ResourceKind
end CloudSweep
