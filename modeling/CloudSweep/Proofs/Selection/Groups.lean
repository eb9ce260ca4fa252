/-
Groups hold what was selected. A name is in the group of a place exactly when some item of the
listing calls for its deletion there.
-/
import CloudSweep.Proofs.Selection.Partition

namespace CloudSweep

namespace Groups

variable {groups : Groups} {candidates : List Candidate} {v n : String}

/-- The name is in the group of the place. -/
def Holds (groups : Groups) (scopeValue name : String) : Prop :=
  ∃ g ∈ groups, g.scopeValue = scopeValue ∧ name ∈ g.names

theorem Ordered.holds_iff (ordered : groups.Ordered) : groups.Holds v n ↔ n ∈ groups.namesAt v := by
  constructor
  · rintro ⟨g, hg, rfl, hn⟩
    rwa [ordered.namesAt_of_mem hg]
  · intro hn
    obtain ⟨g, hg, rfl⟩ := exists_of_mem_namesAt hn
    exact ⟨g, hg, rfl, ordered.namesAt_of_mem hg ▸ hn⟩

theorem Arranges.holds_iff (h : groups.Arranges candidates) :
    groups.Holds v n ↔ ∃ c ∈ candidates, c.scopeValue = v ∧ c.name = n := by
  rw [h.ordered.holds_iff, h.namesAt_eq]
  simp [and_assoc]

end Groups

namespace ResourceKind

variable {k : ResourceKind} {cutoff : Cutoff} {items : List ListedItem} {groups : Groups}

/-- The groups of a listing arrange its selected items. -/
theorem arranges_groups? (h : k.groups? cutoff items = .ok groups) :
    groups.Arranges (items.filterMap (k.selected? cutoff)) := by
  rw [groups?_eq] at h
  split at h
  · cases h
  · cases h
    exact Groups.arranges_ofCandidates _

/-- The groups of a listing hold exactly what its items call for. -/
theorem holds_groups? (h : k.groups? cutoff items = .ok groups) {v n : String} :
    groups.Holds v n ↔ ∃ item ∈ items, k.Condemns cutoff item n v := by
  rw [(arranges_groups? h).holds_iff]
  simp only [List.mem_filterMap, ← exists_selected_iff_condemns]
  constructor
  · rintro ⟨c, ⟨item, hi, hc⟩, hv, hn⟩
    exact ⟨item, hi, c, hc, hv, hn⟩
  · rintro ⟨item, hi, c, hc, hv, hn⟩
    exact ⟨c, ⟨item, hi, hc⟩, hv, hn⟩

end ResourceKind
end CloudSweep
