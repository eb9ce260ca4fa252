/-
Selection and the cutoff. A later cutoff takes more, and taking everything takes most of all: whatever
one cutoff selects from a listing, every larger one selects as well, for the same place and in the same
order. Between cutoffs by age the errors are the same, and taking everything has fewer of them, so
that a larger cutoff never makes a listing fail.
-/
import CloudSweep.Proofs.Deletion.Order
import CloudSweep.Proofs.Selection.Groups
import CloudSweep.Proofs.Selection.Records
import Mathlib.Data.List.Sort

namespace CloudSweep

/-! ## The order of cutoffs -/

namespace Instant

variable {a b c : Instant}

/-- Not later. -/
instance : LE Instant where
  le a b := ¬ b.Before a

theorem le_iff : a ≤ b ↔ a.Before b ∨ a = b := by
  obtain ⟨s, n⟩ := a
  obtain ⟨s', n'⟩ := b
  show ¬ (s' < s ∨ (s' = s ∧ n' < n)) ↔ (s < s' ∨ (s = s' ∧ n < n')) ∨ Instant.mk s n = ⟨s', n'⟩
  rw [Instant.mk.injEq]
  omega

theorem Before.trans_le (h : a.Before b) (le : b ≤ c) : a.Before c := by
  unfold Before at h ⊢
  rcases le_iff.1 le with h' | rfl
  · unfold Before at h'
    omega
  · exact h

end Instant

namespace Cutoff

/-- Cutoffs by age are ordered by their instants, and taking everything comes after them all. -/
instance : LE Cutoff where
  le
    | _, .clearAll => True
    | .clearAll, .before _ => False
    | .before a, .before b => a ≤ b

variable {c c' : Cutoff}

theorem eq_clearAll_of_le (le : .clearAll ≤ c') : c' = .clearAll := by
  cases c' with
  | clearAll => rfl
  | before _ => exact le.elim

theorem isClearAll_of_le (le : c ≤ c') (h : c.isClearAll = true) : c'.isClearAll = true := by
  rw [isClearAll_iff] at h ⊢
  rw [h] at le
  exact eq_clearAll_of_le le

theorem includes_of_le (le : c ≤ c') {created : Instant} (h : c.includes created = true) :
    c'.includes created = true := by
  cases c' with
  | clearAll => rfl
  | before limit' =>
    cases c with
    | clearAll => exact le.elim
    | before limit =>
      rw [includes, decide_eq_true_eq] at h ⊢
      exact h.trans_le le

end Cutoff

/-! ## Items -/

namespace ResourceKind

variable {k : ResourceKind} {c c' : Cutoff} {item : ListedItem} {items : List ListedItem}
  {groups groups' : Groups} {error : SelectionError}

/-- What one cutoff selects, every larger one selects. -/
theorem selected?_of_le (le : c ≤ c') {candidate : Candidate}
    (h : k.selected? c item = some candidate) : k.selected? c' item = some candidate := by
  rw [selected?_eq_some_iff, candidate?_eq_some_iff, isStale_eq_true_iff] at h ⊢
  obtain ⟨⟨named, nonempty, placed, created, flag, legible⟩, unpreserved, managed, old⟩ := h
  cases c' with
  | clearAll => exact ⟨⟨named, nonempty, placed, created, flag, .inl rfl⟩, unpreserved, managed, .inl rfl⟩
  | before limit' =>
    cases c with
    | clearAll => exact le.elim
    | before limit =>
      refine ⟨⟨named, nonempty, placed, created, flag, .inr (legible.resolve_left nofun)⟩, unpreserved,
        managed, .inr ?_⟩
      obtain ⟨_, instant, same, createdAt, before⟩ := old.resolve_left nofun
      cases same
      exact ⟨limit', instant, rfl, createdAt, before.trans_le le⟩

/-- By age or by another age, an item is read alike. -/
theorem candidate?_before (a b : Instant) :
    k.candidate? (.before a) item = k.candidate? (.before b) item := rfl

theorem isStale_before_eq_error_iff (a b : Instant) {candidate : Candidate} :
    k.isStale (.before a) candidate = .error error ↔ k.isStale (.before b) candidate = .error error := by
  have age : isStale.oldEnough k (.before a) candidate = .error error ↔
      isStale.oldEnough k (.before b) candidate = .error error := by
    unfold isStale.oldEnough
    cases candidate.createdAt <;> simp
  unfold isStale
  split
  · simp
  rcases k.managed.required? with _ | required
  · exact age
  rcases candidate.isManaged with _ | actual
  · simp
  · dsimp only
    split
    · exact age
    · simp

/-- By age or by another age, an item has the same error. -/
theorem defect?_before (a b : Instant) :
    k.defect? (.before a) item = k.defect? (.before b) item := by
  unfold defect?
  rw [candidate?_before a b]
  rcases k.candidate? (.before b) item with error | _ | candidate
  · rfl
  · rfl
  dsimp only
  rcases ha : k.isStale (.before a) candidate with error | stale
  · rw [(isStale_before_eq_error_iff a b).1 ha]
  · rcases hb : k.isStale (.before b) candidate with error | stale'
    · rw [(isStale_before_eq_error_iff b a).1 hb] at ha
      cases ha
    · rfl

/-- What can be read when the age counts can be read when everything is taken. -/
theorem candidate?_clearAll {a : Instant} {found : Option Candidate}
    (h : k.candidate? (.before a) item = .ok found) : k.candidate? .clearAll item = .ok found := by
  unfold candidate? at h ⊢
  rcases hn : item.name with _ | name
  · rw [hn] at h
    cases h
  rw [hn] at h
  by_cases empty : name = ""
  · subst empty
    cases h
  rcases hv : k.scopeValue? item name with _ | v
  · simpa [empty, hv] using h
  rcases ht : item.creationTime with _ | raw
  · simpa [empty, hv, ht] using h
  rcases hr : Timestamp.read raw with _ | instant
  · simp [hv, ht, hr, Cutoff.isClearAll] at h
  · simpa [empty, hv, ht, hr] using h

/-- What can be judged by its age can be judged when everything is taken. -/
theorem isStale_clearAll {a : Instant} {candidate : Candidate} {stale : Bool}
    (h : k.isStale (.before a) candidate = .ok stale) :
    ∃ stale', k.isStale .clearAll candidate = .ok stale' := by
  unfold isStale at h ⊢
  split
  · exact ⟨false, rfl⟩
  rename_i unpreserved
  rw [if_neg unpreserved] at h
  rcases hm : k.managed.required? with _ | required
  · exact ⟨true, rfl⟩
  rcases hc : candidate.isManaged with _ | actual
  · rw [hm, hc] at h
    cases h
  · dsimp only
    split
    · exact ⟨true, rfl⟩
    · exact ⟨false, rfl⟩

/-- An item without an error when the age counts has none when everything is taken. -/
theorem defect?_clearAll {a : Instant} (clean : k.defect? (.before a) item = none) :
    k.defect? .clearAll item = none := by
  unfold defect? at clean ⊢
  rcases hc : k.candidate? (.before a) item with error | _ | candidate
  · rw [hc] at clean
    cases clean
  · rw [candidate?_clearAll hc]
  rw [candidate?_clearAll hc]
  rw [hc] at clean
  rcases hs : k.isStale (.before a) candidate with error | stale
  · simp [hs] at clean
  · obtain ⟨stale', taken⟩ := isStale_clearAll hs
    simp [taken]

/-! ## Listings -/

/-- By age or by another age, a listing fails with the same error. -/
theorem groups?_before_eq_error_iff (a b : Instant) :
    k.groups? (.before a) items = .error error ↔ k.groups? (.before b) items = .error error := by
  have same : k.defect? (.before a) = k.defect? (.before b) := funext fun _ => defect?_before a b
  rw [groups?_eq, groups?_eq, same]
  cases items.findSome? (k.defect? (.before b)) <;> simp

/-- A listing that does not fail when the age counts does not fail when everything is taken. -/
theorem groups?_clearAll {a : Instant} (h : k.groups? (.before a) items = .ok groups) :
    ∃ groups', k.groups? .clearAll items = .ok groups' := by
  have clean : ∀ item ∈ items, k.defect? (.before a) item = none := by
    intro item hi
    by_contra defect
    obtain ⟨error, failed⟩ := exists_groups?_error_iff.2 ⟨item, hi, defect⟩
    cases failed.symm.trans h
  exact ⟨_, groups?_eq_ok fun item hi => defect?_clearAll (clean item hi)⟩

/-- A larger cutoff never makes a listing fail. -/
theorem groups?_of_le (le : c ≤ c') (h : k.groups? c items = .ok groups) :
    ∃ groups', k.groups? c' items = .ok groups' := by
  cases c with
  | clearAll =>
    rw [Cutoff.eq_clearAll_of_le le]
    exact ⟨groups, h⟩
  | before a =>
    cases c' with
    | clearAll => exact groups?_clearAll h
    | before b =>
      rcases hb : k.groups? (.before b) items with error | groups'
      · cases ((groups?_before_eq_error_iff a b).2 hb).symm.trans h
      · exact ⟨groups', rfl⟩

end ResourceKind

/-! ## Plans -/

instance : Std.Irrefl Pick.Earlier := ⟨Pick.not_earlier_self⟩

instance : Std.Antisymm Pick.Earlier where
  antisymm a b h h' := by
    rcases h with less | ⟨same, less⟩
    · rcases h' with less' | ⟨same', -⟩
      · exact absurd less' (List.lt_asymm less)
      · rw [same'] at less
        exact absurd less (List.lt_irrefl _)
    · rcases h' with less' | ⟨-, less'⟩
      · rw [same] at less'
        exact absurd less' (List.lt_irrefl _)
      · exact absurd less' (Nat.lt_asymm less)

namespace ResourceKind

variable {k : ResourceKind} {c c' : Cutoff} {items : List ListedItem} {groups groups' : Groups}
  {project : String} {batchSize : Nat} {endpoint : Option EndpointOverride}

theorem picks_subset_of_le (le : c ≤ c') : k.picks c items ⊆ k.picks c' items := by
  intro a ha
  obtain ⟨item, hi, h⟩ := List.mem_filterMap.1 ha
  obtain ⟨candidate, selected, rfl⟩ := Option.map_eq_some_iff.1 h
  refine List.mem_filterMap.2 ⟨item, hi, ?_⟩
  rw [selected?_of_le le selected]
  rfl

/-- A plan under a larger cutoff names what a plan under a smaller one does, and in between what else
is old enough. -/
theorem placedNames_sublist_of_le (le : c ≤ c') (h : k.groups? c items = .ok groups)
    (h' : k.groups? c' items = .ok groups') :
    (placedNames (k.plan groups project batchSize endpoint)).Sublist
      (placedNames (k.plan groups' project batchSize endpoint)) := by
  have arranged := arranges_groups? h
  have arranged' := arranges_groups? h'
  have order : (groups.inOrder (k.picks c items)).Pairwise Pick.Earlier :=
    Groups.pairwise_inOrder pairwise_picks arranged.ordered
  have order' : (groups'.inOrder (k.picks c' items)).Pairwise Pick.Earlier :=
    Groups.pairwise_inOrder pairwise_picks arranged'.ordered
  have subset : groups.inOrder (k.picks c items) ⊆ groups'.inOrder (k.picks c' items) := by
    intro a ha
    have there := picks_subset_of_le le (Groups.mem_inOrder.1 ha).1
    exact Groups.mem_inOrder.2 ⟨there, exists_group_of_mem_picks arranged' there⟩
  rw [placedNames_inOrder arranged, placedNames_inOrder arranged']
  exact (List.sublist_of_subperm_of_pairwise (List.subperm_of_subset order.nodup subset) order
    order').map _

end ResourceKind

/-! ## Clusters -/

namespace ClusterRecord

variable {c c' : Cutoff} {records : List ClusterRecord} {targets : List ClusterTarget}

/-- Whether a listing of clusters fails, and how, does not depend on the cutoff. -/
theorem stale_eq_error_iff_of_cutoffs (a b : Cutoff) {error : SelectionError} :
    stale a records = .error error ↔ stale b records = .error error := by
  rw [stale_eq_error_iff, stale_eq_error_iff]

/-- Under a larger cutoff the clusters of a smaller one are stale, and maybe others in between. -/
theorem stale_of_le (le : c ≤ c') (h : stale c records = .ok targets) :
    ∃ targets', stale c' records = .ok targets' ∧ targets.Sublist targets' := by
  unfold stale at h ⊢
  rcases hr : records.mapM target? with defect | read
  · rw [hr] at h
    cases h
  rw [hr] at h
  cases h
  refine ⟨_, rfl, List.Sublist.map _ ?_⟩
  exact List.monotone_filter_right read fun t old => Cutoff.includes_of_le le old

end ClusterRecord
end CloudSweep
