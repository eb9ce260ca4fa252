/-
Which items are selected. An item is stale for a kind exactly when it carries a name that is not
preserved, lies in the kind's scope, has the managed flag that the kind asks for, and was created
before the cutoff, unless everything is taken.
-/
import CloudSweep.Selection.Groups

namespace CloudSweep

theorem Cutoff.isClearAll_iff {cutoff : Cutoff} : cutoff.isClearAll = true ↔ cutoff = .clearAll := by
  cases cutoff <;> simp [isClearAll]

namespace ResourceKind

variable {k : ResourceKind} {cutoff : Cutoff} {item : ListedItem} {c : Candidate}

/-- The item calls for the deletion of the name at the place. -/
structure Condemns (k : ResourceKind) (cutoff : Cutoff) (item : ListedItem) (name scopeValue : String) :
    Prop where
  named : item.name = some name
  nonempty : name ≠ ""
  unpreserved : name ∉ k.preserved
  placed : k.scopeValue? item name = some scopeValue
  managed : ∀ required, k.managed.required? = some required → item.isManaged = some required
  old : cutoff = .clearAll ∨ ∃ limit raw created, cutoff = .before limit ∧
    item.creationTime = some raw ∧ Timestamp.read raw = some created ∧ created.Before limit

/-- The error of an item: it cannot be read, or it cannot be told whether it is to be deleted. -/
def defect? (k : ResourceKind) (cutoff : Cutoff) (item : ListedItem) : Option SelectionError :=
  match k.candidate? cutoff item with
  | .error error => some error
  | .ok none => none
  | .ok (some c) =>
    match k.isStale cutoff c with
    | .error error => some error
    | .ok _ => none

/-- The candidate of an item that is to be deleted. -/
def selected? (k : ResourceKind) (cutoff : Cutoff) (item : ListedItem) : Option Candidate :=
  match k.candidate? cutoff item with
  | .ok (some c) =>
    match k.isStale cutoff c with
    | .ok true => some c
    | .ok false | .error _ => none
  | .ok none | .error _ => none

/-! ## Candidates -/

/-- A candidate is an item with a name and a place; it has the item's managed flag, and the item's
creation time, which can go unread only when everything is taken. -/
theorem candidate?_eq_some_iff :
    k.candidate? cutoff item = .ok (some c) ↔
      item.name = some c.name ∧ c.name ≠ "" ∧ k.scopeValue? item c.name = some c.scopeValue ∧
        c.createdAt = item.creationTime.bind Timestamp.read ∧ c.isManaged = item.isManaged ∧
        (cutoff = .clearAll ∨ ∀ raw, item.creationTime = some raw → (Timestamp.read raw).isSome) := by
  obtain ⟨name, scopeValue, createdAt, isManaged⟩ := c
  constructor
  · intro h
    unfold candidate? at h
    split at h
    · cases h
    · cases h
    rename_i n hne hn
    split at h
    · cases h
    rename_i v hv
    dsimp only at h
    split at h
    · rename_i ht
      cases h
      exact ⟨hn, hne, hv, by rw [ht]; rfl, rfl, .inr (by simp [ht])⟩
    rename_i raw ht
    split at h
    · rename_i instant hr
      cases h
      exact ⟨hn, hne, hv, by rw [ht]; exact hr.symm, rfl, .inr (by simp [ht, hr])⟩
    rename_i hr
    split at h
    · rename_i hc
      cases h
      exact ⟨hn, hne, hv, by rw [ht]; exact hr.symm, rfl, .inl (Cutoff.isClearAll_iff.1 hc)⟩
    · cases h
  · rintro ⟨hn, hne, hv, rfl, rfl, old⟩
    simp only at hn hne hv
    unfold candidate?
    rw [hn]
    split
    · rename_i h
      cases h
    · rename_i h
      cases h
      exact absurd rfl hne
    rename_i h
    cases h
    rw [hv]
    rcases ht : item.creationTime with _ | raw
    · rfl
    rcases hr : Timestamp.read raw with _ | instant
    · rcases old with rfl | all
      · simp [hr, Cutoff.isClearAll]
      · simpa [hr] using all raw ht
    · simp [hr]

/-! ## Staleness -/

theorem isStale_eq_true_iff :
    k.isStale cutoff c = .ok true ↔
      c.name ∉ k.preserved ∧
        (∀ required, k.managed.required? = some required → c.isManaged = some required) ∧
        (cutoff = .clearAll ∨ ∃ limit created, cutoff = .before limit ∧ c.createdAt = some created ∧
          created.Before limit) := by
  -- The age is asked for last, once the name and the flag are settled.
  have oldEnough : isStale.oldEnough k cutoff c = .ok true ↔
      (cutoff = .clearAll ∨ ∃ limit created, cutoff = .before limit ∧ c.createdAt = some created ∧
          created.Before limit) := by
    unfold isStale.oldEnough
    rcases cutoff with _ | limit
    · simp
    · rcases c.createdAt with _ | created <;> simp [Cutoff.includes]
  unfold isStale
  by_cases hp : c.name ∈ k.preserved
  · simp [preserves, hp]
  rcases hm : k.managed.required? with _ | required
  · simp [preserves, hp, oldEnough]
  rcases hc : c.isManaged with _ | actual
  · simp [preserves, hp]
  by_cases h : actual = required
  · simp [preserves, hp, h, oldEnough]
  · simp [preserves, hp, h]

/-! ## Selected items -/

theorem selected?_eq_some_iff :
    k.selected? cutoff item = some c ↔
      k.candidate? cutoff item = .ok (some c) ∧ k.isStale cutoff c = .ok true := by
  unfold selected?
  rcases k.candidate? cutoff item with error | _ | c'
  · simp
  · simp
  constructor
  · intro h
    rcases hs : k.isStale cutoff c' with error | _ | _
    · simp [hs] at h
    · simp [hs] at h
    · simp only [hs, Option.some.injEq] at h
      exact ⟨by rw [h], h ▸ hs⟩
  · rintro ⟨h, hs⟩
    cases h
    simp only [hs]

/-- An item is selected exactly when it calls for a deletion. -/
theorem exists_selected_iff_condemns {name scopeValue : String} :
    (∃ c, k.selected? cutoff item = some c ∧ c.scopeValue = scopeValue ∧ c.name = name) ↔
      k.Condemns cutoff item name scopeValue := by
  simp only [selected?_eq_some_iff, candidate?_eq_some_iff, isStale_eq_true_iff]
  constructor
  · rintro ⟨c, ⟨⟨named, nonempty, placed, created, flag, -⟩, unpreserved, managed, old⟩, rfl, rfl⟩
    refine ⟨named, nonempty, unpreserved, placed, fun required h => flag ▸ managed required h, ?_⟩
    refine old.imp_right ?_
    rintro ⟨limit, instant, hl, hc, before⟩
    obtain ⟨raw, hr, hi⟩ := Option.bind_eq_some_iff.1 (created ▸ hc)
    exact ⟨limit, raw, instant, hl, hr, hi, before⟩
  · rintro ⟨named, nonempty, unpreserved, placed, managed, old⟩
    refine ⟨⟨name, scopeValue, item.creationTime.bind Timestamp.read, item.isManaged⟩,
      ⟨⟨named, nonempty, placed, rfl, rfl, ?_⟩, unpreserved, managed, ?_⟩, rfl, rfl⟩
    · refine old.imp_right ?_
      rintro ⟨limit, raw, created, -, hr, hc, -⟩ raw' hr'
      cases hr.symm.trans hr'
      rw [hc]
      rfl
    · refine old.imp_right ?_
      rintro ⟨limit, raw, created, hl, hr, hc, before⟩
      exact ⟨limit, created, hl, by rw [hr]; exact hc, before⟩

/-! ## Screening -/

/-- Screening an item shows its error, or else whether it is selected. -/
theorem screen_cases (k : ResourceKind) (cutoff : Cutoff) (item : ListedItem) :
    (∃ error, k.screen cutoff item = .error error ∧ k.defect? cutoff item = some error) ∨
      ∃ screening, k.screen cutoff item = .ok screening ∧ k.defect? cutoff item = none ∧
        screening.stale? = k.selected? cutoff item := by
  unfold screen defect? selected?
  rcases k.candidate? cutoff item with error | _ | c
  · exact .inl ⟨error, rfl, rfl⟩
  · exact .inr ⟨_, rfl, rfl, rfl⟩
  simp only [bind, Except.bind, pure, Except.pure]
  rcases k.isStale cutoff c with error | _ | _
  · exact .inl ⟨error, rfl, rfl⟩
  · exact .inr ⟨.spared c, rfl, rfl, rfl⟩
  · exact .inr ⟨.stale c, rfl, rfl, rfl⟩

end ResourceKind
end CloudSweep
