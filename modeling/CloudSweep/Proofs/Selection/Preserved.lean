/-
Preserved items. An item of a preserved name is never selected, and it does nothing to the listing it
stands in as long as its creation time is not asked for, is missing or can be read. A creation time
that is present and cannot be read makes the listing fail, preserved name or not: items are read
before their names are looked up.
-/
import CloudSweep.Proofs.Selection.Partition

namespace CloudSweep.ResourceKind

variable {k : ResourceKind} {cutoff : Cutoff} {item : ListedItem} {name : String}

/-- The item does nothing to any listing, wherever it is put into it. -/
def Inert (k : ResourceKind) (cutoff : Cutoff) (item : ListedItem) : Prop :=
  ∀ before after,
    k.groups? cutoff (before ++ item :: after) = k.groups? cutoff (before ++ after)

/-- What does nothing has no error and is not selected, and the other way around. -/
theorem inert_iff :
    k.Inert cutoff item ↔ k.defect? cutoff item = none ∧ k.selected? cutoff item = none := by
  constructor
  · intro inert
    have alone : k.groups? cutoff [item] = .ok [] := inert [] []
    rw [groups?_eq, List.findSome?_singleton] at alone
    rcases hd : k.defect? cutoff item with _ | error
    · refine ⟨rfl, ?_⟩
      rcases hs : k.selected? cutoff item with _ | c
      · rfl
      · simp [hd, hs, Groups.ofCandidates, Groups.add] at alone
    · simp [hd] at alone
  · rintro ⟨clean, unselected⟩ before after
    have defects : (before ++ item :: after).findSome? (k.defect? cutoff) =
        (before ++ after).findSome? (k.defect? cutoff) := by
      rw [List.findSome?_append, List.findSome?_append, List.findSome?_cons, clean]
    have selection : (before ++ item :: after).filterMap (k.selected? cutoff) =
        (before ++ after).filterMap (k.selected? cutoff) := by
      rw [List.filterMap_append, List.filterMap_append, List.filterMap_cons_none unselected]
    rw [groups?_eq, groups?_eq, defects, selection]

/-- The creation time is present, is asked for, and cannot be read. -/
structure Illegible (k : ResourceKind) (cutoff : Cutoff) (item : ListedItem) (name raw : String) :
    Prop where
  aged : cutoff ≠ .clearAll
  placed : k.scopeValue? item name ≠ none
  present : item.creationTime = some raw
  unreadable : Timestamp.read raw = none

/-- What keeps a named item from being read is its creation time. -/
theorem candidate?_eq_error_iff {error : SelectionError} (named : item.name = some name)
    (nonempty : name ≠ "") :
    k.candidate? cutoff item = .error error ↔
      ∃ raw, k.Illegible cutoff item name raw ∧
        error = k.malformed (.unreadableCreationTime name raw) := by
  have opened : k.candidate? cutoff item = .error error ↔
      ∃ v raw, k.scopeValue? item name = some v ∧ item.creationTime = some raw ∧
        Timestamp.read raw = none ∧ cutoff.isClearAll = false ∧
        k.malformed (.unreadableCreationTime name raw) = error := by
    unfold candidate?
    rw [named]
    split
    · rename_i absent
      cases absent
    · rename_i empty
      exact absurd (Option.some.inj empty) nonempty
    rename_i same
    cases same
    rcases k.scopeValue? item name with _ | v
    · simp
    rcases item.creationTime with _ | raw
    · simp
    rcases hr : Timestamp.read raw with _ | instant
    · rcases ha : cutoff.isClearAll <;> simp [hr]
    · simp [hr]
  rw [opened]
  constructor
  · rintro ⟨v, raw, placed, present, unreadable, aged, rfl⟩
    refine ⟨raw, ⟨?_, by simp [placed], present, unreadable⟩, rfl⟩
    rintro rfl
    cases aged
  · rintro ⟨raw, ⟨aged, placed, present, unreadable⟩, rfl⟩
    obtain ⟨v, placed⟩ := Option.ne_none_iff_exists'.1 placed
    refine ⟨v, raw, placed, present, unreadable, ?_, rfl⟩
    rw [← Bool.not_eq_true, Cutoff.isClearAll_iff]
    exact aged

section Preserved

variable (named : item.name = some name) (preserved : name ∈ k.preserved)
include named preserved

/-- A candidate of a preserved name is spared. -/
theorem isStale_of_preserved {c : Candidate} (h : k.candidate? cutoff item = .ok (some c)) :
    k.isStale cutoff c = .ok false := by
  have same : c.name = name :=
    Option.some.inj ((candidate?_eq_some_iff.1 h).1.symm.trans named)
  simp [isStale, preserves, same, preserved]

theorem selected?_of_preserved : k.selected? cutoff item = none := by
  unfold selected?
  rcases h : k.candidate? cutoff item with error | _ | c
  · rfl
  · rfl
  · simp only [isStale_of_preserved named preserved h]

/-- The one error that an item of a preserved name can have. -/
theorem defect?_of_preserved {error : SelectionError} (nonempty : name ≠ "") :
    k.defect? cutoff item = some error ↔
      ∃ raw, k.Illegible cutoff item name raw ∧
        error = k.malformed (.unreadableCreationTime name raw) := by
  rw [← candidate?_eq_error_iff named nonempty]
  unfold defect?
  rcases h : k.candidate? cutoff item with _ | _ | c
  · simp
  · simp
  · simp [isStale_of_preserved named preserved h]

end Preserved

/-- An item of a preserved name is never selected. It does nothing to its listing exactly when its
creation time is not asked for, is missing or can be read; otherwise the listing fails with the first
error in it, and the item's own is its creation time. -/
theorem inert_of_preserved_iff (k : ResourceKind) (cutoff : Cutoff) (item : ListedItem) (name : String)
    (named : item.name = some name) (nonempty : name ≠ "") (preserved : name ∈ k.preserved) :
    k.selected? cutoff item = none ∧
      (k.Inert cutoff item ↔ ∀ raw, ¬ k.Illegible cutoff item name raw) ∧
      ∀ error, k.defect? cutoff item = some error ↔
        ∃ raw, k.Illegible cutoff item name raw ∧
          error = k.malformed (.unreadableCreationTime name raw) := by
  have unselected : k.selected? cutoff item = none := selected?_of_preserved named preserved
  have defects (error : SelectionError) : k.defect? cutoff item = some error ↔
      ∃ raw, k.Illegible cutoff item name raw ∧
        error = k.malformed (.unreadableCreationTime name raw) :=
    defect?_of_preserved named preserved nonempty
  refine ⟨unselected, ?_, defects⟩
  rw [inert_iff, and_iff_left unselected, Option.eq_none_iff_forall_ne_some]
  constructor
  · exact fun clean raw illegible => clean _ ((defects _).2 ⟨raw, illegible, rfl⟩)
  · intro legible error defect
    obtain ⟨raw, illegible, -⟩ := (defects error).1 defect
    exact legible raw illegible

/-- The sinks of the log router, one of which always stays. -/
def loggingSinks : ResourceKind := { ResourceKind.of "logging" "sinks" with preserved := ["_Default"] }

theorem inert_of_preserved_iff_sinks :
    "_Default" ≠ "" ∧ "_Default" ∈ loggingSinks.preserved ∧
      loggingSinks.Inert (.before ⟨0, 0⟩) (ListedItem.named "_Default") := by
  refine ⟨by decide, by decide, ?_⟩
  refine (inert_of_preserved_iff loggingSinks _ (.named "_Default") "_Default" rfl (by decide)
    (by decide)).2.1.2 fun raw illegible => ?_
  cases illegible.present

/-- The listing of a preserved item whose creation time cannot be read fails. -/
theorem not_inert_of_illegible :
    ¬ ∀ (k : ResourceKind) (cutoff : Cutoff) (item : ListedItem) (name : String),
      item.name = some name → name ≠ "" → name ∈ k.preserved → k.Inert cutoff item := by
  intro inert
  have clean := (inert_iff.1 (inert loggingSinks (.before ⟨0, 0⟩)
    ((ListedItem.named "_Default").created "not-a-time") "_Default" rfl (by decide) (by decide))).1
  revert clean
  decide +kernel

end CloudSweep.ResourceKind
