/-
Merged zones. Behind the built-in zones stand the additional ones, trimmed, each where it occurs first,
and only those that are neither blank nor built in. So no zone is there twice, merging once more changes
nothing, and zones that come in two lists can be merged one list after the other.
-/
import CloudSweep.Proofs.Text.Blank
import CloudSweep.Zone
import Mathlib.Data.List.Nodup

namespace CloudSweep.Zone

variable {zones : List String} {z : String}

/-! ## Adding zones -/

/-- Added zones stand behind the others in the order of their first occurrences. -/
theorem foldl_add (added zones : List String) :
    added.foldl add zones =
      zones ++ (added.filter fun z => z ≠ "" ∧ z ∉ zones).eraseDups := by
  induction added generalizing zones with
  | nil => simp
  | cons zone rest ih =>
    rw [List.foldl_cons, ih, add]
    by_cases known : zone = "" ∨ zone ∈ zones
    · have skipped : ¬ (zone ≠ "" ∧ zone ∉ zones) := by tauto
      rw [if_pos known, List.filter_cons_of_neg (by simpa using skipped)]
    · have taken : zone ≠ "" ∧ zone ∉ zones := by tauto
      -- Of the rest only what is neither there nor the zone itself is added later.
      have later : (rest.filter fun z => z ≠ "" ∧ z ∉ zones ++ [zone]) =
          (rest.filter fun z => z ≠ "" ∧ z ∉ zones).filter fun z => !z == zone := by
        rw [List.filter_filter]
        refine List.filter_congr fun z _ => ?_
        by_cases same : z = zone <;> simp [same]
      rw [if_neg known, List.filter_cons_of_pos (by simpa using taken), List.eraseDups_cons, later,
        List.append_assoc, List.singleton_append]

theorem mem_foldl_add (added : List String) :
    z ∈ added.foldl add zones ↔ z ∈ zones ∨ z ≠ "" ∧ z ∈ added := by
  rw [foldl_add, List.mem_append, List.mem_eraseDups, List.mem_filter, decide_eq_true_eq]
  tauto

theorem nodup_add (apart : zones.Nodup) (zone : String) : (add zones zone).Nodup := by
  unfold add
  split
  · exact apart
  · rename_i new
    rw [List.nodup_append]
    refine ⟨apart, List.nodup_singleton zone, fun z hz z' hz' same => new (.inr ?_)⟩
    rwa [← List.mem_singleton.1 hz', ← same]

theorem nodup_foldl_add (added : List String) (apart : zones.Nodup) :
    (added.foldl add zones).Nodup := by
  induction added generalizing zones with
  | nil => exact apart
  | cons zone rest ih => exact ih (nodup_add apart zone)

/-- Zones that are there already change nothing. -/
theorem foldl_add_of_subset {added : List String} (known : ∀ z ∈ added, z ∈ zones) :
    added.foldl add zones = zones := by
  induction added with
  | nil => rfl
  | cons zone rest ih =>
    obtain ⟨first, later⟩ := List.forall_mem_cons.1 known
    rw [List.foldl_cons, add, if_pos (.inr first), ih later]

/-- Zones of which none is there yet are all added. -/
theorem foldl_add_of_new {new : List String} (apart : (zones ++ new).Nodup) (filled : "" ∉ new) :
    new.foldl add zones = zones ++ new := by
  induction new generalizing zones with
  | nil => exact (List.append_nil zones).symm
  | cons zone rest ih =>
    rw [List.mem_cons, not_or] at filled
    have absent : zone ∉ zones := fun there =>
      (List.nodup_append.1 apart).2.2 zone there zone List.mem_cons_self rfl
    rw [List.append_cons] at apart ⊢
    rw [List.foldl_cons, add, if_neg (not_or.2 ⟨Ne.symm filled.1, absent⟩), ih apart filled.2]

/-! ## Merged zones -/

theorem nodup_builtIn : builtIn.Nodup := by decide +kernel

theorem trim_of_mem_builtIn (h : z ∈ builtIn) : Text.trim z = z ∧ z ≠ "" := by
  have all : ∀ z ∈ builtIn, z.toList.all (Text.isBlank · == false) = true ∧ z ≠ "" := by decide +kernel
  obtain ⟨printed, filled⟩ := all z h
  have noBlank : ∀ c ∈ z.toList, Text.isBlank c = false :=
    fun c hc => eq_of_beq (List.all_eq_true.1 printed c hc)
  rw [Text.trim, Text.trimChars_of_noBlank noBlank, String.ofList_toList]
  exact ⟨rfl, filled⟩

theorem merge_eq (additional : List String) :
    merge additional =
      builtIn ++ ((additional.map Text.trim).filter fun z => z ≠ "" ∧ z ∉ builtIn).eraseDups :=
  foldl_add _ _

theorem mem_merge_iff {additional : List String} :
    z ∈ merge additional ↔ z ∈ builtIn ∨ z ≠ "" ∧ ∃ z' ∈ additional, Text.trim z' = z := by
  rw [merge, mem_foldl_add, List.mem_map]

theorem nodup_merge (additional : List String) : (merge additional).Nodup :=
  nodup_foldl_add _ nodup_builtIn

/-- Merged zones are trimmed, and none of them is blank. -/
theorem trim_of_mem_merge {additional : List String} (h : z ∈ merge additional) :
    Text.trim z = z ∧ z ≠ "" := by
  rcases mem_merge_iff.1 h with known | ⟨filled, z', -, rfl⟩
  · exact trim_of_mem_builtIn known
  · exact ⟨Text.trim_trim z', filled⟩

theorem map_trim_merge (additional : List String) :
    (merge additional).map Text.trim = merge additional :=
  (List.map_congr_left fun _ hz => (trim_of_mem_merge hz).1).trans (List.map_id _)

theorem merge_merge (additional : List String) :
    merge (merge additional) = merge additional := by
  have apart := nodup_merge additional
  have filled : "" ∉ merge additional := fun h => (trim_of_mem_merge h).2 rfl
  show ((merge additional).map Text.trim).foldl add builtIn = merge additional
  rw [map_trim_merge]
  rw [merge_eq] at apart filled ⊢
  rw [List.foldl_append, foldl_add_of_subset fun _ => id,
    foldl_add_of_new apart fun h => filled (List.mem_append_right _ h)]

theorem merge_append (a b : List String) :
    merge (a ++ b) = (b.map Text.trim).foldl add (merge a) := by
  rw [merge, List.map_append, List.foldl_append, merge]

/-- A merge is an ordered union with the built-in zones: the other zones follow in the order of their
first occurrences. -/
theorem merge_is_union (a b : List String) :
    merge a =
        builtIn ++ ((a.map Text.trim).filter fun z => z ≠ "" ∧ z ∉ builtIn).eraseDups ∧
      (merge a).Nodup ∧
      "" ∉ (merge a).map Text.trim ∧
      (∀ z, z ∈ merge a ↔ z ∈ builtIn ∨ z ≠ "" ∧ ∃ z' ∈ a, Text.trim z' = z) ∧
      merge (merge a) = merge a ∧
      merge (a ++ b) = merge (merge a ++ b) := by
  refine ⟨merge_eq a, nodup_merge a, ?_, fun z => mem_merge_iff, merge_merge a, ?_⟩
  · rw [map_trim_merge]
    exact fun h => (trim_of_mem_merge h).2 rfl
  · rw [merge_append, merge_append, merge_merge]

end CloudSweep.Zone
