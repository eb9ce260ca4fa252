/-
Settings that are fit for a run. The check lets through exactly the settings that name a project, make
room for a name in each deletion and for a deletion in flight, and have zones; and the zones are never
missing, because the built-in ones stay at the front of whatever is added to them.
-/
import CloudSweep.Proofs.Zone
import CloudSweep.Settings.Basic

namespace CloudSweep

/-! ## Zones -/

namespace Zone

theorem builtIn_prefix_merge (additional : List String) : builtIn <+: merge additional :=
  merge_eq additional ▸ List.prefix_append ..

theorem merge_ne_nil (additional : List String) : merge additional ≠ [] := fun empty =>
  absurd (List.prefix_nil.1 (empty ▸ builtIn_prefix_merge additional)) (by decide)

end Zone

/-! ## The check -/

namespace Settings

/-- The settings name a project, make room for deletions, and have zones. -/
structure Fit (s : Settings) : Prop where
  named : Text.trim s.project ≠ ""
  batches : s.batchSize ≠ 0
  working : s.workers ≠ 0
  zoned : s.zones ≠ []

theorem validate_eq_ok_iff {s : Settings} : s.validate = .ok () ↔ s.Fit := by
  unfold validate
  split
  · exact iff_of_false nofun fun fit => fit.named ‹_›
  split
  · exact iff_of_false nofun fun fit => fit.batches ‹_›
  split
  · exact iff_of_false nofun fun fit => fit.working ‹_›
  split
  · exact iff_of_false nofun fun fit => fit.zoned ‹_›
  · exact iff_of_true rfl ⟨‹_›, ‹_›, ‹_›, ‹_›⟩

end Settings
end CloudSweep
