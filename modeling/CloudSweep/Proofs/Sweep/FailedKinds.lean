/-
Kinds that failed. A report tells them by their titles. If the kinds of a catalog that is in order are in
words, no two kinds of one service share a title, so that each title in the report stands for exactly one
kind of its service.
-/
import CloudSweep.Proofs.Catalog.Defects
import CloudSweep.Proofs.Kind
import CloudSweep.Proofs.Sweep.ReportAccounts

namespace CloudSweep

namespace Catalog

/-- All kinds are in words. -/
def IsInWords (c : Catalog) : Prop := ∀ target ∈ c.services, ∀ k ∈ target.kinds, k.IsInWords

instance (c : Catalog) : Decidable c.IsInWords :=
  inferInstanceAs (Decidable (∀ target ∈ c.services, ∀ k ∈ target.kinds, k.IsInWords))

variable {c : Catalog}

theorem wellFormed_of_validate (passed : c.validate = .ok ()) : c.WellFormed := by
  rcases validate_cases c with ⟨-, sound⟩ | ⟨error, failed, -⟩
  · exact wellFormed_iff.2 sound
  · cases passed.symm.trans failed

/-- As the identities of the kinds of a service are apart, so are their titles. -/
theorem WellFormed.nodup_titles (wf : c.WellFormed) (words : c.IsInWords) {target : Service}
    (ht : target ∈ c.services) : (target.kinds.map (·.title)).Nodup := by
  rw [List.nodup_iff_pairwise_ne, List.pairwise_map]
  refine (wf.apart target ht).imp_of_mem fun {k k'} hk hk' apart same => apart ?_
  exact (ResourceKind.title_eq_iff (words target ht k hk) (words target ht k' hk')).1 same

end Catalog

namespace Sweep

variable {cloud : Cloud} {s : Settings} {endpoints : List ClusterEndpoint} {catalog : Catalog}
  {moves : List Move} {report : Report} {p : KindPlace}

/-- The kind is at its place in its service, and there alone the service has a kind with its title. -/
def KindPlace.IsToldIn (p : KindPlace) (catalog : Catalog) : Prop :=
  ∃ target, catalog.services[p.service]? = some target ∧ target.kinds[p.index]? = some p.kind ∧
    ∀ (j : Nat) (k : ResourceKind), target.kinds[j]? = some k → k.title = p.kind.title → j = p.index

theorem isToldIn_of_mem_sweptKinds (wf : catalog.WellFormed) (words : catalog.IsInWords)
    (hp : p ∈ sweptKinds cloud s catalog) : p.IsToldIn catalog := by
  obtain ⟨target, declared, -, ofKind, -⟩ := mem_sweptKinds_iff.1 hp
  refine ⟨target, declared, ofKind, fun j k there same => ?_⟩
  have apart := wf.nodup_titles words (List.mem_of_getElem? declared)
  have title (i : Nat) (k : ResourceKind) (h : target.kinds[i]? = some k) :
      (target.kinds.map (·.title))[i]? = some k.title := by
    rw [List.getElem?_map, h, Option.map_some]
  have sameTitle := (title j k there).trans (same ▸ (title p.index p.kind ofKind).symm)
  obtain ⟨bound, -⟩ := List.getElem?_eq_some_iff.1 (title j k there)
  exact (List.getElem?_inj bound apart).1 sameTitle

/-- The titles in the report are those of the kinds that failed in the run. -/
theorem failedKinds_of_runs (run : (project s endpoints catalog).Runs cloud moves report) :
    ∃ failed : List KindPlace, report.failedKinds = failed.map (·.kind.title) ∧
      ∀ p ∈ failed, p ∈ sweptKinds cloud s catalog ∧ p.FailsIn s moves := by
  refine ⟨(sweptKinds cloud s catalog).filter (·.fails cloud s), ?_, fun p hp => ?_⟩
  · rw [(projectRun run).report_eq, projectReport_eq]
  · obtain ⟨swept, fails⟩ := List.mem_filter.1 hp
    exact ⟨swept, failsIn_of_fails run swept fails⟩

/-- Titles of kinds in words tell their identities, and so the titles in the report on a catalog that is in
order tell which kinds of their services failed. -/
theorem titles_tell_kinds :
    (∀ k k' : ResourceKind, k.IsInWords → k'.IsInWords →
      (k.title = k'.title ↔ k.identity = k'.identity)) ∧
    ∀ catalog : Catalog, catalog.validate = .ok () → catalog.IsInWords →
      (∀ target ∈ catalog.services, (target.kinds.map (·.title)).Nodup) ∧
      ∀ (cloud : Cloud) (s : Settings) (endpoints : List ClusterEndpoint) (moves : List Move)
        (report : Report), (project s endpoints catalog).Runs cloud moves report →
        ∃ failed : List KindPlace, report.failedKinds = failed.map (·.kind.title) ∧
          ∀ p ∈ failed, p.FailsIn s moves ∧ p.IsToldIn catalog := by
  refine ⟨fun k k' hk hk' => ResourceKind.title_eq_iff hk hk', fun catalog passed words => ?_⟩
  have wf := Catalog.wellFormed_of_validate passed
  refine ⟨fun target ht => wf.nodup_titles words ht, fun cloud s endpoints moves report run => ?_⟩
  obtain ⟨failed, titles, all⟩ := failedKinds_of_runs run
  refine ⟨failed, titles, fun p hp => ?_⟩
  obtain ⟨swept, failsIn⟩ := all p hp
  exact ⟨failsIn, isToldIn_of_mem_sweptKinds wf words swept⟩

/-- Groups of instances in zones. -/
def zonalGroups : ResourceKind := (ResourceKind.of "compute" "instance-groups").withScope .zone

/-- Kinds whose titles differ in one word, or only in its brackets and its place. -/
def groupCatalog : Catalog where
  services := [{
    api := "compute"
    kinds := [
      { zonalGroups with managed := .managed }, { zonalGroups with managed := .unmanaged },
      { zonalGroups with subgroup := some "managed" },
      { (ResourceKind.of "compute" "instance-groups").withScope .region with managed := .managed }] }]

/-- A cloud in which one of them cannot be listed. -/
def groupCloud : InMemory where
  listFailures := ["compute instance-groups (zone) [unmanaged]"]

theorem titles_tell_kinds_groups :
    { zonalGroups with managed := .managed }.title ≠
      { zonalGroups with subgroup := some "managed" }.title ∧
    ∃ moves report,
      (project { project := "p", cutoff := .clearAll } [] groupCatalog).Runs groupCloud.cloud moves
        report ∧
      report.failedKinds = ["compute instance-groups (zone) [unmanaged]"] ∧
      ∃ p : KindPlace, p.kind.title = "compute instance-groups (zone) [unmanaged]" ∧
        p.IsToldIn groupCatalog := by
  obtain ⟨apart, told⟩ := titles_tell_kinds
  have words : groupCatalog.IsInWords := by decide +kernel
  have run := runs_project (s := { project := "p", cutoff := .clearAll }) groupCloud.cloud []
    groupCatalog
  obtain ⟨failed, titles, all⟩ := (told groupCatalog rfl words).2 _ _ _ _ _ run
  have reported : failed.map (·.kind.title) = ["compute instance-groups (zone) [unmanaged]"] := by
    rw [← titles, (projectRun run).report_eq]
    decide +kernel
  obtain ⟨p, rfl, title⟩ := List.map_eq_singleton_iff.1 reported
  refine ⟨?_, _, _, run, titles.trans reported, p, title, (all p List.mem_cons_self).2⟩
  exact mt (apart _ _ (by decide +kernel) (by decide +kernel)).1 (by decide)

end Sweep
end CloudSweep
