/-
Stale clusters. A listing of clusters is accepted exactly when each of its records, old or young, has
a name, a creation time that can be read, and a zone or a region; what is stale then are the clusters
of the old records, one for one and in their order. A listing that is not accepted fails with the first
thing that is wrong with the first record that is not in order.
-/
import CloudSweep.Proofs.Selection.Records

namespace CloudSweep.ClusterRecord

/-- The record has a name, a creation time that can be read, and a zone or a region. -/
structure Complete (r : ClusterRecord) : Prop where
  named : ∃ name, r.name = some name ∧ name ≠ ""
  timed : ∃ raw created, r.createTime = some raw ∧ Timestamp.read raw = some created
  placed : r.zone ≠ none ∨ r.region ≠ none

/-- The first thing that is wrong with the record: its name, then a creation time that is missing, then
its place, and a creation time that cannot be read last. -/
inductive Fault (r : ClusterRecord) : Defect → Prop
  | nameless (unnamed : r.name = none ∨ r.name = some "") : Fault r .namelessCluster
  | timeless {name : String} (named : r.name = some name) (nonempty : name ≠ "")
      (untimed : r.createTime = none) : Fault r (.clusterWithoutTime name)
  | placeless {name : String} (named : r.name = some name) (nonempty : name ≠ "")
      (timed : r.createTime ≠ none) (noZone : r.zone = none) (noRegion : r.region = none) :
      Fault r (.clusterWithoutLocation name)
  | unreadable {name raw : String} (named : r.name = some name) (nonempty : name ≠ "")
      (timed : r.createTime = some raw) (placed : r.zone ≠ none ∨ r.region ≠ none)
      (illegible : Timestamp.read raw = none) : Fault r (.unreadableClusterTime name raw)

/-- The cluster of the record, in its zone if it has one, and otherwise in its region. -/
inductive Describes (r : ClusterRecord) : ClusterTarget → Prop
  | inZone {name zone : String} (named : r.name = some name) (there : r.zone = some zone) :
      Describes r { name, location := .zone zone }
  | inRegion {name region : String} (named : r.name = some name) (noZone : r.zone = none)
      (there : r.region = some region) : Describes r { name, location := .region region }

/-- The record has a creation time that the cutoff takes. -/
def isOld (cutoff : Cutoff) (r : ClusterRecord) : Bool :=
  (r.createTime.bind Timestamp.read).any cutoff.includes

variable {cutoff : Cutoff} {r : ClusterRecord} {records : List ClusterRecord} {t t' : ClusterTarget}
  {targets : List ClusterTarget} {created : Instant} {defect : Defect}

/-! ## Records -/

theorem Describes.unique (h : r.Describes t) (h' : r.Describes t') : t = t' := by
  cases h with
  | inZone named there =>
    cases h' with
    | inZone named' there' =>
      cases named.symm.trans named'
      cases there.symm.trans there'
      rfl
    | inRegion _ noZone => cases there.symm.trans noZone
  | inRegion named noZone there =>
    cases h' with
    | inZone _ there' => cases noZone.symm.trans there'
    | inRegion named' _ there' =>
      cases named.symm.trans named'
      cases there.symm.trans there'
      rfl

/-- A place that is found is the one that describes the cluster; none is found only if none is there. -/
theorem location?_cases (r : ClusterRecord) :
    (r.location? = none ∧ r.zone = none ∧ r.region = none) ∨
      ∃ location, r.location? = some location ∧ (r.zone ≠ none ∨ r.region ≠ none) ∧
        ∀ name, r.name = some name → r.Describes { name, location } := by
  unfold location?
  rcases hz : r.zone with _ | zone
  · rcases hr : r.region with _ | region
    · exact .inl ⟨rfl, rfl, rfl⟩
    · exact .inr ⟨_, rfl, .inr nofun, fun _ named => .inRegion named hz hr⟩
  · exact .inr ⟨_, rfl, .inl nofun, fun _ named => .inZone named hz⟩

/-- Reading a record shows the first thing that is wrong with it, or else its cluster. -/
theorem target?_cases (r : ClusterRecord) :
    (∃ defect, r.target? = .error defect ∧ r.Fault defect) ∨
      ∃ t created, r.target? = .ok (t, created) ∧ r.Complete ∧ r.Describes t ∧
        r.createTime.bind Timestamp.read = some created := by
  unfold target?
  rcases hn : r.name with _ | name
  · exact .inl ⟨_, rfl, .nameless (.inl hn)⟩
  by_cases empty : name = ""
  · subst empty
    exact .inl ⟨_, rfl, .nameless (.inr hn)⟩
  rcases ht : r.createTime with _ | raw
  · exact .inl ⟨.clusterWithoutTime name, by simp, .timeless hn empty ht⟩
  rcases location?_cases r with ⟨nowhere, noZone, noRegion⟩ | ⟨location, found, placed, describes⟩
  · exact .inl ⟨.clusterWithoutLocation name, by simp [nowhere],
      .placeless hn empty (by simp [ht]) noZone noRegion⟩
  rcases hr : Timestamp.read raw with _ | created
  · exact .inl ⟨.unreadableClusterTime name raw, by simp [found, hr],
      .unreadable hn empty ht placed hr⟩
  · refine .inr ⟨{ name, location }, created, by simp [found, hr], ?_, describes name hn, hr⟩
    exact ⟨⟨name, hn, empty⟩, ⟨raw, created, ht, hr⟩, placed⟩

theorem target?_of_fault (h : r.Fault defect) : r.target? = .error defect := by
  unfold target?
  cases h with
  | nameless unnamed =>
    rcases unnamed with absent | blank
    · rw [absent]
    · rw [blank]
      rfl
  | timeless named nonempty untimed => simp [named, untimed]
  | placeless named nonempty timed noZone noRegion =>
    obtain ⟨raw, timed⟩ := Option.ne_none_iff_exists'.1 timed
    simp [named, timed, location?, noZone, noRegion]
  | unreadable named nonempty timed placed illegible =>
    rcases location?_cases r with ⟨-, noZone, noRegion⟩ | ⟨location, found, -⟩
    · exact absurd placed (by simp [noZone, noRegion])
    · simp [named, timed, found, illegible]

theorem target?_eq_error_iff : r.target? = .error defect ↔ r.Fault defect := by
  refine ⟨fun h => ?_, target?_of_fault⟩
  rcases target?_cases r with ⟨defect', failed, fault⟩ | ⟨t, created, read, -⟩
  · cases h.symm.trans failed
    exact fault
  · cases h.symm.trans read

/-- A record with a fault is not in order. -/
theorem Fault.not_complete (h : r.Fault defect) : ¬ r.Complete := by
  rintro ⟨⟨name, named, nonempty⟩, ⟨raw, created, timed, legible⟩, placed⟩
  cases h with
  | nameless unnamed =>
    rcases unnamed with absent | blank
    · cases named.symm.trans absent
    · cases named.symm.trans blank
      exact nonempty rfl
  | timeless _ _ untimed => cases timed.symm.trans untimed
  | placeless _ _ _ noZone noRegion => exact placed.elim (absurd noZone) (absurd noRegion)
  | unreadable _ _ timed' _ illegible =>
    cases timed.symm.trans timed'
    cases legible.symm.trans illegible

theorem exists_target?_iff : (∃ read, r.target? = .ok read) ↔ r.Complete := by
  rcases target?_cases r with ⟨defect, failed, fault⟩ | ⟨t, created, read, complete, -, -⟩
  · rw [failed]
    exact iff_of_false nofun fault.not_complete
  · exact iff_of_true ⟨_, read⟩ complete

theorem describes_of_target? (h : r.target? = .ok (t, created)) : r.Describes t := by
  rcases target?_cases r with ⟨defect, failed, -⟩ | ⟨t', created', read, -, describes, -⟩
  · cases h.symm.trans failed
  · cases h.symm.trans read
    exact describes

theorem isOld_of_target? (h : r.target? = .ok (t, created)) :
    r.isOld cutoff = cutoff.includes created := by
  rcases target?_cases r with ⟨defect, failed, -⟩ | ⟨t', created', read, -, -, dated⟩
  · cases h.symm.trans failed
  · cases h.symm.trans read
    rw [isOld, dated, Option.any_some]

/-! ## Listings -/

/-- Of what was read the old part describes the old records. -/
theorem describes_old {read : List (ClusterTarget × Instant)}
    (h : List.Forall₂ (fun r p => r.target? = .ok p) records read) :
    List.Forall₂ Describes (records.filter (isOld cutoff))
      ((read.filter fun p => cutoff.includes p.2).map Prod.fst) := by
  have sameAge (r : ClusterRecord) (p : ClusterTarget × Instant) (read : r.target? = .ok p) :
      isOld cutoff r = true ↔ cutoff.includes p.2 = true := by rw [isOld_of_target? read]
  have kept := List.rel_filter sameAge h
  exact List.forall₂_map_right_iff.2 (kept.imp fun _ _ => describes_of_target?)

theorem complete_of_stale (h : stale cutoff records = .ok targets) : ∀ r ∈ records, r.Complete := by
  unfold stale at h
  rcases hm : records.mapM target? with defect | read
  · rw [hm] at h
    cases h
  · exact fun r hr => exists_target?_iff.1 (exists_mapM_ok_iff.1 ⟨read, hm⟩ r hr)

theorem describes_of_stale (h : stale cutoff records = .ok targets) :
    List.Forall₂ Describes (records.filter (isOld cutoff)) targets := by
  unfold stale at h
  rcases hm : records.mapM target? with defect | read
  · rw [hm] at h
    cases h
  · rw [hm] at h
    cases h
    exact describes_old (mapM_eq_ok_iff.1 hm)

theorem exists_stale_iff : (∃ targets, stale cutoff records = .ok targets) ↔
    ∀ r ∈ records, r.Complete := by
  refine ⟨fun ⟨_, h⟩ => complete_of_stale h, fun complete => ?_⟩
  obtain ⟨read, hm⟩ := exists_mapM_ok_iff.2 fun r hr => exists_target?_iff.2 (complete r hr)
  exact ⟨_, by rw [stale, hm]⟩

/-- Selection from a listing of clusters succeeds exactly when all of its records are in order, and
then it gives the clusters of the old records, in their order. Otherwise it fails with the first thing
that is wrong with the first record that is not in order. -/
theorem stale_of_listing (cutoff : Cutoff) (records : List ClusterRecord) :
    ((∃ targets, stale cutoff records = .ok targets) ↔ ∀ r ∈ records, r.Complete) ∧
      (∀ targets, stale cutoff records = .ok targets ↔
        (∀ r ∈ records, r.Complete) ∧
          List.Forall₂ Describes (records.filter (isOld cutoff)) targets) ∧
      ∀ error, stale cutoff records = .error error ↔
        ∃ before r after defect, records = before ++ r :: after ∧ (∀ r' ∈ before, r'.Complete) ∧
          r.Fault defect ∧ error = .malformed label defect := by
  refine ⟨exists_stale_iff, fun targets => ⟨fun h => ⟨complete_of_stale h, describes_of_stale h⟩, ?_⟩,
    fun error => ?_⟩
  · rintro ⟨complete, described⟩
    obtain ⟨targets', h⟩ := exists_stale_iff.2 complete
    have unique : Relator.RightUnique Describes := fun _ _ _ => Describes.unique
    rw [unique.forall₂ described (describes_of_stale h)]
    exact h
  · simp only [stale_eq_error_iff, mapM_eq_error_iff, target?_eq_error_iff, exists_target?_iff]
    constructor
    · rintro ⟨defect, ⟨before, r, after, split, complete, fault⟩, same⟩
      exact ⟨before, r, after, defect, split, complete, fault, same⟩
    · rintro ⟨before, r, after, defect, split, complete, fault, same⟩
      exact ⟨defect, ⟨before, r, after, split, complete, fault⟩, same⟩

/-- A cluster with a zone and a region, a young one, and one with a region only. -/
def mixedClusters : List ClusterRecord := [
  { name := some "a", createTime := some "2023-01-01T00:00:00", zone := some "z", region := some "r" },
  { name := some "young", createTime := some "2030-01-01T00:00:00Z", zone := some "z" },
  { name := some "b", createTime := some "2023-01-01T00:00:00+02:00", region := some "r" }]

theorem stale_of_listing_mixed :
    stale (.before ⟨1704067200, 0⟩) mixedClusters =
        .ok [{ name := "a", location := .zone "z" }, { name := "b", location := .region "r" }] ∧
      stale (.before ⟨1704067200, 0⟩) (mixedClusters ++ [{ name := some "c" }, { zone := some "z" }]) =
        .error (.malformed label (.clusterWithoutTime "c")) := by
  have complete : ∀ r ∈ mixedClusters, r.Complete := by
    simp only [mixedClusters, List.forall_mem_cons]
    exact ⟨⟨⟨_, rfl, by decide⟩, ⟨_, _, rfl, rfl⟩, .inl nofun⟩,
      ⟨⟨_, rfl, by decide⟩, ⟨_, _, rfl, rfl⟩, .inl nofun⟩,
      ⟨⟨_, rfl, by decide⟩, ⟨_, _, rfl, rfl⟩, .inr nofun⟩, nofun⟩
  constructor
  · refine ((stale_of_listing _ _).2.1 _).2 ⟨complete, ?_⟩
    have old : mixedClusters.filter (isOld (.before ⟨1704067200, 0⟩)) =
        [mixedClusters[0], mixedClusters[2]] := by decide +kernel
    rw [old]
    exact .cons (.inZone rfl rfl) (.cons (.inRegion rfl rfl rfl) .nil)
  · exact ((stale_of_listing _ _).2.2 _).2
      ⟨mixedClusters, _, [_], _, rfl, complete, .timeless rfl (by decide) rfl, rfl⟩

end CloudSweep.ClusterRecord
