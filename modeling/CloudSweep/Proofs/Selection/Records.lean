/-
Listings of clusters and of subnets as a whole. Their records are all read before any is selected, so
that a listing fails exactly when one of its records cannot be read, wherever it stands and whatever
the age that is asked for.
-/
import CloudSweep.Selection.Cluster
import CloudSweep.Selection.Subnet
import Mathlib.Data.List.Forall2

namespace CloudSweep

section Reading

variable {ε α β : Type} {f : α → Except ε β} {as : List α}

/-- Reading a list succeeds exactly when reading each of its elements does, one by one. -/
theorem mapM_eq_ok_iff {bs : List β} :
    as.mapM f = .ok bs ↔ List.Forall₂ (fun a b => f a = .ok b) as bs := by
  induction as generalizing bs with
  | nil => simp [pure, Except.pure, eq_comm]
  | cons a as ih =>
    rw [List.mapM_cons, List.forall₂_cons_left_iff]
    rcases ha : f a with e | b
    · simp [bind, Except.bind]
    rcases hm : as.mapM f with e | bs'
    · refine iff_of_false nofun ?_
      rintro ⟨_, rest, -, related, -⟩
      cases hm.symm.trans (ih.2 related)
    · constructor
      · intro done
        cases done
        exact ⟨b, bs', rfl, ih.1 hm, rfl⟩
      · rintro ⟨_, rest, same, related, rfl⟩
        cases same
        cases hm.symm.trans (ih.2 related)
        rfl

/-- Reading a list fails exactly as the first of its elements does that cannot be read. -/
theorem mapM_eq_error_iff {e : ε} :
    as.mapM f = .error e ↔
      ∃ before a after, as = before ++ a :: after ∧ (∀ a' ∈ before, ∃ b, f a' = .ok b) ∧
        f a = .error e := by
  induction as with
  | nil =>
    refine iff_of_false nofun ?_
    rintro ⟨_ | _, _, _, h, -⟩ <;> cases h
  | cons a as ih =>
    rw [List.mapM_cons]
    rcases ha : f a with e' | b
    · constructor
      · intro failed
        cases failed
        exact ⟨[], a, as, rfl, nofun, ha⟩
      · rintro ⟨_ | ⟨a', before⟩, first, after, same, read, failed⟩
        · cases same
          cases ha.symm.trans failed
          rfl
        · cases same
          obtain ⟨_, read⟩ := read a List.mem_cons_self
          cases ha.symm.trans read
    · have rest : (as.mapM f >>= fun bs => pure (b :: bs)) = .error e ↔ as.mapM f = .error e := by
        cases as.mapM f <;> simp [bind, Except.bind, pure, Except.pure]
      show (as.mapM f >>= fun bs => pure (b :: bs)) = .error e ↔ _
      rw [rest, ih]
      constructor
      · rintro ⟨before, first, after, rfl, read, failed⟩
        exact ⟨a :: before, first, after, rfl, List.forall_mem_cons.2 ⟨⟨b, ha⟩, read⟩, failed⟩
      · rintro ⟨_ | ⟨a', before⟩, first, after, same, read, failed⟩
        · cases same
          cases ha.symm.trans failed
        · cases same
          exact ⟨before, first, after, rfl, (List.forall_mem_cons.1 read).2, failed⟩

theorem exists_mapM_ok_iff : (∃ bs, as.mapM f = .ok bs) ↔ ∀ a ∈ as, ∃ b, f a = .ok b := by
  constructor
  · rintro ⟨bs, done⟩
    have related := (mapM_eq_ok_iff.1 done).imp fun a b read => And.intro (Exists.intro b read) read
    exact ((List.forall₂_and_left as bs).1 related).1
  · intro read
    rcases hm : as.mapM f with e | bs
    · obtain ⟨before, a, after, rfl, -, failed⟩ := mapM_eq_error_iff.1 hm
      obtain ⟨b, read⟩ := read a (by simp)
      cases failed.symm.trans read
    · exact ⟨bs, rfl⟩

/-- Reading a list fails exactly when reading one of its elements does. -/
theorem exists_mapM_error_iff : (∃ e, as.mapM f = .error e) ↔ ∃ a ∈ as, ∃ e, f a = .error e := by
  constructor
  · rintro ⟨e, failed⟩
    obtain ⟨before, a, after, rfl, -, failed⟩ := mapM_eq_error_iff.1 failed
    exact ⟨a, by simp, e, failed⟩
  · rintro ⟨a, ha, e, failed⟩
    rcases hm : as.mapM f with e' | bs
    · exact ⟨e', rfl⟩
    · obtain ⟨b, read⟩ := exists_mapM_ok_iff.1 ⟨bs, hm⟩ a ha
      cases failed.symm.trans read

/-- Reading a list succeeds when reading each of its elements does. -/
theorem mapM_eq_ok {g : α → β} (h : ∀ a ∈ as, f a = .ok (g a)) : as.mapM f = .ok (as.map g) :=
  mapM_eq_ok_iff.2 (List.forall₂_map_right_iff.2 (List.forall₂_same.2 h))

end Reading

namespace ClusterRecord

variable {cutoff : Cutoff} {records : List ClusterRecord}

/-- Why a listing of clusters fails has nothing to do with the cutoff. -/
theorem stale_eq_error_iff {error : SelectionError} :
    stale cutoff records = .error error ↔
      ∃ defect, records.mapM target? = .error defect ∧ error = .malformed label defect := by
  unfold stale
  cases records.mapM target? with
  | error defect => simp [eq_comm]
  | ok targets => simp

/-- A listing of clusters fails exactly when one of its records has a defect. -/
theorem exists_stale_error_iff :
    (∃ error, stale cutoff records = .error error) ↔
      ∃ record ∈ records, ∃ defect, record.target? = .error defect := by
  rw [← exists_mapM_error_iff]
  constructor
  · rintro ⟨error, failed⟩
    obtain ⟨defect, failed, -⟩ := stale_eq_error_iff.1 failed
    exact ⟨defect, failed⟩
  · rintro ⟨defect, failed⟩
    exact ⟨_, stale_eq_error_iff.2 ⟨defect, failed, rfl⟩⟩

end ClusterRecord

namespace SubnetRecord

/-- The record has a name, and the address of a region that ends in the region's name. -/
def isComplete (r : SubnetRecord) : Bool :=
  r.name.any (· ≠ "") && r.region.any (Text.lastSegment · ≠ "")

/-- The subnet of a complete record. -/
def target (r : SubnetRecord) : Subnet :=
  { name := r.name.getD "", region := Text.lastSegment (r.region.getD "") }

variable {r : SubnetRecord} {records : List SubnetRecord}

theorem subnet?_of_complete (complete : r.isComplete = true) : r.subnet? = .ok r.target := by
  obtain ⟨_ | name, _ | region⟩ := r
  · cases complete
  · cases complete
  · simp [isComplete] at complete
  · simp only [isComplete, Option.any_some, Bool.and_eq_true, decide_eq_true_eq] at complete
    simp [subnet?, target, complete.1, complete.2]

theorem subnet?_of_incomplete (incomplete : r.isComplete = false) :
    r.subnet? = .error (.malformed label (.incompleteSubnet r)) := by
  obtain ⟨_ | name, _ | region⟩ := r
  · rfl
  · rfl
  · rfl
  · have missing : name = "" ∨ Text.lastSegment region = "" := by
      simpa [isComplete, Classical.or_iff_not_imp_left] using incomplete
    simp [subnet?, missing]

/-- A listing of subnets fails exactly when one of its records has a defect. -/
theorem exists_subnets_error_iff :
    (∃ error, subnets records = .error error) ↔
      ∃ record ∈ records, ∃ error, record.subnet? = .error error :=
  exists_mapM_error_iff

/-- A record has a defect exactly when it is not complete. -/
theorem exists_subnet?_error_iff : (∃ error, r.subnet? = .error error) ↔ r.isComplete = false := by
  constructor
  · rintro ⟨error, failed⟩
    cases complete : r.isComplete with
    | false => rfl
    | true =>
      rw [subnet?_of_complete complete] at failed
      cases failed
  · intro incomplete
    exact ⟨_, subnet?_of_incomplete incomplete⟩

/-- The subnets of a listing that has no defect are those of its records, one for one. -/
theorem subnets_of_complete (complete : ∀ r ∈ records, r.isComplete = true) :
    subnets records = .ok (records.map target) :=
  mapM_eq_ok fun r hr => subnet?_of_complete (complete r hr)

theorem subnets_eq_ok_iff {targets : List Subnet} :
    subnets records = .ok targets ↔
      (∀ r ∈ records, r.isComplete = true) ∧ targets = records.map target := by
  constructor
  · intro selected
    have complete : ∀ r ∈ records, r.isComplete = true := by
      intro r hr
      cases incomplete : r.isComplete with
      | true => rfl
      | false =>
        have failed := exists_subnets_error_iff.2 ⟨r, hr, exists_subnet?_error_iff.2 incomplete⟩
        obtain ⟨error, failed⟩ := failed
        cases failed.symm.trans selected
    refine ⟨complete, ?_⟩
    rw [subnets_of_complete complete] at selected
    exact (Except.ok.inj selected).symm
  · rintro ⟨complete, rfl⟩
    exact subnets_of_complete complete

end SubnetRecord
end CloudSweep
