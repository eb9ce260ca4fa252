/-
The accounts of the subnet sweep. Nothing is done when the listing fails or has an incomplete record.
Otherwise each subnet is described, and updated once if it has ranges and all of them have names: then
all of them go, and never just some. Every subnet is counted in exactly one way.
-/
import CloudSweep.Call.InMemory
import CloudSweep.Proofs.Deletion.Outcome
import CloudSweep.Proofs.Selection.Records
import CloudSweep.Proofs.Sweep.Trace

namespace CloudSweep

/-! ## The names of ranges -/

namespace SecondaryRange

/-- The name of the range; empty if it has none. -/
def knownName (range : SecondaryRange) : String := range.rangeName.getD ""

/-- Whether the range has a name. -/
def isNamed (range : SecondaryRange) : Bool := range.knownName ≠ ""

variable {range : SecondaryRange} {ranges : List SecondaryRange}

theorem names_cons_of_named (named : range.isNamed = true) :
    names (range :: ranges) = (names ranges).map (range.knownName :: ·) := by
  obtain ⟨_ | name, _⟩ := range
  · cases named
  · have nonempty : name ≠ "" := of_decide_eq_true named
    simp [names, knownName]

theorem names_cons_of_nameless (nameless : range.isNamed = false) :
    names (range :: ranges) = .error range := by
  obtain ⟨_ | name, _⟩ := range
  · rfl
  · have empty : name = "" := not_not.1 (of_decide_eq_false nameless)
    rw [empty]
    rfl

/-- Ranges that all have names have all their names taken. -/
theorem names_of_all (named : ranges.all isNamed = true) :
    names ranges = .ok (ranges.map knownName) := by
  induction ranges with
  | nil => rfl
  | cons range ranges ih =>
    rw [List.all_cons, Bool.and_eq_true] at named
    rw [names_cons_of_named named.1, ih named.2]
    rfl

/-- One range without a name is enough for none of the names to be taken. -/
theorem names_of_not_all (nameless : ranges.all isNamed = false) :
    ∃ range, names ranges = .error range := by
  induction ranges with
  | nil => cases nameless
  | cons range ranges ih =>
    cases named : range.isNamed with
    | false => exact ⟨range, names_cons_of_nameless named⟩
    | true =>
      rw [List.all_cons, named, Bool.true_and] at nameless
      obtain ⟨other, failed⟩ := ih nameless
      refine ⟨other, ?_⟩
      rw [names_cons_of_named named, failed]
      rfl

theorem names_eq_ok_iff {names' : List String} :
    names ranges = .ok names' ↔ ranges.all isNamed = true ∧ names' = ranges.map knownName := by
  cases named : ranges.all isNamed with
  | false =>
    obtain ⟨range, failed⟩ := names_of_not_all named
    simp [failed]
  | true => simp [names_of_all named, eq_comm]

theorem not_all_of_names_eq_error (failed : names ranges = .error range) :
    ranges.all isNamed = false := by
  cases named : ranges.all isNamed with
  | false => rfl
  | true =>
    rw [names_of_all named] at failed
    cases failed

theorem empty_not_mem_map_knownName (named : ranges.all isNamed = true) :
    "" ∉ ranges.map knownName := by
  intro h
  obtain ⟨range, hr, empty⟩ := List.mem_map.1 h
  exact of_decide_eq_true (List.all_eq_true.1 named range hr) empty

end SecondaryRange

/-- The subnet that the move takes ranges off. -/
def Move.updatedSubnet? : Move → Option Subnet
  | .asked _ (.updateSubnet _ target _) (.ok ()) => some target
  | _ => none

namespace Sweep

variable {cloud : Cloud} {s : Settings} {moves : List Move}

/-! ## What comes of a subnet -/

section Subnet

variable (cloud : Cloud) (s : Settings) (index : Nat) (target : Subnet)

/-- The ranges of the subnet; asking for them may fail. -/
def description : Except CallError (List SecondaryRange) :=
  cloud.answer (.subnetDescription index) (.describeSubnet s.project target)

/-- The subnet cannot be described. -/
def isUndescribed : Bool := !(description cloud s index target).isOk

/-- The subnet was described, and has no ranges. -/
def isBare : Bool :=
  match description cloud s index target with
  | .ok ranges => ranges.isEmpty
  | .error _ => false

/-- The subnet was described, and one of its ranges has no name. -/
def isObscure : Bool :=
  match description cloud s index target with
  | .ok ranges => !ranges.all (·.isNamed)
  | .error _ => false

/-- The subnet was described, it has ranges, and all of them have names. -/
def isRemovable : Bool :=
  match description cloud s index target with
  | .ok ranges => !ranges.isEmpty && ranges.all (·.isNamed)
  | .error _ => false

/-- The names of all ranges of the subnet, in order. -/
def rangeNames : List String :=
  match description cloud s index target with
  | .ok ranges => ranges.map (·.knownName)
  | .error _ => []

/-- The ranges of the subnet cannot be removed. -/
def isRefused : Bool :=
  !(cloud.answer (.subnetUpdate index)
    (.updateSubnet s.project target (rangeNames cloud s index target))).isOk

/-- The subnet is updated: its ranges go, or would go if the run were not dry. -/
def isUpdated : Bool :=
  isRemovable cloud s index target && (s.dryRun || !isRefused cloud s index target)

/-- The subnet is skipped: it is not described, a range has no name, or the update is refused. -/
def isSkipped : Bool :=
  isUndescribed cloud s index target || isObscure cloud s index target ||
    isRemovable cloud s index target && !s.dryRun && isRefused cloud s index target

/-- What comes of the subnet. -/
def subnetOutcome : SubnetOutcome :=
  if isBare cloud s index target then .unchanged
  else if isUpdated cloud s index target then .updated
  else .skipped

variable {cloud s index target}

theorem rangeNames_eq {ranges : List SecondaryRange}
    (described : description cloud s index target = .ok ranges) :
    rangeNames cloud s index target = ranges.map (·.knownName) := by
  rw [rangeNames, described]

/-- The subnet is updated exactly when its ranges can be told and the run is not dry. -/
theorem updateCalls_eq :
    updateCalls cloud s index target =
      if isRemovable cloud s index target && !s.dryRun then
        [(.subnetUpdate index,
          .updateSubnet s.project target (rangeNames cloud s index target))]
      else [] := by
  unfold updateCalls isRemovable rangeNames description
  rcases cloud.answer (.subnetDescription index) (.describeSubnet s.project target) with
    error | _ | ⟨first, others⟩
  · rfl
  · rfl
  cases named : (first :: others).all (·.isNamed) with
  | false =>
    obtain ⟨range, failed⟩ := SecondaryRange.names_of_not_all named
    simp [failed, named]
  | true =>
    have names := SecondaryRange.names_of_all named
    cases dry : s.dryRun with
    | false => simp [names, named]
    | true => simp [names]

/-- Under every schedule the subnet comes to the same. -/
theorem SubnetRun.outcome_eq {outcome : SubnetOutcome}
    (run : SubnetRun cloud s index target moves outcome) :
    outcome = subnetOutcome cloud s index target := by
  unfold subnetOutcome isBare isUpdated isRemovable Sweep.description
  cases run with
  | unknown description => simp [description]
  | bare description => simp [description]
  | @nameless ranges range description unnamed =>
    have nonempty : ranges ≠ [] := fun empty => by
      rw [empty] at unnamed
      cases unnamed
    simp [description, nonempty, SecondaryRange.not_all_of_names_eq_error unnamed]
  | dry description nonempty named dry =>
    obtain ⟨all, rfl⟩ := SecondaryRange.names_eq_ok_iff.1 named
    simp [description, nonempty, all, dry]
  | updated description nonempty named live update =>
    obtain ⟨all, rfl⟩ := SecondaryRange.names_eq_ok_iff.1 named
    have removed : isRefused cloud s index target = false := by
      rw [isRefused, rangeNames_eq description, update]
      rfl
    simp [description, nonempty, all, live, removed]
  | refused description nonempty named live update =>
    obtain ⟨all, rfl⟩ := SecondaryRange.names_eq_ok_iff.1 named
    have refused : isRefused cloud s index target = true := by
      rw [isRefused, rangeNames_eq description, update]
      rfl
    simp [description, nonempty, all, live, refused]

/-- A subnet that is bare has nothing to remove. -/
theorem isRemovable_of_isBare (bare : isBare cloud s index target = true) :
    isRemovable cloud s index target = false := by
  unfold isBare at bare
  unfold isRemovable
  split
  · rename_i described
    rw [described] at bare
    dsimp only at bare
    rw [bare]
    rfl
  · rfl

theorem subnetOutcome_eq_unchanged_iff :
    subnetOutcome cloud s index target = .unchanged ↔ isBare cloud s index target = true := by
  unfold subnetOutcome
  by_cases bare : isBare cloud s index target = true
  · simp [bare]
  · cases isUpdated cloud s index target <;> simp [bare]

theorem subnetOutcome_eq_updated_iff :
    subnetOutcome cloud s index target = .updated ↔ isUpdated cloud s index target = true := by
  unfold subnetOutcome
  by_cases bare : isBare cloud s index target = true
  · simp [bare, isUpdated, isRemovable_of_isBare bare]
  · cases isUpdated cloud s index target <;> simp [bare]

/-- A subnet is described or not; if it is, then it has no ranges, or one without a name, or only
ranges with names. -/
theorem subnetOutcome_eq_skipped_iff :
    subnetOutcome cloud s index target = .skipped ↔ isSkipped cloud s index target = true := by
  unfold subnetOutcome isUpdated isSkipped isBare isObscure isUndescribed isRemovable
  rcases description cloud s index target with error | _ | ⟨first, others⟩
  · simp
  · simp
  · by_cases named : (first :: others).all (·.isNamed) = true
    · cases s.dryRun <;> cases isRefused cloud s index target <;> simp [named]
    · simp [named]

/-- In a live run the moves take the ranges off a subnet that is updated, and off no other. -/
theorem SubnetRun.updatedSubnets {outcome : SubnetOutcome} (live : s.dryRun = false)
    (run : SubnetRun cloud s index target moves outcome) :
    moves.filterMap Move.updatedSubnet? =
      (if isUpdated cloud s index target then some target else none).toList := by
  have updated : isUpdated cloud s index target = decide (outcome = .updated) := by
    rw [run.outcome_eq]
    exact Bool.eq_iff_iff.2 (subnetOutcome_eq_updated_iff.symm.trans decide_eq_true_iff.symm)
  rw [updated]
  cases run with
  | unknown => rfl
  | bare => rfl
  | nameless => rfl
  | dry _ _ _ dry => exact absurd (live.symm.trans dry) Bool.false_ne_true
  | updated => rfl
  | refused => rfl

end Subnet

/-! ## All subnets -/

/-- The runs of a sweep of the subnets that are all complete: each with what comes of it. -/
theorem outcomes_eq {records : List SubnetRecord} {outcomes : List SubnetOutcome}
    (sweep : (Program.each (subnet s) 0 (records.map (·.target))).Runs cloud moves outcomes) :
    outcomes = records.zipIdx.map fun r => subnetOutcome cloud s r.2 r.1.target := by
  have settled := Program.results_of_runs_each (g := subnetOutcome cloud s) sweep
    fun _ _ _ _ run => (subnetRun run).outcome_eq
  rw [settled, List.zipIdx_map, List.map_map]
  rfl

/-- How many subnets came to an outcome. -/
theorem count_outcomes (cloud : Cloud) (s : Settings) (records : List SubnetRecord)
    {outcome : SubnetOutcome} {p : Nat → Subnet → Bool}
    (h : ∀ i t, subnetOutcome cloud s i t = outcome ↔ p i t = true) :
    (records.zipIdx.map fun r => subnetOutcome cloud s r.2 r.1.target).count outcome =
      records.zipIdx.countP fun r => p r.2 r.1.target := by
  rw [List.count_eq_countP, List.countP_map]
  exact List.countP_congr fun r _ => beq_iff_eq.trans (h r.2 r.1.target)

/-- Every subnet came to one of three outcomes. -/
theorem count_add_count_add_count (outcomes : List SubnetOutcome) :
    outcomes.count .updated + outcomes.count .skipped + outcomes.count .unchanged =
      outcomes.length := by
  induction outcomes with
  | nil => rfl
  | cons outcome outcomes ih =>
    rw [List.length_cons, ← ih]
    cases outcome <;> simp <;> omega

/-- What a sweep of the subnets comes to when all records of their listing are complete. -/
structure SubnetAccounts (cloud : Cloud) (s : Settings) (records : List SubnetRecord)
    (moves : List Move) (outcomes : List SubnetOutcome) : Prop where
  complete : ∀ r ∈ records, r.isComplete = true
  /-- A subnet is described, and updated right after that if its ranges can be told. -/
  calls : calls moves = (.subnetListing, .listSubnets s.project s.filter) ::
    records.zipIdx.flatMap fun r =>
      (.subnetDescription r.2, .describeSubnet s.project r.1.target) ::
        if isRemovable cloud s r.2 r.1.target && !s.dryRun then
          [(.subnetUpdate r.2,
            .updateSubnet s.project r.1.target (rangeNames cloud s r.2 r.1.target))]
        else []
  /-- An update takes all ranges that the subnet was described with, and at least one. -/
  whole : ∀ site project target names,
    (site, .updateSubnet project target names) ∈ CloudSweep.calls moves →
      ∃ i ranges, site = .subnetUpdate i ∧
        .asked (.subnetDescription i) (.describeSubnet project target) (.ok ranges) ∈ moves ∧
        names = ranges.map (·.knownName) ∧ names ≠ [] ∧ "" ∉ names
  subnets : outcomes.length = records.length
  updated : outcomes.count .updated =
    records.zipIdx.countP fun r => isUpdated cloud s r.2 r.1.target
  removed : s.dryRun = false →
    outcomes.count .updated = (moves.filterMap Move.updatedSubnet?).length
  skipped : outcomes.count .skipped =
    records.zipIdx.countP fun r => isSkipped cloud s r.2 r.1.target
  unchanged : outcomes.length - outcomes.count .updated - outcomes.count .skipped =
    records.zipIdx.countP fun r => isBare cloud s r.2 r.1.target
  counted : outcomes.count .updated + outcomes.count .skipped ≤ outcomes.length
  event : subnetsEvent s (.ok outcomes) = .subnetsSwept records.length
    (records.zipIdx.countP fun r => isUpdated cloud s r.2 r.1.target)
    (records.zipIdx.countP fun r => isSkipped cloud s r.2 r.1.target)

section Runs

variable {records : List SubnetRecord} {part : List Move} {outcomes : List SubnetOutcome}

/-- The calls on subnets that are all complete. -/
theorem subnetsCalls_eq
    (listing : cloud.answer .subnetListing (.listSubnets s.project s.filter) = .ok records)
    (complete : ∀ r ∈ records, r.isComplete = true) :
    subnetsCalls cloud s = records.zipIdx.flatMap fun r =>
      (.subnetDescription r.2, .describeSubnet s.project r.1.target) ::
        if isRemovable cloud s r.2 r.1.target && !s.dryRun then
          [(.subnetUpdate r.2,
            .updateSubnet s.project r.1.target (rangeNames cloud s r.2 r.1.target))]
        else [] := by
  simp only [subnetsCalls, listing, SubnetRecord.subnets_of_complete complete, List.zipIdx_map,
    List.flatMap_map, subnetCalls, updateCalls_eq]
  rfl

/-- A subnet whose ranges can be removed was described with some ranges, all of them with names. -/
theorem exists_ranges_of_isRemovable {index : Nat} {target : Subnet}
    (removable : isRemovable cloud s index target = true) :
    ∃ ranges, description cloud s index target = .ok ranges ∧ ranges ≠ [] ∧
      ranges.all (·.isNamed) = true := by
  unfold isRemovable at removable
  split at removable
  · rename_i ranges described
    rw [Bool.and_eq_true, Bool.not_eq_true', List.isEmpty_eq_false_iff] at removable
    exact ⟨ranges, described, removable.1, removable.2⟩
  · cases removable

/-- An update takes all the ranges that its subnet was described with. -/
theorem whole_of_mem_calls {outcome : Except SelectionError (List SubnetOutcome)} {site : Site}
    {project : String} {target : Subnet} {names : List String}
    (run : (subnets s).Runs cloud moves outcome)
    (listing : cloud.answer .subnetListing (.listSubnets s.project s.filter) = .ok records)
    (complete : ∀ r ∈ records, r.isComplete = true)
    (h : (site, .updateSubnet project target names) ∈ calls moves) :
    ∃ i ranges, site = .subnetUpdate i ∧
      .asked (.subnetDescription i) (.describeSubnet project target) (.ok ranges) ∈ moves ∧
      names = ranges.map (·.knownName) ∧ names ≠ [] ∧ "" ∉ names := by
  have closed := (subnetsRun run).calls_eq
  rw [subnetsCalls_eq listing complete] at closed
  have called := h
  rw [closed] at called
  rcases List.mem_cons.1 called with first | called
  · cases first
  obtain ⟨r, hr, called⟩ := List.mem_flatMap.1 called
  rcases List.mem_cons.1 called with first | update
  · cases first
  split at update
  · rename_i removable
    rw [Bool.and_eq_true] at removable
    cases List.mem_singleton.1 update
    obtain ⟨ranges, described, nonempty, named⟩ := exists_ranges_of_isRemovable removable.1
    have called : (.subnetDescription r.2, .describeSubnet s.project r.1.target) ∈ calls moves := by
      rw [closed]
      exact List.mem_cons_of_mem _ (List.mem_flatMap.2 ⟨r, hr, List.mem_cons_self⟩)
    have asked := run.asked_of_mem_calls called id
    rw [show cloud.answer _ _ = _ from described] at asked
    rw [rangeNames_eq described]
    refine ⟨r.2, ranges, rfl, asked, rfl, ?_, SecondaryRange.empty_not_mem_map_knownName named⟩
    exact mt List.map_eq_nil_iff.1 nonempty
  · cases update

/-- In a live run as many subnets are updated as the moves say. -/
theorem length_updatedSubnets (live : s.dryRun = false)
    (sweep : (Program.each (subnet s) 0 (records.map (·.target))).Runs cloud part outcomes) :
    (part.filterMap Move.updatedSubnet?).length =
      records.zipIdx.countP fun r => isUpdated cloud s r.2 r.1.target := by
  have seen : part.filterMap Move.updatedSubnet? = _ := Program.filterMap_of_runs_each
    (g := fun i t => (if isUpdated cloud s i t then some t else none).toList) sweep
    fun _ _ _ _ run => (subnetRun run).updatedSubnets live
  rw [seen, ← List.filterMap_eq_flatMap_toList, List.length_filterMap_eq_countP, List.zipIdx_map,
    List.countP_map]
  refine List.countP_congr fun r _ => ?_
  cases updated : isUpdated cloud s r.2 r.1.target <;> simp [updated]

/-- Subnets that are all complete are accounted for. -/
theorem accounts_of_complete (run : (subnets s).Runs cloud moves (.ok outcomes))
    (listing : cloud.answer .subnetListing (.listSubnets s.project s.filter) = .ok records)
    (complete : ∀ r ∈ records, r.isComplete = true)
    (moves_eq : moves =
      .asked .subnetListing (.listSubnets s.project s.filter) (.ok records) :: part)
    (sweep : (Program.each (subnet s) 0 (records.map (·.target))).Runs cloud part outcomes) :
    SubnetAccounts cloud s records moves outcomes := by
  have closed := outcomes_eq sweep
  have length : outcomes.length = records.length := by
    rw [closed, List.length_map, List.length_zipIdx]
  have updated := count_outcomes cloud s records fun _ _ => subnetOutcome_eq_updated_iff
  have skipped := count_outcomes cloud s records fun _ _ => subnetOutcome_eq_skipped_iff
  have unchanged := count_outcomes cloud s records fun _ _ => subnetOutcome_eq_unchanged_iff
  rw [← closed] at updated skipped unchanged
  have total := count_add_count_add_count outcomes
  constructor
  case complete => exact complete
  case calls => rw [(subnetsRun run).calls_eq, subnetsCalls_eq listing complete]
  case whole => exact fun _ _ _ _ h => whole_of_mem_calls run listing complete h
  case subnets => exact length
  case updated => exact updated
  case removed =>
    intro live
    rw [updated, moves_eq, ← length_updatedSubnets live sweep]
    rfl
  case skipped => exact skipped
  case unchanged => omega
  case counted => omega
  case event => rw [subnetsEvent, length, updated, skipped]

end Runs

/-- A sweep of the subnets comes to its end. -/
theorem runs_subnets (cloud : Cloud) (s : Settings) :
    ∃ moves outcome, (subnets s).Runs cloud moves outcome :=
  ⟨_, _, Program.runs_run cloud (within_subnets.mono (fun _ _ h => h) fun _ _ h => h.elim)⟩

/-- A sweep of the subnets comes to its end, and under every schedule it fails exactly when they cannot
be listed or a record is incomplete, and then it does no more than list them; when it does not fail,
each subnet is accounted for once. -/
theorem subnetAccounts_of_runs (cloud : Cloud) (s : Settings) :
    (∃ moves outcome, (subnets s).Runs cloud moves outcome) ∧
      ∀ moves outcome, (subnets s).Runs cloud moves outcome →
        ((∃ error, outcome = .error error) ↔
          (∃ error, cloud.answer .subnetListing (.listSubnets s.project s.filter) = .error error) ∨
            ∃ records, cloud.answer .subnetListing (.listSubnets s.project s.filter) = .ok records ∧
              ∃ r ∈ records, r.isComplete = false) ∧
        (∀ error, outcome = .error error →
          calls moves = [(.subnetListing, .listSubnets s.project s.filter)]) ∧
        ∀ outcomes, outcome = .ok outcomes →
          ∃ records, cloud.answer .subnetListing (.listSubnets s.project s.filter) = .ok records ∧
            SubnetAccounts cloud s records moves outcomes := by
  refine ⟨runs_subnets cloud s, fun moves outcome run => ?_⟩
  have called := (subnetsRun run).calls_eq
  cases subnetsRun run with
  | @unlisted error listing =>
    refine ⟨⟨fun _ => .inl ⟨error, listing⟩, fun _ => ⟨_, rfl⟩⟩, fun _ _ => rfl, nofun⟩
  | @malformed records error listing selection =>
    obtain ⟨r, hr, failed⟩ := SubnetRecord.exists_subnets_error_iff.1 ⟨error, selection⟩
    have incomplete := SubnetRecord.exists_subnet?_error_iff.1 failed
    refine ⟨⟨fun _ => .inr ⟨records, listing, r, hr, incomplete⟩, fun _ => ⟨_, rfl⟩⟩,
      fun _ _ => rfl, nofun⟩
  | @swept records targets part outcomes listing selection sweep =>
    obtain ⟨complete, rfl⟩ := SubnetRecord.subnets_eq_ok_iff.1 selection
    refine ⟨⟨nofun, ?_⟩, nofun, ?_⟩
    · rintro (⟨error, failed⟩ | ⟨records', listing', r, hr, incomplete⟩)
      · cases failed.symm.trans listing
      · cases listing'.symm.trans listing
        rw [complete r hr] at incomplete
        cases incomplete
    · rintro _ ⟨⟩
      exact ⟨records, listing, accounts_of_complete run listing complete rfl sweep⟩

/-- A subnet with two ranges, one without any, one with a range that has no name, one that cannot be
described and one that cannot be updated. -/
def fiveSubnets : InMemory where
  subnets := ["two", "bare", "odd", "gone", "fixed"].map fun name =>
    { name := some name, region := some "https://example/regions/r" }
  subnetRanges := [
    ("two", [{ rangeName := some "pods" }, { rangeName := some "services" }]), ("bare", []),
    ("odd", [{ rangeName := some "pods" }, { rangeName := some "" }]),
    ("fixed", [{ rangeName := some "pods" }])]
  fixedSubnets := ["fixed"]

theorem subnetAccounts_of_runs_five :
    ∃ moves outcomes,
      (subnets { project := "p", cutoff := .clearAll }).Runs fiveSubnets.cloud moves (.ok outcomes) ∧
      outcomes.length = 5 ∧ outcomes.count .updated = 1 ∧ outcomes.count .skipped = 3 ∧
      (.subnetUpdate 0, .updateSubnet "p" { name := "two", region := "r" } ["pods", "services"]) ∈
        calls moves := by
  obtain ⟨⟨moves, outcome, run⟩, all⟩ := subnetAccounts_of_runs fiveSubnets.cloud
    { project := "p", cutoff := .clearAll }
  obtain ⟨fails, -, accounts⟩ := all moves outcome run
  have complete : ∀ r ∈ fiveSubnets.subnets, r.isComplete = true := by decide +kernel
  rcases outcome with error | outcomes
  · rcases fails.1 ⟨error, rfl⟩ with ⟨_, listing⟩ | ⟨records, listing, r, hr, incomplete⟩
    · cases listing
    · cases listing
      rw [complete r hr] at incomplete
      cases incomplete
  · obtain ⟨records, listing, account⟩ := accounts outcomes rfl
    cases listing
    refine ⟨moves, outcomes, run, account.subnets, account.updated.trans (by decide +kernel),
      account.skipped.trans (by decide +kernel), ?_⟩
    rw [account.calls]
    decide +kernel

end Sweep
end CloudSweep
