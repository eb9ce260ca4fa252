/-
What a plan holds. Each request of a plan carries some of the names of one group, at least one and no
more than the limit, and is narrowed to the place of that group. The requests of a group take its names
in order, and all but the last of them are full, so that no fewer would do.
-/
import CloudSweep.Deletion.Plan
import Mathlib.Algebra.Order.BigOperators.Group.List
import Mathlib.Algebra.Order.Floor.Div

namespace CloudSweep

/-! ## Batches -/

/-- Batches cut names up without losing or repeating any. -/
theorem flatten_batches (size : Nat) (names : List String) :
    (batches size names).flatten = names := by
  fun_induction batches size names with
  | case1 names empty => rw [List.isEmpty_iff.1 empty, List.flatten_nil]
  | case2 names _ ih => rw [List.flatten_cons, ih, List.take_append_drop]

theorem ne_nil_of_mem_batches {size : Nat} {names batch : List String}
    (h : batch ∈ batches size names) : batch ≠ [] := by
  fun_induction batches size names with
  | case1 => cases h
  | case2 names nonempty ih =>
    rcases List.mem_cons.1 h with rfl | h
    · -- A batch takes at least one name, even of a size of zero.
      have full : max size 1 ≠ 0 := by omega
      simpa [full] using nonempty
    · exact ih h

theorem mem_of_mem_batches {size : Nat} {names batch : List String} {name : String}
    (hb : batch ∈ batches size names) (hn : name ∈ batch) : name ∈ names := by
  rw [← flatten_batches size names]
  exact List.mem_flatten.2 ⟨batch, hb, hn⟩

theorem length_le_of_mem_batches {size : Nat} {names batch : List String}
    (h : batch ∈ batches size names) : batch.length ≤ max size 1 := by
  fun_induction batches size names with
  | case1 => cases h
  | case2 names _ ih =>
    rcases List.mem_cons.1 h with rfl | h
    · exact List.length_take_le _ _
    · exact ih h

/-- All batches but the last one are full. -/
theorem length_of_mem_dropLast_batches {size : Nat} {names batch : List String}
    (h : batch ∈ (batches size names).dropLast) : batch.length = max size 1 := by
  fun_induction batches size names with
  | case1 => cases h
  | case2 names _ ih =>
    by_cases last : batches size (names.drop (max size 1)) = []
    · rw [last] at h
      cases h
    rw [List.dropLast_cons_of_ne_nil last] at h
    rcases List.mem_cons.1 h with rfl | h
    · -- What is left for later batches was not taken by this one.
      have more : names.drop (max size 1) ≠ [] := by
        intro none
        rw [none] at last
        exact last (by rw [batches, List.isEmpty_nil, if_pos rfl])
      rw [Ne, List.drop_eq_nil_iff] at more
      rw [List.length_take]
      omega
    · exact ih h

/-- The first batch leaves what needs one batch less. -/
theorem ceilDiv_eq_succ {n limit : Nat} (some : 0 < n) (positive : 0 < limit) :
    n ⌈/⌉ limit = (n - limit) ⌈/⌉ limit + 1 := by
  refine eq_of_forall_ge_iff fun count => ?_
  rw [ceilDiv_le_iff_le_mul positive]
  cases count with
  | zero =>
    rw [Nat.mul_zero]
    omega
  | succ count =>
    rw [Nat.add_le_add_iff_right, ceilDiv_le_iff_le_mul positive, Nat.mul_succ]
    omega

/-- There are no more batches than are needed. -/
theorem length_batches (size : Nat) (names : List String) :
    (batches size names).length = names.length ⌈/⌉ max size 1 := by
  fun_induction batches size names with
  | case1 names empty =>
    rw [List.isEmpty_iff.1 empty]
    exact (zero_ceilDiv _).symm
  | case2 names nonempty ih =>
    have some : 0 < names.length := List.length_pos_iff.2 (mt List.isEmpty_iff.2 nonempty)
    rw [List.length_cons, ih, List.length_drop, ceilDiv_eq_succ some (by omega)]

/-! ## Requests -/

namespace ResourceKind

theorem mem_plan_iff {k : ResourceKind} {groups : Groups} {project : String} {batchSize : Nat}
    {endpoint : Option EndpointOverride} {request : DeleteRequest} :
    request ∈ k.plan groups project batchSize endpoint ↔
      ∃ g ∈ groups, ∃ names ∈ batches (k.batchLimit batchSize) g.names,
        { kind := k, project, names, scope := k.deleteScope g.scopeValue, endpoint } = request := by
  simp only [plan, planGroup, List.mem_flatMap, List.mem_map]

/-- The requests take the names of the group in order, narrowed to its place. None of them is empty or
over the limit, all but the last one are full, and no fewer would do. -/
structure CutUp (k : ResourceKind) (limit : Nat) (g : Group) (requests : List DeleteRequest) : Prop where
  placed : ∀ r ∈ requests, r.kind = k ∧ r.scope = k.deleteScope g.scopeValue
  sized : ∀ r ∈ requests, 1 ≤ r.names.length ∧ r.names.length ≤ limit
  full : ∀ r ∈ requests.dropLast, r.names.length = limit
  names : (requests.map (·.names)).flatten = g.names
  fewest : ∀ parts : List (List String), parts.flatten = g.names →
    (∀ part ∈ parts, part.length ≤ limit) → requests.length ≤ parts.length

/-- The requests are those of the groups, one group after another, as many as there are full batches of
names in each group, and one more for what is left. -/
structure Within (k : ResourceKind) (limit : Nat) (groups : Groups) (requests : List DeleteRequest) :
    Prop where
  parts : ∃ parts, requests = parts.flatten ∧ List.Forall₂ (k.CutUp limit) groups parts
  total : requests.length = (groups.map fun g => (g.names.length + limit - 1) / limit).sum

variable {k : ResourceKind} {project : String} {batchSize : Nat} {endpoint : Option EndpointOverride}

theorem max_batchLimit (k : ResourceKind) (configured : Nat) :
    max (k.batchLimit configured) 1 = k.batchLimit configured := by
  unfold batchLimit
  split <;> omega

theorem length_planGroup (g : Group) : (k.planGroup project batchSize endpoint g).length =
    g.names.length ⌈/⌉ k.batchLimit batchSize := by
  rw [planGroup, List.length_map, length_batches, max_batchLimit]

/-- Parts within the limit are as many as it takes to hold all names. -/
theorem ceilDiv_le_length {limit : Nat} (positive : 0 < limit) {parts : List (List String)}
    (small : ∀ part ∈ parts, part.length ≤ limit) :
    parts.flatten.length ⌈/⌉ limit ≤ parts.length := by
  have room : (parts.map List.length).sum ≤ (parts.map List.length).length • limit :=
    List.sum_le_card_nsmul _ _ fun n hn => by
      obtain ⟨part, hp, rfl⟩ := List.mem_map.1 hn
      exact small part hp
  rw [ceilDiv_le_iff_le_mul positive, List.length_flatten, Nat.mul_comm]
  rwa [List.length_map, smul_eq_mul] at room

theorem cutUp_planGroup (g : Group) :
    k.CutUp (k.batchLimit batchSize) g (k.planGroup project batchSize endpoint g) := by
  have names : (k.planGroup project batchSize endpoint g).map (·.names) =
      batches (k.batchLimit batchSize) g.names := by
    rw [planGroup, List.map_map]
    exact List.map_id _
  -- What holds of each batch holds of the names of each request.
  have batch {r : DeleteRequest} (hr : r ∈ k.planGroup project batchSize endpoint g) :
      r.names ∈ batches (k.batchLimit batchSize) g.names := names ▸ List.mem_map_of_mem hr
  constructor
  case placed =>
    intro r hr
    obtain ⟨_, -, rfl⟩ := List.mem_map.1 hr
    exact ⟨rfl, rfl⟩
  case sized =>
    intro r hr
    have most := length_le_of_mem_batches (batch hr)
    rw [max_batchLimit] at most
    exact ⟨List.length_pos_iff.2 (ne_nil_of_mem_batches (batch hr)), most⟩
  case full =>
    intro r hr
    have more : r.names ∈ (batches (k.batchLimit batchSize) g.names).dropLast := by
      rw [← names, ← List.map_dropLast]
      exact List.mem_map_of_mem hr
    rw [length_of_mem_dropLast_batches more, max_batchLimit]
  case names => rw [names, flatten_batches]
  case fewest =>
    intro parts whole small
    rw [length_planGroup, ← whole]
    refine ceilDiv_le_length ?_ small
    have := max_batchLimit k batchSize
    omega

/-- A plan respects the limit of its kind, and it does so with as few requests as possible. -/
theorem plan_within_limit (k : ResourceKind) (groups : Groups) (project : String) (batchSize : Nat)
    (endpoint : Option EndpointOverride) :
    k.Within (if k.bulkDelete then max batchSize 1 else 1) groups
      (k.plan groups project batchSize endpoint) := by
  show k.Within (k.batchLimit batchSize) groups (k.plan groups project batchSize endpoint)
  constructor
  case parts =>
    refine ⟨groups.map (k.planGroup project batchSize endpoint), List.flatMap_def, ?_⟩
    exact List.forall₂_map_right_iff.2 (List.forall₂_same.2 fun g _ => cutUp_planGroup g)
  case total =>
    rw [plan, List.length_flatMap]
    simp only [length_planGroup, Nat.ceilDiv_eq_add_pred_div]

end ResourceKind
end CloudSweep
