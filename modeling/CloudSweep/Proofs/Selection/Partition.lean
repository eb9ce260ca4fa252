/-
Listings as a whole. Selection from a listing fails with the error of its first item that has one,
and otherwise sorts the selected items by their places: there is a group for each place that some
selected item has, it holds the names of the items of that place in the order of the listing, and the
groups stand in the order of their places.
-/
import CloudSweep.Proofs.Selection.Item

namespace CloudSweep

namespace ResourceKind

variable {k : ResourceKind} {cutoff : Cutoff} {item : ListedItem} {items : List ListedItem}

/-! ## Listings -/

/-- Screening a listing stops at its first error. -/
theorem mapM_screen (k : ResourceKind) (cutoff : Cutoff) (items : List ListedItem) :
    (∃ error, items.mapM (k.screen cutoff) = .error error ∧
        items.findSome? (k.defect? cutoff) = some error) ∨
      ∃ screenings, items.mapM (k.screen cutoff) = .ok screenings ∧
        items.findSome? (k.defect? cutoff) = none ∧
        screenings.filterMap Screening.stale? = items.filterMap (k.selected? cutoff) := by
  induction items with
  | nil => exact .inr ⟨[], rfl, rfl, rfl⟩
  | cons item rest ih =>
    rw [List.mapM_cons, List.findSome?_cons, List.filterMap_cons]
    rcases screen_cases k cutoff item with ⟨error, hs, hd⟩ | ⟨screening, hs, hd, hc⟩
    · exact .inl ⟨error, by rw [hs]; rfl, by rw [hd]⟩
    rw [hs, hd, ← hc]
    rcases ih with ⟨error, hm, hf⟩ | ⟨screenings, hm, hf, hsel⟩
    · exact .inl ⟨error, by rw [hm]; rfl, hf⟩
    · refine .inr ⟨screening :: screenings, by rw [hm]; rfl, hf, ?_⟩
      rw [List.filterMap_cons, hsel]

/-- A listing fails with its first error, and otherwise groups what is selected of it. -/
theorem groups?_eq (k : ResourceKind) (cutoff : Cutoff) (items : List ListedItem) :
    k.groups? cutoff items =
      match items.findSome? (k.defect? cutoff) with
      | some error => .error error
      | none => .ok (.ofCandidates (items.filterMap (k.selected? cutoff))) := by
  unfold groups?
  rcases mapM_screen k cutoff items with ⟨error, hm, hf⟩ | ⟨screenings, hm, hf, hs⟩
  · rw [hm, hf]
    rfl
  · rw [hm, hf, ← hs]
    rfl

/-- A listing fails exactly with the error of its first item that has one. -/
theorem groups?_eq_error_iff {error : SelectionError} :
    k.groups? cutoff items = .error error ↔
      ∃ before item after, items = before ++ item :: after ∧
        (∀ other ∈ before, k.defect? cutoff other = none) ∧ k.defect? cutoff item = some error := by
  have first : k.groups? cutoff items = .error error ↔
      items.findSome? (k.defect? cutoff) = some error := by
    rw [groups?_eq]
    rcases items.findSome? (k.defect? cutoff) with _ | e <;> simp
  rw [first, List.findSome?_eq_some_iff]
  constructor
  · rintro ⟨before, item, after, rfl, defect, clean⟩
    exact ⟨before, item, after, rfl, clean, defect⟩
  · rintro ⟨before, item, after, rfl, clean, defect⟩
    exact ⟨before, item, after, rfl, defect, clean⟩

/-- A listing fails exactly when one of its items has an error, wherever it stands. -/
theorem exists_groups?_error_iff :
    (∃ error, k.groups? cutoff items = .error error) ↔
      ∃ item ∈ items, k.defect? cutoff item ≠ none := by
  have clean : items.findSome? (k.defect? cutoff) = none ↔
      ∀ item ∈ items, k.defect? cutoff item = none := List.findSome?_eq_none_iff
  rw [groups?_eq]
  rcases hf : items.findSome? (k.defect? cutoff) with _ | error
  · refine iff_of_false (fun ⟨_, failed⟩ => nomatch failed) ?_
    rintro ⟨item, hi, defect⟩
    exact defect (clean.1 hf item hi)
  · obtain ⟨item, hi, defect⟩ := List.exists_of_findSome?_eq_some hf
    refine iff_of_true ⟨error, rfl⟩ ⟨item, hi, ?_⟩
    rw [defect]
    exact Option.some_ne_none error

theorem groups?_eq_ok (clean : ∀ item ∈ items, k.defect? cutoff item = none) :
    k.groups? cutoff items = .ok (.ofCandidates (items.filterMap (k.selected? cutoff))) := by
  rw [groups?_eq, List.findSome?_eq_none_iff.2 clean]

end ResourceKind

/-! ## Groups -/

namespace Groups

variable {groups : Groups} {scopeValue name v : String}

/-- The names of the group of a place; none if there is no such group. -/
def namesAt (groups : Groups) (scopeValue : String) : List String :=
  ((groups.find? fun g => g.scopeValue = scopeValue).map (·.names)).getD []

/-- The groups stand in the strict order of their places, so that no two are of one place. -/
def Ordered (groups : Groups) : Prop := groups.Pairwise fun a b => a.scopeValue < b.scopeValue

@[simp] theorem namesAt_nil : namesAt [] v = [] := rfl

theorem namesAt_cons (g : Group) (groups : Groups) :
    namesAt (g :: groups) v = if g.scopeValue = v then g.names else groups.namesAt v := by
  unfold namesAt
  by_cases h : g.scopeValue = v <;> simp [h]

/-- A place before all groups has none. -/
theorem namesAt_eq_nil (h : ∀ g ∈ groups, v < g.scopeValue) : groups.namesAt v = [] := by
  have none : groups.find? (fun g => g.scopeValue = v) = none := by
    refine List.find?_eq_none.2 fun g hg same => ?_
    rw [decide_eq_true_eq] at same
    exact String.lt_irrefl v (same ▸ h g hg)
  rw [namesAt, none]
  rfl

theorem Ordered.namesAt_of_mem (ordered : groups.Ordered) {g : Group} (hg : g ∈ groups) :
    groups.namesAt g.scopeValue = g.names := by
  induction groups with
  | nil => cases hg
  | cons first rest ih =>
    obtain ⟨least, ordered⟩ := List.pairwise_cons.1 ordered
    rw [namesAt_cons]
    rcases List.mem_cons.1 hg with rfl | hg
    · exact if_pos rfl
    · have apart : first.scopeValue ≠ g.scopeValue := fun same =>
        String.lt_irrefl _ (same ▸ least g hg)
      rw [if_neg apart, ih ordered hg]

theorem exists_of_mem_namesAt (h : name ∈ groups.namesAt v) : ∃ g ∈ groups, g.scopeValue = v := by
  induction groups with
  | nil => cases h
  | cons first rest ih =>
    rw [namesAt_cons] at h
    split at h
    · exact ⟨first, List.mem_cons_self, by assumption⟩
    · obtain ⟨g, hg, same⟩ := ih h
      exact ⟨g, List.mem_cons_of_mem _ hg, same⟩

theorem mem_add {g : Group} (h : g ∈ groups.add scopeValue name) :
    g.scopeValue = scopeValue ∨ ∃ g' ∈ groups, g'.scopeValue = g.scopeValue := by
  induction groups with
  | nil => exact .inl (List.mem_singleton.1 h ▸ rfl)
  | cons first rest ih =>
    unfold add at h
    split at h
    · rcases List.mem_cons.1 h with rfl | h
      · exact .inl rfl
      · exact .inr ⟨g, h, rfl⟩
    split at h
    · rcases List.mem_cons.1 h with rfl | h
      · exact .inr ⟨first, List.mem_cons_self, rfl⟩
      · exact .inr ⟨g, List.mem_cons_of_mem _ h, rfl⟩
    rcases List.mem_cons.1 h with rfl | h
    · exact .inr ⟨g, List.mem_cons_self, rfl⟩
    rcases ih h with same | ⟨g', hg, same⟩
    · exact .inl same
    · exact .inr ⟨g', List.mem_cons_of_mem _ hg, same⟩

theorem Ordered.add (ordered : groups.Ordered) (scopeValue name : String) :
    (groups.add scopeValue name).Ordered := by
  induction groups with
  | nil => exact List.pairwise_singleton _ _
  | cons first rest ih =>
    obtain ⟨least, tail⟩ := List.pairwise_cons.1 ordered
    unfold Groups.add
    split
    · rename_i before
      refine List.pairwise_cons.2 ⟨fun g hg => ?_, ordered⟩
      rcases List.mem_cons.1 hg with rfl | hg
      · exact before
      · exact String.lt_trans before (least g hg)
    split
    · exact List.pairwise_cons.2 ⟨least, tail⟩
    -- The new name goes behind the first group.
    rename_i notBefore notSame
    refine List.pairwise_cons.2 ⟨fun g hg => ?_, ih tail⟩
    rcases mem_add hg with same | ⟨g', hg', same⟩
    · rw [same]
      rcases Std.lt_trichotomy first.scopeValue scopeValue with less | same | greater
      · exact less
      · exact absurd same.symm notSame
      · exact absurd greater notBefore
    · exact same ▸ least g' hg'

theorem names_ne_nil_add (h : ∀ g ∈ groups, g.names ≠ []) :
    ∀ g ∈ groups.add scopeValue name, g.names ≠ [] := by
  induction groups with
  | nil => simp [add]
  | cons first rest ih =>
    obtain ⟨hf, hr⟩ := List.forall_mem_cons.1 h
    unfold add
    split
    · exact List.forall_mem_cons.2 ⟨List.cons_ne_nil _ _, h⟩
    split
    · exact List.forall_mem_cons.2 ⟨by simp, hr⟩
    · exact List.forall_mem_cons.2 ⟨hf, ih hr⟩

/-- A name that is added comes to stand behind those of its place. -/
theorem Ordered.namesAt_add (ordered : groups.Ordered) :
    (groups.add scopeValue name).namesAt v =
      groups.namesAt v ++ if scopeValue = v then [name] else [] := by
  induction groups with
  | nil => by_cases h : scopeValue = v <;> simp [Groups.add, namesAt_cons, h]
  | cons first rest ih =>
    obtain ⟨least, tail⟩ := List.pairwise_cons.1 ordered
    unfold Groups.add
    split
    · rename_i before
      rw [namesAt_cons]
      split
      · rename_i same
        have new : namesAt (first :: rest) v = [] := by
          refine namesAt_eq_nil fun g hg => ?_
          rcases List.mem_cons.1 hg with rfl | hg
          · exact same ▸ before
          · exact same ▸ String.lt_trans before (least g hg)
        rw [new, List.nil_append]
      · rw [List.append_nil]
    split
    · rename_i here
      rw [namesAt_cons, namesAt_cons]
      by_cases same : first.scopeValue = v <;> simp [here, same]
    · rename_i apart
      rw [namesAt_cons, namesAt_cons, ih tail]
      split
      · rename_i here
        rw [if_neg fun same => apart (same.trans here.symm), List.append_nil]
      · rfl

/-- The groups arrange the candidates by their places: no group is empty, the groups are in order, and
the group of a place holds the names of the candidates there, in their order. -/
structure Arranges (groups : Groups) (candidates : List Candidate) : Prop where
  nonempty : ∀ g ∈ groups, g.names ≠ []
  ordered : groups.Ordered
  namesAt_eq : ∀ v, groups.namesAt v = (candidates.filter (·.scopeValue = v)).map (·.name)

theorem arranges_nil : Arranges [] [] := ⟨by simp, .nil, fun _ => rfl⟩

/-- One more candidate takes its place. -/
theorem Arranges.add {candidates : List Candidate} (h : groups.Arranges candidates) (c : Candidate) :
    (groups.add c.scopeValue c.name).Arranges (candidates ++ [c]) := by
  refine ⟨names_ne_nil_add h.nonempty, h.ordered.add _ _, fun v => ?_⟩
  rw [h.ordered.namesAt_add, h.namesAt_eq, List.filter_append, List.map_append]
  by_cases here : c.scopeValue = v <;> simp [here]

theorem arranges_ofCandidates (candidates : List Candidate) :
    (ofCandidates candidates).Arranges candidates := by
  -- The fold adds the rest to what it started from.
  have fold (rest done : List Candidate) (groups : Groups) (h : groups.Arranges done) :
      (rest.foldl (fun groups c => groups.add c.scopeValue c.name) groups).Arranges (done ++ rest) := by
    induction rest generalizing done groups with
    | nil => rwa [List.append_nil]
    | cons c rest ih =>
      rw [List.foldl_cons, List.append_cons]
      exact ih (done ++ [c]) _ (h.add c)
  exact fold candidates [] [] arranges_nil

end Groups
end CloudSweep
