/-
Variants of a kind. The managed and the unmanaged variant of a kind never select the same item of a
listing, and where places stand in fields of their own, neither do its project-wide variant and one of
its zonal or regional ones. The zonal and the regional variant select an item together only if it
carries both a zone and a region. In the catalog, only such an item is selected by two kinds that have
the same commands.
-/
import CloudSweep.Catalog.GoogleCloud
import CloudSweep.Proofs.Selection.Item

namespace CloudSweep

/-- The item carries what a scope asks for: the address of a zone or region, neither of them for a
project-wide variant, and anything at all for a kind without scope. -/
def ListedItem.Carries (item : ListedItem) : ScopeKind → Prop
  | .none => True
  | .global => item.zone = none ∧ item.region = none
  | .zone => ∃ address, item.zone = some address ∧ Text.lastSegment address ≠ ""
  | .region => ∃ address, item.region = some address ∧ Text.lastSegment address ≠ ""

/-- What is project-wide lies in no zone and in no region. -/
theorem ListedItem.Carries.not_global {item : ListedItem} {scope : ScopeKind}
    (h : item.Carries scope) (placed : scope = .zone ∨ scope = .region) : ¬ item.Carries .global := by
  rintro ⟨noZone, noRegion⟩
  rcases placed with rfl | rfl
  · obtain ⟨address, there, -⟩ := h
    cases noZone.symm.trans there
  · obtain ⟨address, there, -⟩ := h
    cases noRegion.symm.trans there

/-- Of two different scopes with a place, an item carries both only as a zone and a region. -/
theorem ListedItem.Carries.both {item : ListedItem} {scope scope' : ScopeKind}
    (h : item.Carries scope) (h' : item.Carries scope') (wide : scope ≠ .none)
    (wide' : scope' ≠ .none) (differ : scope ≠ scope') : item.Carries .zone ∧ item.Carries .region := by
  cases scope with
  | none => exact absurd rfl wide
  | global =>
    cases scope' with
    | none => exact absurd rfl wide'
    | zone => exact absurd h (h'.not_global (.inl rfl))
    | region => exact absurd h (h'.not_global (.inr rfl))
    | global => exact absurd rfl differ
  | zone =>
    cases scope' with
    | none => exact absurd rfl wide'
    | zone => exact absurd rfl differ
    | region => exact ⟨h, h'⟩
    | global => exact absurd h' (h.not_global (.inl rfl))
  | region =>
    cases scope' with
    | none => exact absurd rfl wide'
    | zone => exact ⟨h', h⟩
    | region => exact absurd rfl differ
    | global => exact absurd h' (h.not_global (.inr rfl))

namespace ResourceKind

variable {k k' : ResourceKind} {cutoff : Cutoff} {item : ListedItem} {items : List ListedItem} {i : Nat}
  {name v : String}

/-- The item at the position of the listing can be read, and is to be deleted. -/
def Selects (k : ResourceKind) (cutoff : Cutoff) (items : List ListedItem) (i : Nat) : Prop :=
  ∃ item candidate, items[i]? = some item ∧ k.candidate? cutoff item = .ok (some candidate) ∧
    k.isStale cutoff candidate = .ok true

/-- The kind restricted to its managed or its unmanaged instances. -/
def managedVariant (k : ResourceKind) (filter : ManagedFilter) : ResourceKind :=
  { k with managed := filter }

/-- The kind with another scope, and with it the narrowing of its listing or not. -/
def scopeVariant (k : ResourceKind) (scope : ScopeKind) (zoneFilter : Bool) : ResourceKind :=
  { k with scope, zoneFilter }

theorem selects_iff :
    k.Selects cutoff items i ↔
      ∃ item name v, items[i]? = some item ∧ k.Condemns cutoff item name v := by
  simp only [Selects, ← exists_selected_iff_condemns, selected?_eq_some_iff]
  constructor
  · rintro ⟨item, c, there, read, stale⟩
    exact ⟨item, c.name, c.scopeValue, there, c, ⟨read, stale⟩, rfl, rfl⟩
  · rintro ⟨item, _, _, there, c, ⟨read, stale⟩, -⟩
    exact ⟨item, c, there, read, stale⟩

/-- An item has the place in the field that the scope asks for, unless names tell places too. -/
theorem carries_of_placed (noSegment : k.scopeSegment = none)
    (h : k.scopeValue? item name = some v) : item.Carries k.scope := by
  have address {field : Option String} (h : scopeValue?.located k name field = some v) :
      ∃ address, field = some address ∧ Text.lastSegment address ≠ "" := by
    unfold scopeValue?.located at h
    cases field with
    | some address =>
      obtain ⟨found, nonblank⟩ := Option.filter_eq_some_iff.1 h
      cases found
      exact ⟨address, rfl, of_decide_eq_true nonblank⟩
    | none => simp [noSegment] at h
  unfold scopeValue? at h
  cases scope : k.scope with
  | none => trivial
  | global =>
    simp only [scope] at h
    split at h
    · cases h
    · rename_i nowhere
      simpa [ListedItem.Carries] using nowhere
  | zone =>
    simp only [scope] at h
    exact address h
  | region =>
    simp only [scope] at h
    exact address h

theorem carries_of_selects (noSegment : k.scopeSegment = none) (h : k.Selects cutoff items i) :
    ∃ item, items[i]? = some item ∧ item.Carries k.scope := by
  obtain ⟨item, name, v, there, condemns⟩ := selects_iff.1 h
  exact ⟨item, there, carries_of_placed noSegment condemns.placed⟩

theorem isManaged_of_selects {required : Bool} (asked : k.managed.required? = some required)
    (h : k.Selects cutoff items i) :
    ∃ item, items[i]? = some item ∧ item.isManaged = some required := by
  obtain ⟨item, name, v, there, condemns⟩ := selects_iff.1 h
  exact ⟨item, there, condemns.managed required asked⟩

/-- Kinds that ask for different managed flags select no item together. -/
theorem not_selects_of_managed {required : Bool} (asked : k.managed.required? = some required)
    (asked' : k'.managed.required? = some !required) (h : k.Selects cutoff items i) :
    ¬ k'.Selects cutoff items i := by
  intro h'
  obtain ⟨item, there, flag⟩ := isManaged_of_selects asked h
  obtain ⟨item', there', flag'⟩ := isManaged_of_selects asked' h'
  cases there.symm.trans there'
  cases required <;> cases flag.symm.trans flag'

/-- What kinds of two scopes select together carries what either scope asks for. -/
theorem carries_of_selects_both (noSegment : k.scopeSegment = none)
    (noSegment' : k'.scopeSegment = none) (h : k.Selects cutoff items i)
    (h' : k'.Selects cutoff items i) :
    ∃ item, items[i]? = some item ∧ item.Carries k.scope ∧ item.Carries k'.scope := by
  obtain ⟨item, there, carries⟩ := carries_of_selects noSegment h
  obtain ⟨item', there', carries'⟩ := carries_of_selects noSegment' h'
  cases there.symm.trans there'
  exact ⟨item, there, carries, carries'⟩

/-- What two scope variants of a kind select together carries what either scope asks for. -/
theorem carries_of_scopeVariants (noSegment : k.scopeSegment = none) {scope scope' : ScopeKind}
    {filter filter' : Bool} (h : (k.scopeVariant scope filter).Selects cutoff items i)
    (h' : (k.scopeVariant scope' filter').Selects cutoff items i) :
    ∃ item, items[i]? = some item ∧ item.Carries scope ∧ item.Carries scope' := by
  have own (scope : ScopeKind) (filter : Bool) :
      (k.scopeVariant scope filter).scopeSegment = none := noSegment
  exact carries_of_selects_both (own scope filter) (own scope' filter') h h'

/-- No item is selected by the managed and by the unmanaged variant of a kind. Where places stand in
fields, none is selected by the project-wide variant and by a zonal or regional one, and what the zonal
and the regional variant both select carries a zone and a region. -/
theorem variants_apart (k : ResourceKind) (cutoff : Cutoff) (items : List ListedItem) (i : Nat) :
    ¬ ((k.managedVariant .managed).Selects cutoff items i ∧
        (k.managedVariant .unmanaged).Selects cutoff items i) ∧
      (k.scopeSegment = none → ∀ filter filter' : Bool,
        ¬ ((k.scopeVariant .global filter).Selects cutoff items i ∧
            (k.scopeVariant .zone filter').Selects cutoff items i) ∧
          ¬ ((k.scopeVariant .global filter).Selects cutoff items i ∧
            (k.scopeVariant .region filter').Selects cutoff items i) ∧
          ((k.scopeVariant .zone filter).Selects cutoff items i ∧
              (k.scopeVariant .region filter').Selects cutoff items i →
            ∃ item zone region, items[i]? = some item ∧ item.zone = some zone ∧
              item.region = some region ∧ Text.lastSegment zone ≠ "" ∧
              Text.lastSegment region ≠ "")) := by
  refine ⟨fun ⟨h, h'⟩ => ?_, fun noSegment filter filter' =>
    ⟨fun ⟨h, h'⟩ => ?_, fun ⟨h, h'⟩ => ?_, fun ⟨h, h'⟩ => ?_⟩⟩
  · have managed : (k.managedVariant .managed).managed.required? = some true := rfl
    exact not_selects_of_managed managed rfl h h'
  · obtain ⟨item, -, everywhere, there⟩ := carries_of_scopeVariants noSegment h h'
    exact there.not_global (.inl rfl) everywhere
  · obtain ⟨item, -, everywhere, there⟩ := carries_of_scopeVariants noSegment h h'
    exact there.not_global (.inr rfl) everywhere
  · obtain ⟨item, there, ⟨zone, inZone, named⟩, region, inRegion, named'⟩ :=
      carries_of_scopeVariants noSegment h h'
    exact ⟨item, zone, region, there, inZone, inRegion, named, named'⟩

/-- An old disk that carries both a zone and a region. -/
def replicatedDisk : ListedItem where
  name := some "replica"
  creationTimestamp := some "2023-05-01T00:00:00Z"
  zone := some "zones/us-east1-b"
  region := some "regions/us-east1"

theorem variants_apart_disks :
    (Catalog.compute "disks").scopeSegment = none ∧
      ((Catalog.compute "disks").scopeVariant .zone true).Selects (.before ⟨1704067200, 0⟩)
        [replicatedDisk] 0 ∧
      ((Catalog.compute "disks").scopeVariant .region false).Selects (.before ⟨1704067200, 0⟩)
        [replicatedDisk] 0 ∧
      ∃ item zone region, [replicatedDisk][0]? = some item ∧ item.zone = some zone ∧
        item.region = some region ∧ Text.lastSegment zone ≠ "" ∧ Text.lastSegment region ≠ "" := by
  have inZone : ((Catalog.compute "disks").scopeVariant .zone true).selected?
      (.before ⟨1704067200, 0⟩) replicatedDisk =
        some ⟨"replica", "us-east1-b", some ⟨1682899200, 0⟩, none⟩ := by decide +kernel
  have inRegion : ((Catalog.compute "disks").scopeVariant .region false).selected?
      (.before ⟨1704067200, 0⟩) replicatedDisk =
        some ⟨"replica", "us-east1", some ⟨1682899200, 0⟩, none⟩ := by decide +kernel
  have zonal : Selects _ _ [replicatedDisk] 0 := ⟨_, _, rfl, selected?_eq_some_iff.1 inZone⟩
  have regional : Selects _ _ [replicatedDisk] 0 := ⟨_, _, rfl, selected?_eq_some_iff.1 inRegion⟩
  exact ⟨rfl, zonal, regional,
    ((variants_apart (Catalog.compute "disks") _ _ 0).2 rfl true false).2.2 ⟨zonal, regional⟩⟩

/-! ## The catalog -/

/-- The kinds ask for different managed flags, or for different scopes that they find in fields. -/
def Apart (k k' : ResourceKind) : Prop :=
  (k.managed = .managed ∧ k'.managed = .unmanaged) ∨
    (k.scopeSegment = none ∧ k'.scopeSegment = none ∧ k.scope ≠ .none ∧ k'.scope ≠ .none ∧
      k.scope ≠ k'.scope)

instance (k k' : ResourceKind) : Decidable (k.Apart k') := by
  unfold Apart; infer_instance

theorem Apart.carries (apart : k.Apart k') (h : k.Selects cutoff items i)
    (h' : k'.Selects cutoff items i) :
    ∃ item, items[i]? = some item ∧ item.Carries .zone ∧ item.Carries .region := by
  rcases apart with ⟨managed, unmanaged⟩ | ⟨noSegment, noSegment', wide, wide', differ⟩
  · have asked : k.managed.required? = some true := by rw [managed]; rfl
    have asked' : k'.managed.required? = some !true := by rw [unmanaged]; rfl
    exact absurd h' (not_selects_of_managed asked asked' h)
  obtain ⟨item, there, carries, carries'⟩ := carries_of_selects_both noSegment noSegment' h h'
  exact ⟨item, there, carries.both carries' wide wide' differ⟩

/-- Kinds of one service of the catalog that have the same commands select an item together only if it
carries a zone and a region. -/
theorem googleCloud_apart {s : Service} (hs : s ∈ Catalog.googleCloud.services) :
    s.kinds.Pairwise fun k k' => k.commandWords = k'.commandWords → ∀ cutoff items i,
      k.Selects cutoff items i → k'.Selects cutoff items i →
        ∃ item, items[i]? = some item ∧ item.Carries .zone ∧ item.Carries .region := by
  have apart : ∀ s ∈ Catalog.googleCloud.services, s.kinds.Pairwise fun k k' =>
      k.commandWords = k'.commandWords → k.Apart k' := by decide +kernel
  refine (apart s hs).imp fun {k k'} apart same cutoff items i h h' => ?_
  exact (apart same).carries h h'

end ResourceKind
end CloudSweep
