/-
Catalogs in order. The check of a catalog accepts exactly the catalogs whose services have names of
their own and whose kinds have, within their service, identities of their own and no settings that
contradict each other. Of any other catalog it reports the first defect in declared order: the services
one after another, each of them before its kinds, and of two that are alike the later one.
-/
import CloudSweep.Catalog.Basic

namespace CloudSweep

/-! ## Scans -/

section Scan

variable {α ε : Type} {check : List α → α → Except ε Unit} {earlier xs : List α}

/-- Checks each element against the elements before it, up to the first one that fails. -/
def scan (check : List α → α → Except ε Unit) (earlier : List α) : List α → Except ε Unit
  | [] => .ok ()
  | x :: rest =>
    match check earlier x with
    | .error e => .error e
    | .ok () => scan check (earlier ++ [x]) rest

/-- A scan comes to its end, or stops at an element that fails and before which none does. -/
theorem scan_cases (check : List α → α → Except ε Unit) (earlier xs : List α) :
    (scan check earlier xs = .ok () ∧
        ∀ i x, xs[i]? = some x → check (earlier ++ xs.take i) x = .ok ()) ∨
      ∃ i x e, scan check earlier xs = .error e ∧ xs[i]? = some x ∧
        check (earlier ++ xs.take i) x = .error e ∧
        ∀ j < i, ∀ y, xs[j]? = some y → check (earlier ++ xs.take j) y = .ok () := by
  induction xs generalizing earlier with
  | nil => exact .inl ⟨rfl, nofun⟩
  | cons x rest ih =>
    rcases hx : check earlier x with e | ⟨⟩
    · exact .inr ⟨0, x, e, by rw [scan, hx], rfl, by simpa using hx, nofun⟩
    -- An element of the rest has the first one among those before it.
    have first : check (earlier ++ (x :: rest).take 0) x = .ok () := by simpa using hx
    have later (j : Nat) : earlier ++ (x :: rest).take (j + 1) = earlier ++ [x] ++ rest.take j := by
      rw [List.take_succ_cons, List.append_cons]
    have scanned : scan check earlier (x :: rest) = scan check (earlier ++ [x]) rest := by
      rw [scan, hx]
    rw [scanned]
    rcases ih (earlier ++ [x]) with ⟨ended, clean⟩ | ⟨i, y, e, stopped, there, failed, clean⟩
    · refine .inl ⟨ended, fun j z hz => ?_⟩
      cases j with
      | zero =>
        cases hz
        exact first
      | succ j =>
        rw [later]
        exact clean j z hz
    · refine .inr ⟨i + 1, y, e, stopped, there, by rw [later]; exact failed, fun j hj z hz => ?_⟩
      cases j with
      | zero =>
        cases hz
        exact first
      | succ j =>
        rw [later]
        exact clean j (Nat.lt_of_succ_lt_succ hj) z hz

/-- Elements are related in pairs exactly when each is related to all before it. -/
theorem pairwise_iff_take {R : α → α → Prop} :
    xs.Pairwise R ↔ ∀ i x, xs[i]? = some x → ∀ y ∈ xs.take i, R y x := by
  induction xs with
  | nil => exact iff_of_true .nil nofun
  | cons z rest ih =>
    rw [List.pairwise_cons, ih]
    constructor
    · rintro ⟨first, others⟩ i x hx y hy
      cases i with
      | zero => cases hy
      | succ i =>
        rcases List.mem_cons.1 hy with rfl | hy
        · exact first x (List.mem_of_getElem? hx)
        · exact others i x hx y hy
    · intro h
      refine ⟨fun x hx => ?_, fun i x hx y hy => h (i + 1) x hx y (List.mem_cons_of_mem z hy)⟩
      obtain ⟨i, hi⟩ := List.mem_iff_getElem?.1 hx
      exact h (i + 1) x hi z List.mem_cons_self

end Scan

/-! ## Defects -/

/-- A defect of a kind of the service `api` that stands behind the kinds `earlier`, with the number of
the check that it fails. -/
inductive ResourceKind.Fault (api : String) (earlier : List ResourceKind) (k : ResourceKind) :
    Nat → CatalogError → Prop
  | repeated {k' : ResourceKind} (before : k' ∈ earlier) (same : k'.identity = k.identity) :
      Fault api earlier k 0 (.duplicateKind api k)
  | unplaced (segment : k.scopeSegment ≠ none) (noZone : k.scope ≠ .zone)
      (noRegion : k.scope ≠ .region) : Fault api earlier k 1 (.nameScopeWithoutField k)
  | zoneless (filter : k.zoneFilter = true) (noZone : k.scope ≠ .zone) :
      Fault api earlier k 2 (.zoneFilterWithoutZone k)
  | blank (preserved : "" ∈ k.preserved) : Fault api earlier k 3 (.emptyPreservedName k)

/-- A defect of a service that stands behind the services `earlier`, with the place where it shows
within the service, 0 for the service itself and then its kinds, and the number of the check there. -/
inductive Service.Fault (earlier : List Service) (s : Service) : Nat → Nat → CatalogError → Prop
  | nameless (blank : s.api = "") : Fault earlier s 0 0 .emptyApi
  | repeated {s' : Service} (before : s' ∈ earlier) (same : s'.api = s.api) :
      Fault earlier s 0 1 (.duplicateApi s.api)
  | kind {j check : Nat} {k : ResourceKind} {error : CatalogError} (there : s.kinds[j]? = some k)
      (fault : k.Fault s.api (s.kinds.take j) check error) : Fault earlier s (j + 1) check error

namespace Catalog

/-- A place in a catalog: the service, counted from 0; the service itself (0) or one of its kinds,
counted from 1; and the number of a check there. -/
structure Place where
  service : Nat
  kind : Nat
  check : Nat

/-- Earlier in declared order. -/
def Place.Before (p q : Place) : Prop :=
  p.service < q.service ∨ (p.service = q.service ∧
    (p.kind < q.kind ∨ (p.kind = q.kind ∧ p.check < q.check)))

variable {c : Catalog} {p q : Place} {error error' : CatalogError}

/-- The catalog has a defect at the place. -/
def DefectAt (c : Catalog) (p : Place) (error : CatalogError) : Prop :=
  ∃ s, c.services[p.service]? = some s ∧ s.Fault (c.services.take p.service) p.kind p.check error

/-- The catalog has a defect, and none at an earlier place. -/
def FirstDefect (c : Catalog) (error : CatalogError) : Prop :=
  ∃ p, c.DefectAt p error ∧ ∀ q, q.Before p → ∀ error', ¬ c.DefectAt q error'

/-- Services have names of their own; kinds have, within their service, identities of their own, and
settings that do not contradict each other. -/
structure WellFormed (c : Catalog) : Prop where
  named : ∀ s ∈ c.services, s.api ≠ ""
  distinct : c.services.Pairwise fun s s' => s.api ≠ s'.api
  apart : ∀ s ∈ c.services, s.kinds.Pairwise fun k k' => k.identity ≠ k'.identity
  placed : ∀ s ∈ c.services, ∀ k ∈ s.kinds,
    k.scopeSegment ≠ none → k.scope = .zone ∨ k.scope = .region
  zonal : ∀ s ∈ c.services, ∀ k ∈ s.kinds, k.zoneFilter = true → k.scope = .zone
  telling : ∀ s ∈ c.services, ∀ k ∈ s.kinds, "" ∉ k.preserved

theorem Place.eq_of_not_before (h : ¬ p.Before q) (h' : ¬ q.Before p) : p = q := by
  obtain ⟨i, j, n⟩ := p
  obtain ⟨i', j', n'⟩ := q
  simp only [Before, not_or, not_and] at h h'
  rw [mk.injEq]
  omega

/-- At one place there is at most one defect. -/
theorem DefectAt.unique (h : c.DefectAt p error) (h' : c.DefectAt p error') : error = error' := by
  obtain ⟨s, there, fault⟩ := h
  obtain ⟨s', there', fault'⟩ := h'
  cases there.symm.trans there'
  generalize p.kind = j, p.check = n at fault fault'
  cases fault with
  | nameless => cases fault'; rfl
  | repeated => cases fault'; rfl
  | kind hk fault =>
    cases fault' with
    | kind hk' fault' =>
      cases hk.symm.trans hk'
      cases fault <;> cases fault' <;> rfl

theorem wellFormed_iff : c.WellFormed ↔ ∀ p error, ¬ c.DefectAt p error := by
  constructor
  · rintro wf p error ⟨s, there, fault⟩
    have hs : s ∈ c.services := List.mem_of_getElem? there
    generalize p.kind = j, p.check = n at fault
    cases fault with
    | nameless blank => exact wf.named s hs blank
    | repeated before same => exact pairwise_iff_take.1 wf.distinct _ s there _ before same
    | kind hk fault =>
      have mem := List.mem_of_getElem? hk
      cases fault with
      | repeated before same => exact pairwise_iff_take.1 (wf.apart s hs) _ _ hk _ before same
      | unplaced segment noZone noRegion =>
        exact (wf.placed s hs _ mem segment).elim noZone noRegion
      | zoneless filter noZone => exact noZone (wf.zonal s hs _ mem filter)
      | blank preserved => exact wf.telling s hs _ mem preserved
  · intro sound
    -- What a service or a kind has wrong with it is a defect at its place.
    have service (i : Nat) (s : Service) (hs : c.services[i]? = some s) (j n : Nat)
        (e : CatalogError) : ¬ s.Fault (c.services.take i) j n e :=
      fun fault => sound ⟨i, j, n⟩ e ⟨s, hs, fault⟩
    have kind (s : Service) (hs : s ∈ c.services) (j : Nat) (k : ResourceKind)
        (hk : s.kinds[j]? = some k) (n : Nat) (e : CatalogError) :
        ¬ k.Fault s.api (s.kinds.take j) n e := by
      obtain ⟨i, hi⟩ := List.mem_iff_getElem?.1 hs
      exact fun fault => service i s hi (j + 1) n e (.kind hk fault)
    refine ⟨fun s hs blank => ?_, pairwise_iff_take.2 fun i s hs s' before same => ?_,
      fun s hs => pairwise_iff_take.2 fun j k hk k' before same => ?_,
      fun s hs k hk segment => ?_, fun s hs k hk filter => ?_, fun s hs k hk preserved => ?_⟩
    · obtain ⟨i, hi⟩ := List.mem_iff_getElem?.1 hs
      exact service i s hi 0 0 _ (.nameless blank)
    · exact service i s hs 0 1 _ (.repeated before same)
    · exact kind s hs j k hk 0 _ (.repeated before same)
    · obtain ⟨j, hj⟩ := List.mem_iff_getElem?.1 hk
      refine Decidable.byContradiction fun neither => ?_
      rw [not_or] at neither
      exact kind s hs j k hj 1 _ (.unplaced segment neither.1 neither.2)
    · obtain ⟨j, hj⟩ := List.mem_iff_getElem?.1 hk
      exact Decidable.byContradiction fun noZone =>
        kind s hs j k hj 2 _ (.zoneless filter noZone)
    · obtain ⟨j, hj⟩ := List.mem_iff_getElem?.1 hk
      exact kind s hs j k hj 3 _ (.blank preserved)

/-! ## The check -/

/-- The check of one kind behind the kinds `earlier`. -/
def checkKind (api : String) (earlier : List ResourceKind) (k : ResourceKind) :
    Except CatalogError Unit :=
  if k.identity ∈ earlier.map (·.identity) then .error (.duplicateKind api k)
  else
    match kindDefect? k with
    | some defect => .error defect
    | none => .ok ()

/-- The check of one service behind the services `earlier`. -/
def checkService (earlier : List Service) (s : Service) : Except CatalogError Unit :=
  if s.api = "" then .error .emptyApi
  else if s.api ∈ earlier.map (·.api) then .error (.duplicateApi s.api)
  else scan (checkKind s.api) [] s.kinds

/-- Of the earlier kinds the check needs to have seen the identities only. -/
theorem validateKinds_eq_scan {api : String} {seen : List ResourceKind.Identity}
    (earlier kinds : List ResourceKind) (h : ∀ id, id ∈ seen ↔ id ∈ earlier.map (·.identity)) :
    validateKinds api seen kinds = scan (checkKind api) earlier kinds := by
  induction kinds generalizing seen earlier with
  | nil => rfl
  | cons k rest ih =>
    have later (id : ResourceKind.Identity) :
        id ∈ k.identity :: seen ↔ id ∈ (earlier ++ [k]).map (·.identity) := by
      simp [h, or_comm]
    rw [validateKinds, scan, checkKind]
    by_cases old : k.identity ∈ earlier.map (·.identity)
    · rw [if_pos (List.contains_iff_mem.2 ((h _).2 old)), if_pos old]
    rw [if_neg (mt List.contains_iff_mem.1 (mt (h _).1 old)), if_neg old]
    cases kindDefect? k with
    | some defect => rfl
    | none => exact ih _ later

/-- Of the earlier services the check needs to have seen the names only. -/
theorem validateServices_eq_scan {seen : List String} (earlier services : List Service)
    (h : ∀ api, api ∈ seen ↔ api ∈ earlier.map (·.api)) :
    validateServices seen services = scan checkService earlier services := by
  induction services generalizing seen earlier with
  | nil => rfl
  | cons s rest ih =>
    have later (api : String) : api ∈ s.api :: seen ↔ api ∈ (earlier ++ [s]).map (·.api) := by
      simp [h, or_comm]
    rw [validateServices, scan, checkService]
    by_cases blank : s.api = ""
    · rw [if_pos blank, if_pos blank]
    rw [if_neg blank, if_neg blank]
    by_cases old : s.api ∈ earlier.map (·.api)
    · rw [if_pos (List.contains_iff_mem.2 ((h _).2 old)), if_pos old]
    rw [if_neg (mt List.contains_iff_mem.1 (mt (h _).1 old)), if_neg old,
      validateKinds_eq_scan [] _ (by simp)]
    cases scan (checkKind s.api) [] s.kinds with
    | error defect => rfl
    | ok => exact ih _ later

theorem field?_eq_none_iff {scope : ScopeKind} :
    scope.field? = none ↔ scope ≠ .zone ∧ scope ≠ .region := by
  cases scope <;> simp [ScopeKind.field?]

/-- The check of a kind shows that it has no defect, or else its first one. -/
theorem checkKind_cases (api : String) (earlier : List ResourceKind) (k : ResourceKind) :
    (checkKind api earlier k = .ok () ∧ ∀ n e, ¬ k.Fault api earlier n e) ∨
      ∃ n e, checkKind api earlier k = .error e ∧ k.Fault api earlier n e ∧
        ∀ n' < n, ∀ e', ¬ k.Fault api earlier n' e' := by
  unfold checkKind
  by_cases old : k.identity ∈ earlier.map (·.identity)
  · obtain ⟨k', before, same⟩ := List.mem_map.1 old
    exact .inr ⟨0, _, if_pos old, .repeated before same, nofun⟩
  have new : ∀ e, ¬ k.Fault api earlier 0 e := by
    intro e fault
    cases fault with
    | repeated before same => exact old (List.mem_map.2 ⟨_, before, same⟩)
  rw [if_neg old, kindDefect?]
  by_cases unplaced : k.scopeSegment.isSome ∧ k.scope.field?.isNone
  · have scope := field?_eq_none_iff.1 (Option.isNone_iff_eq_none.1 unplaced.2)
    refine .inr ⟨1, .nameScopeWithoutField k, by rw [if_pos unplaced], ?_, fun n hn => ?_⟩
    · exact .unplaced (Option.isSome_iff_ne_none.1 unplaced.1) scope.1 scope.2
    · match n, hn with
      | 0, _ => exact new
  have placed : ∀ e, ¬ k.Fault api earlier 1 e := by
    intro e fault
    cases fault with
    | unplaced segment noZone noRegion =>
      exact unplaced ⟨Option.isSome_iff_ne_none.2 segment,
        Option.isNone_iff_eq_none.2 (field?_eq_none_iff.2 ⟨noZone, noRegion⟩)⟩
  rw [if_neg unplaced]
  by_cases zoneless : k.zoneFilter ∧ k.scope ≠ .zone
  · refine .inr ⟨2, .zoneFilterWithoutZone k, by rw [if_pos zoneless], ?_, fun n hn => ?_⟩
    · exact .zoneless zoneless.1 zoneless.2
    · match n, hn with
      | 0, _ => exact new
      | 1, _ => exact placed
  have zonal : ∀ e, ¬ k.Fault api earlier 2 e := by
    intro e fault
    cases fault with
    | zoneless filter noZone => exact zoneless ⟨filter, noZone⟩
  rw [if_neg zoneless]
  by_cases blank : k.preserved.contains ""
  · refine .inr ⟨3, .emptyPreservedName k, by rw [if_pos blank], ?_, fun n hn => ?_⟩
    · exact .blank (List.contains_iff_mem.1 blank)
    · match n, hn with
      | 0, _ => exact new
      | 1, _ => exact placed
      | 2, _ => exact zonal
  refine .inl ⟨by rw [if_neg blank], fun n e fault => ?_⟩
  cases fault with
  | repeated before same => exact new _ (.repeated before same)
  | unplaced segment noZone noRegion => exact placed _ (.unplaced segment noZone noRegion)
  | zoneless filter noZone => exact zonal _ (.zoneless filter noZone)
  | blank preserved => exact blank (List.contains_iff_mem.2 preserved)

theorem not_fault_of_checkKind {api : String} {earlier : List ResourceKind} {k : ResourceKind} {n : Nat}
    (passed : checkKind api earlier k = .ok ()) : ¬ k.Fault api earlier n error := by
  rcases checkKind_cases api earlier k with ⟨-, none⟩ | ⟨_, _, failed, -⟩
  · exact none n error
  · cases passed.symm.trans failed

/-- The check of a service shows that it has no defect, or else its first one. -/
theorem checkService_cases (earlier : List Service) (s : Service) :
    (checkService earlier s = .ok () ∧ ∀ j n e, ¬ s.Fault earlier j n e) ∨
      ∃ j n e, checkService earlier s = .error e ∧ s.Fault earlier j n e ∧
        ∀ j' n', j' < j ∨ (j' = j ∧ n' < n) → ∀ e', ¬ s.Fault earlier j' n' e' := by
  unfold checkService
  by_cases blank : s.api = ""
  · refine .inr ⟨0, 0, _, if_pos blank, .nameless blank, fun j' n' before => ?_⟩
    omega
  rw [if_neg blank]
  by_cases old : s.api ∈ earlier.map (·.api)
  · obtain ⟨s', hs, same⟩ := List.mem_map.1 old
    refine .inr ⟨0, 1, _, if_pos old, .repeated hs same, fun j' n' before e' fault => ?_⟩
    cases fault with
    | nameless blank' => exact blank blank'
    | repeated => omega
    | kind => omega
  rw [if_neg old]
  -- With a name of its own, all that the service can have wrong with it are its kinds.
  have own {j n : Nat} {e : CatalogError} (fault : s.Fault earlier j n e) :
      ∃ i k, j = i + 1 ∧ s.kinds[i]? = some k ∧ k.Fault s.api (s.kinds.take i) n e := by
    cases fault with
    | nameless blank' => exact absurd blank' blank
    | repeated hs same => exact absurd (List.mem_map.2 ⟨_, hs, same⟩) old
    | kind there fault => exact ⟨_, _, rfl, there, fault⟩
  rcases scan_cases (checkKind s.api) [] s.kinds with
    ⟨ended, sound⟩ | ⟨i, k, e, stopped, there, failed, sound⟩
  · refine .inl ⟨ended, fun j n e fault => ?_⟩
    obtain ⟨i, k, -, there, fault⟩ := own fault
    exact not_fault_of_checkKind (sound i k there) fault
  rw [List.nil_append] at failed
  rcases checkKind_cases s.api (s.kinds.take i) k with ⟨passed, -⟩ | ⟨n, e', failed', fault, first⟩
  · cases passed.symm.trans failed
  cases failed.symm.trans failed'
  refine .inr ⟨i + 1, n, e, stopped, .kind there fault, fun j' n' before e' fault' => ?_⟩
  obtain ⟨i', k', rfl, there', fault'⟩ := own fault'
  rcases before with less | ⟨same, less⟩
  · exact not_fault_of_checkKind (sound i' (Nat.lt_of_succ_lt_succ less) k' there') fault'
  · cases same
    cases there.symm.trans there'
    exact first n' less e' fault'

theorem not_fault_of_checkService {earlier : List Service} {s : Service} {j n : Nat}
    (passed : checkService earlier s = .ok ()) : ¬ s.Fault earlier j n error := by
  rcases checkService_cases earlier s with ⟨-, none⟩ | ⟨_, _, _, failed, -⟩
  · exact none j n error
  · cases passed.symm.trans failed

/-- The check of a catalog shows that it has no defect, or else its first one. -/
theorem validate_cases (c : Catalog) :
    (c.validate = .ok () ∧ ∀ p e, ¬ c.DefectAt p e) ∨
      ∃ e, c.validate = .error e ∧ c.FirstDefect e := by
  rw [validate, validateServices_eq_scan [] _ (by simp)]
  rcases scan_cases checkService [] c.services with
    ⟨ended, sound⟩ | ⟨i, s, e, stopped, there, failed, sound⟩
  · refine .inl ⟨ended, fun p e => ?_⟩
    rintro ⟨s, there, fault⟩
    exact not_fault_of_checkService (sound p.service s there) fault
  rw [List.nil_append] at failed
  rcases checkService_cases (c.services.take i) s with
    ⟨passed, -⟩ | ⟨j, n, e', failed', fault, first⟩
  · cases passed.symm.trans failed
  cases failed.symm.trans failed'
  refine .inr ⟨e, stopped, ⟨i, j, n⟩, ⟨s, there, fault⟩, fun q before e' => ?_⟩
  rintro ⟨s', there', fault'⟩
  rcases before with less | ⟨same, less⟩
  · exact not_fault_of_checkService (sound q.service less s' there') fault'
  · rw [same] at there' fault'
    cases there.symm.trans there'
    exact first q.kind q.check less e' fault'

theorem FirstDefect.unique (h : c.FirstDefect error) (h' : c.FirstDefect error') :
    error = error' := by
  obtain ⟨p, defect, first⟩ := h
  obtain ⟨q, defect', first'⟩ := h'
  cases Place.eq_of_not_before (fun before => first' p before error defect)
    (fun before => first q before error' defect')
  exact defect.unique defect'

/-- The check of a catalog accepts exactly the catalogs that are in order, and of any other one it
reports the first defect in declared order. -/
theorem validate_reports (c : Catalog) :
    (c.validate = .ok () ↔ c.WellFormed) ∧
      ∀ error, c.validate = .error error ↔ c.FirstDefect error := by
  rw [wellFormed_iff]
  rcases validate_cases c with ⟨passed, none⟩ | ⟨e, failed, first⟩
  · refine ⟨iff_of_true passed none, fun error => iff_of_false ?_ ?_⟩
    · rw [passed]
      exact nofun
    · rintro ⟨p, defect, -⟩
      exact none p error defect
  · refine ⟨iff_of_false ?_ ?_, fun error => ⟨fun h => ?_, fun h => ?_⟩⟩
    · rw [failed]
      exact nofun
    · obtain ⟨p, defect, -⟩ := first
      exact fun none => none p e defect
    · cases failed.symm.trans h
      exact first
    · rw [failed, first.unique h]

end Catalog
end CloudSweep
