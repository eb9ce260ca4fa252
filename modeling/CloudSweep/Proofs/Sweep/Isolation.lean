/-
Failures stay where they happen. If two clouds answer alike wherever a unit of the sweep has no say, a
sweep of the one and a sweep of the other make the same calls in the same order but for those of the
unit, and find out the same about every other unit, whatever the schedules. What a part asks for and
finds out depends on the answers at its own sites alone.
-/
import CloudSweep.Call.InMemory
import CloudSweep.Proofs.Deletion.Outcome
import CloudSweep.Proofs.Sweep.Comparison
import CloudSweep.Proofs.Sweep.Footprint
import CloudSweep.Proofs.Sweep.Sites
import CloudSweep.Proofs.Sweep.Units

namespace CloudSweep

/-! ## What happens beyond a unit -/

namespace SweepUnit

/-- The calls that the unit does not make, with their sites. -/
def beyond (u : SweepUnit) : View (Site × Call) where
  noted _ := none
  asked site call := if u.owns site then none else some (site, call)
  started ticket := if u.owns ticket.site then none else some (ticket.site, ticket.call)

theorem of_beyond (u : SweepUnit) (moves : List Move) :
    u.beyond.of moves = (calls moves).filter (!u.owns ·.1) := by
  rw [View.of, calls, List.filter_filterMap]
  refine List.filterMap_congr fun m _ => ?_
  cases m with
  | noted _ | landed _ => rfl
  | asked site call _ =>
    simp only [View.see?, beyond, Move.call?, Option.filter_some]
    cases u.owns site <;> rfl
  | started ticket =>
    simp only [View.see?, beyond, Move.call?, Option.filter_some]
    cases u.owns ticket.site <;> rfl

end SweepUnit

/-- The same but for the order of failures. -/
inductive Finding.Same : Finding → Finding → Prop
  | refl (finding : Finding) : Same finding finding
  | kind (k : ResourceKind) {o o' : KindOutcome} (alike : Alike DeletionOutcome.SameUpToOrder o o') :
      Same (.kind k o) (.kind k o')

theorem Finding.Same.name?_eq {x y : Finding} (same : x.Same y) (column : Column) :
    x.name? column = y.name? column := by
  cases same with
  | refl => rfl
  | kind k alike =>
    cases alike with
    | error => rfl
    | ok related => cases column <;> simp [Finding.name?, related.isFailed_eq]

/-- Ledgers with the same findings on what is kept put the same names for it into the lists of a
report. -/
theorem Ledger.AgreeOn.column_eq {keep : SweepUnit → Bool} {a b : Ledger}
    (h : a.AgreeOn keep Finding.Same b) (column : Column) :
    (a.column column).filter (keep ·.1) = (b.column column).filter (keep ·.1) := by
  have same {a b : Ledger} (h : List.Forall₂ (fun x y => x.1 = y.1 ∧ x.2.Same y.2) a b) :
      a.column column = b.column column := by
    induction h with
    | nil => rfl
    | cons related _ ih =>
      simp only [Ledger.column, List.filterMap_cons, related.1, related.2.name?_eq column] at ih ⊢
      rw [ih]
  rw [filter_column, filter_column]
  exact same h

/-- Two clouds, compared beyond a unit. -/
def isolation (u : SweepUnit) (cloud cloud' : Cloud) : Comparison (Site × Call) :=
  { first := cloud, second := cloud', left := u.beyond, right := u.beyond }

namespace Sweep

open Program (Matches matches_bind matches_done matches_request matches_say matches_sayAll
  matches_of_shows shows_nothing shows_deleteAll)

variable {α : Type} {u : SweepUnit} {cloud cloud' : Cloud} {s : Settings}

theorem discreet_isolation : (isolation u cloud cloud').Discreet :=
  ⟨fun _ _ => rfl, fun _ _ => rfl⟩

/-- Nothing is seen of a part that keeps to the unit's own sites. -/
theorem matches_own {p : Program α} {A : Site → Prop} (once : p.Once A)
    (own : ∀ site, A site → u.owns site = true) {R : α → α → Prop} (h : ∀ a b, R a b) :
    Matches (isolation u cloud cloud') R p p := by
  have nothing (cloud : Cloud) : Program.Shows cloud u.beyond [] (fun _ => True) p :=
    shows_nothing once (fun _ => rfl) (fun site _ inside => if_pos (own site inside))
      fun ticket inside => if_pos (own ticket.site inside)
  exact (matches_of_shows (nothing _) (nothing _) rfl).mono fun a b _ => h a b

/-- Nothing is kept of what the unit finds out itself. -/
theorem matches_covered {p : Program α} {A : Site → Prop} {w : SweepUnit} (once : p.Once A)
    (inside : ∀ site, A site → site.unit? = some w) (own : u.covers w = true) {E : α → α → Prop} :
    Matches (isolation u cloud cloud') (fun a b => (!u.covers w) = true → E a b) p p := by
  refine matches_own once (fun site h => (SweepUnit.owns_eq (inside site h)).trans own)
    fun a b kept => ?_
  rw [own] at kept
  cases kept

section Agreement

variable (agree : ∀ site call, u.owns site = false → cloud.answer site call = cloud'.answer site call)
include agree

theorem agrees_of_not_own {site : Site} {call : Call} (foreign : u.owns site = false) :
    (isolation u cloud cloud').Agrees site call :=
  ⟨agree site call foreign, rfl⟩

/-- A pool lands in some order in the one run and in some order in the other. -/
theorem matches_pool {width : Nat} {tickets : List Ticket}
    (foreign : ∀ ticket ∈ tickets, u.owns ticket.site = false) :
    Matches (isolation u cloud cloud') List.Perm (Program.deleteAll width tickets)
      (Program.deleteAll width tickets) := by
  have same : tickets.map cloud.land = tickets.map cloud'.land := by
    refine List.map_congr_left fun ticket ht => ?_
    rw [Cloud.land, Cloud.land, agree _ _ (foreign ticket ht)]
  refine (matches_of_shows (shows_deleteAll width tickets) (shows_deleteAll width tickets) rfl).mono ?_
  rintro landed landed' ⟨perm, perm'⟩
  exact perm.trans ((List.Perm.of_eq same).trans perm'.symm)

/-! ## Units -/

theorem subnets_isolated (foreign : u.covers .subnets = false) :
    Matches (isolation u cloud cloud') Eq (subnets s) (subnets s) := by
  have owns {site : Site} (inside : site.InSubnets) : u.owns site = false :=
    (SweepUnit.owns_eq inside.unit?_eq).trans foreign
  have one (index : Nat) (target : Subnet) : Matches (isolation u cloud cloud') Eq
      (subnet (s.withDryRun s.dryRun) index target) (subnet (s.withDryRun s.dryRun) index target) := by
    refine matches_subnet discreet_isolation (agrees_of_not_own agree (owns trivial)) (fun _ _ => rfl)
      fun names => ?_
    unfold removeRanges
    split
    · exact matches_say rfl rfl (matches_done rfl)
    refine matches_say rfl rfl (matches_request (agrees_of_not_own agree (owns trivial)) fun answer => ?_)
    rcases answer with error | _
    · exact matches_say rfl rfl (matches_done rfl)
    · exact matches_done rfl
  refine (matches_subnets (agrees_of_not_own agree (owns trivial)) one).mono fun o o' alike => ?_
  cases alike with
  | ok places => rw [places.eq]
  | error => rfl

theorem endpoint_isolated {index : Nat} (foreign : u.covers (.endpoint index) = false)
    (e : ClusterEndpoint) :
    Matches (isolation u cloud cloud') Eq (endpoint s index e) (endpoint s index e) := by
  have owns {site : Site} (inside : site.InEndpoint index) : u.owns site = false :=
    (SweepUnit.owns_eq inside.unit?_eq).trans foreign
  show Matches _ _ (endpoint (s.withDryRun s.dryRun) index e) (endpoint (s.withDryRun s.dryRun) index e)
  refine matches_endpoint discreet_isolation (agrees_of_not_own agree (owns rfl)) (fun _ _ => rfl)
    fun targets => ?_
  unfold removeClusters
  split
  · exact matches_say rfl rfl (matches_done rfl)
  refine matches_bind (matches_pool agree fun ticket ht => ?_) fun landed landed' perm => ?_
  · obtain ⟨i, target, -, rfl⟩ := mem_clusterTickets.1 ht
    exact owns rfl
  · rw [perm.countP_eq]
    exact matches_done rfl

theorem kind_isolated {service index : Nat} (foreign : u.covers (.kind service index) = false)
    (endpoint : Option EndpointOverride) (k : ResourceKind) :
    Matches (isolation u cloud cloud') (fun x y => x.1 = y.1 ∧ Alike DeletionOutcome.SameUpToOrder x.2 y.2)
      (reportedKind s service endpoint index k) (reportedKind s service endpoint index k) := by
  have owns {site : Site} (inside : site.InKind service index) : u.owns site = false :=
    (SweepUnit.owns_eq inside.unit?_eq).trans foreign
  show Matches _ _ (reportedKind (s.withDryRun s.dryRun) ..) (reportedKind (s.withDryRun s.dryRun) ..)
  refine matches_reportedKind discreet_isolation (matches_kind discreet_isolation
    (agrees_of_not_own agree (owns ⟨rfl, rfl⟩)) (.refl {}) fun groups => ?_)
  unfold delete
  dsimp only
  split
  · exact matches_done (.refl {})
  refine matches_say rfl rfl ?_
  split
  · exact matches_sayAll rfl (matches_done (.refl _))
  refine matches_bind (matches_pool agree fun ticket ht => ?_) fun landed landed' perm => ?_
  · obtain ⟨r, request, -, rfl⟩ := mem_requestTickets.1 ht
    exact owns ⟨rfl, rfl⟩
  · exact matches_done (DeletionOutcome.ofResults_perm (perm.filterMap _))

theorem service_isolated (index : Nat) (target : Service) :
    Matches (isolation u cloud cloud')
      (fun o o' => ∀ api, Ledger.AgreeOn (!u.covers ·) Finding.Same (serviceFindings index api o)
        (serviceFindings index api o'))
      (service s index target) (service s index target) := by
  by_cases own : u = .service index
  · -- Nothing that the service finds out is kept.
    subst own
    refine matches_own (once_service index target) (fun site inside => inside.owns) fun o o' api => ?_
    have dropped (o : ServiceOutcome) : (serviceFindings index api o).filter
        (!(SweepUnit.service index).covers ·.1) = [] :=
      List.filter_eq_nil_iff.2 fun e he => by simp [covers_of_mem_serviceFindings he]
    rw [Ledger.AgreeOn, dropped, dropped]
    exact .nil
  have foreign : u.covers (.service index) = false := by
    cases u <;> simp_all [SweepUnit.covers]
  show Matches _ _ (service (s.withDryRun s.dryRun) ..) (service (s.withDryRun s.dryRun) ..)
  refine matches_service discreet_isolation (agrees_of_not_own agree foreign)
    (fun api => ⟨.refl _, .refl _⟩) fun i k => ?_
  by_cases part : u.covers (.kind index i) = true
  · exact matches_covered (once_reportedKind index i target.endpoint k) (fun _ h => h.unit?_eq) part
  · refine (kind_isolated agree (Bool.eq_false_iff.2 part) target.endpoint k).mono ?_
    rintro ⟨k, o⟩ ⟨_, o'⟩ ⟨rfl, alike⟩ -
    exact .kind k alike

end Agreement

/-! ## Projects -/

theorem ledger_isolated
    (agree : ∀ site call, u.owns site = false → cloud.answer site call = cloud'.answer site call)
    (endpoints : List ClusterEndpoint) (catalog : Catalog) :
    Matches (isolation u cloud cloud') (Ledger.AgreeOn (!u.covers ·) Finding.Same)
      (ledger s endpoints catalog) (ledger s endpoints catalog) := by
  show Matches _ _ (ledger (s.withDryRun s.dryRun) ..) (ledger (s.withDryRun s.dryRun) ..)
  refine matches_ledger discreet_isolation endpoints catalog ?_ (fun i e => ?_)
    fun i target => service_isolated agree i target
  · by_cases own : u.covers .subnets = true
    · exact matches_covered once_subnets (fun _ h => h.unit?_eq) own
    · refine (subnets_isolated agree (Bool.eq_false_iff.2 own)).mono ?_
      rintro o _ rfl -
      exact .refl _
  · by_cases own : u.covers (.endpoint i) = true
    · exact matches_covered (once_endpoint i e) (fun _ h => h.unit?_eq) own
    · refine (endpoint_isolated agree (Bool.eq_false_iff.2 own) e).mono ?_
      rintro o _ rfl - name
      exact .refl _

/-- What a unit is answered, and what comes of it, makes no difference beyond the unit: the other calls
are the same in the same order, the other findings are the same but for the order of failures, and so
are the other names in the lists of the report. -/
theorem isolated (u : SweepUnit) (cloud cloud' : Cloud) (s : Settings)
    (endpoints : List ClusterEndpoint) (catalog : Catalog)
    (agree : ∀ site call, u.owns site = false → cloud.answer site call = cloud'.answer site call) :
    (∃ moves report, (project s endpoints catalog).Runs cloud moves report) ∧
      (∃ moves report, (project s endpoints catalog).Runs cloud' moves report) ∧
      ∀ moves report moves' report', (project s endpoints catalog).Runs cloud moves report →
        (project s endpoints catalog).Runs cloud' moves' report' →
        (calls moves).filter (!u.owns ·.1) = (calls moves').filter (!u.owns ·.1) ∧
        ∃ found found', (ledger s endpoints catalog).Runs cloud moves found ∧
          (ledger s endpoints catalog).Runs cloud' moves' found' ∧
          report = found.report ∧ report' = found'.report ∧
          found.AgreeOn (!u.covers ·) Finding.Same found' ∧
          ∀ column, report.column column = (found.column column).map Prod.snd ∧
            report'.column column = (found'.column column).map Prod.snd ∧
            (found.column column).filter (!u.covers ·.1) =
              (found'.column column).filter (!u.covers ·.1) := by
  refine ⟨⟨_, _, runs_project cloud endpoints catalog⟩, ⟨_, _, runs_project cloud' endpoints catalog⟩,
    ?_⟩
  intro moves report moves' report' run run'
  obtain ⟨found, kept, rfl⟩ := runs_project_iff.1 run
  obtain ⟨found', kept', rfl⟩ := runs_project_iff.1 run'
  obtain ⟨seen, same⟩ := ledger_isolated agree endpoints catalog _ _ _ _ kept kept'
  refine ⟨?_, found, found', kept, kept', rfl, rfl, same, fun column => ?_⟩
  · rw [← u.of_beyond, ← u.of_beyond]
    exact seen
  · exact ⟨found.column_report column, found'.column_report column, same.column_eq column⟩

/-- Disks and networks, with one of each to delete. -/
def twoKinds : Catalog := { services := [
  { api := "compute.googleapis.com", kinds := [.of "compute" "disks", .of "compute" "networks"] }] }

/-- A cloud in which both kinds can be listed. -/
def twoListings : InMemory :=
  { listings := [("compute disks", [.named "d"]), ("compute networks", [.named "n"])] }

/-- The same cloud, but disks cannot be listed. -/
def diskless : Cloud where
  answer site call :=
    if (SweepUnit.kind 0 0).owns site then
      { twoListings with listFailures := ["compute disks"] : InMemory }.answer call
    else twoListings.answer call

theorem isolated_disks :
    (∀ site call, (SweepUnit.kind 0 0).owns site = false →
      twoListings.cloud.answer site call = diskless.answer site call) ∧
    ∃ moves report moves' report',
      (project { project := "p", cutoff := .clearAll } [] twoKinds).Runs twoListings.cloud moves report ∧
      (project { project := "p", cutoff := .clearAll } [] twoKinds).Runs diskless moves' report' ∧
      report.failedKinds = [] ∧ report'.failedKinds = ["compute disks"] ∧
      (calls moves).filter (!(SweepUnit.kind 0 0).owns ·.1) =
        (calls moves').filter (!(SweepUnit.kind 0 0).owns ·.1) := by
  have agree : ∀ site call, (SweepUnit.kind 0 0).owns site = false →
      twoListings.cloud.answer site call = diskless.answer site call :=
    fun site call foreign => (if_neg (Bool.eq_false_iff.1 foreign)).symm
  have run := runs_project (s := { project := "p", cutoff := .clearAll }) twoListings.cloud [] twoKinds
  have run' := runs_project (s := { project := "p", cutoff := .clearAll }) diskless [] twoKinds
  obtain ⟨-, -, alike⟩ := isolated (.kind 0 0) twoListings.cloud diskless
    { project := "p", cutoff := .clearAll } [] twoKinds agree
  exact ⟨agree, _, _, _, _, run, run', by decide +kernel, by decide +kernel,
    (alike _ _ _ _ run run').1⟩

end Sweep
end CloudSweep
