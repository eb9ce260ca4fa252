/-
Sites. A program that makes each of its calls at a site of its own, whatever it is answered, makes no
two calls of a run at one site, whatever the schedule. So an answer for each site is all that a run
can learn about a cloud, and no answer is used twice.
-/
import CloudSweep.Proofs.Program.Pool

namespace CloudSweep

variable {α β : Type} {cloud : Cloud} {free free' A B : Site → Prop}

/-! ## Calls of a pool -/

/-- The calls of a pool are those of the tickets that it starts. -/
theorem Pool.Steps.calls_eq {width : Nat} {p q : Pool} {moves : List Move}
    (steps : Steps cloud width p moves q) :
    calls moves = (starts moves).map fun ticket => (ticket.site, ticket.call) := by
  induction steps with
  | refl => rfl
  | step first _ ih =>
    cases first with
    | start _ => exact congrArg (_ :: ·) ih
    | land => exact ih

namespace Program

/-- Whatever it is answered, the program makes its calls at free sites, each at one of its own. -/
def Once : Program α → (Site → Prop) → Prop
  | .done _, _ => True
  | .note _ rest, free => rest.Once free
  | .ask site _ next, free =>
    free site ∧ ∀ answer, (next answer).Once fun other => free other ∧ other ≠ site
  | .dispatch _ tickets next, free =>
    (tickets.map (·.site)).Nodup ∧ (∀ site ∈ tickets.map (·.site), free site) ∧
      ∀ landed, (next landed).Once fun other => free other ∧ other ∉ tickets.map (·.site)

theorem Once.mono {p : Program α} (h : p.Once free) (hf : ∀ site, free site → free' site) :
    p.Once free' := by
  induction p generalizing free free' with
  | done _ => trivial
  | note _ _ ih => exact ih h hf
  | ask site _ _ ih =>
    exact ⟨hf site h.1, fun answer => ih answer (h.2 answer) fun other => And.imp_left (hf other)⟩
  | dispatch _ tickets _ ih =>
    obtain ⟨nodup, inside, hn⟩ := h
    refine ⟨nodup, fun site hs => hf site (inside site hs), fun landed => ?_⟩
    exact ih landed (hn landed) fun other => And.imp_left (hf other)

/-! ## Sequences -/

/-- A sequence of parts makes its calls at the sites of the parts, which share none. -/
theorem once_bind {p : Program α} {f : α → Program β} (hp : p.Once A) (hf : ∀ a, (f a).Once B)
    (apart : ∀ site, A site → ¬ B site) : (p.bind f).Once fun site => A site ∨ B site := by
  -- By induction on the first part; the sites it has used are taken off its own region.
  induction p generalizing A with
  | done a => exact (hf a).mono fun _ => .inr
  | note _ _ ih => exact ih hp apart
  | ask site _ _ ih =>
    refine ⟨.inl hp.1, fun answer => ?_⟩
    refine (ih answer (hp.2 answer) fun other h => apart other h.1).mono fun other h => ?_
    rcases h with h | h
    · exact ⟨.inl h.1, h.2⟩
    · exact ⟨.inr h, fun same => apart site hp.1 (same ▸ h)⟩
  | dispatch _ tickets _ ih =>
    obtain ⟨nodup, inside, hn⟩ := hp
    refine ⟨nodup, fun site hs => .inl (inside site hs), fun landed => ?_⟩
    refine (ih landed (hn landed) fun other h => apart other h.1).mono fun other h => ?_
    rcases h with h | h
    · exact ⟨.inl h.1, h.2⟩
    · exact ⟨.inr h, fun hs => apart other (inside other hs) h⟩

/-- What follows a part and makes no calls needs no sites. -/
theorem once_bind_quiet {p : Program α} {f : α → Program β} (hp : p.Once A)
    (hf : ∀ a, (f a).Once fun _ => False) : (p.bind f).Once A :=
  (once_bind hp hf fun _ _ => id).mono fun _ h => h.resolve_right id

theorem once_say_bind {event : Event} {f : Unit → Program α} :
    ((say event).bind f).Once free ↔ (f ()).Once free := .rfl

theorem once_request_bind {site : Site} {call : Call} {f : call.Answer → Program α} :
    ((request site call).bind f).Once free ↔
      free site ∧ ∀ answer, (f answer).Once fun other => free other ∧ other ≠ site := .rfl

theorem once_deleteAll_bind {width : Nat} {tickets : List Ticket} {f : List Landing → Program α} :
    ((deleteAll width tickets).bind f).Once free ↔
      (tickets.map (·.site)).Nodup ∧ (∀ site ∈ tickets.map (·.site), free site) ∧
        ∀ landed, (f landed).Once fun other => free other ∧ other ∉ tickets.map (·.site) := .rfl

theorem once_sayAll_bind {events : List Event} {f : Unit → Program α} :
    ((sayAll events).bind f).Once free ↔ (f ()).Once free := by
  induction events with
  | nil => exact .rfl
  | cons event events ih => exact ih

/-- Parts whose sites tell their places apart can follow one another. -/
theorem once_each {f : Nat → α → Program β} {region : Nat → Site → Prop}
    (hf : ∀ i a, (f i a).Once (region i))
    (apart : ∀ i j site, region i site → region j site → i = j) (as : List α) (start : Nat) :
    (each f start as).Once fun site => ∃ i, start ≤ i ∧ region i site := by
  induction as generalizing start with
  | nil => trivial
  | cons a as ih =>
    have rest (b : β) : ((each f (start + 1) as).bind fun bs => .done (b :: bs)).Once
        fun site => ∃ i, start + 1 ≤ i ∧ region i site :=
      once_bind_quiet (ih (start + 1)) fun _ => trivial
    refine (once_bind (hf start a) rest fun site h later => ?_).mono fun site h => ?_
    · obtain ⟨i, hi, hr⟩ := later
      have same := apart start i site h hr
      omega
    · rcases h with h | ⟨i, hi, hr⟩
      · exact ⟨start, Nat.le_refl start, h⟩
      · exact ⟨i, by omega, hr⟩

/-! ## Runs -/

theorem Runs.once {p : Program α} {moves : List Move} {a : α} (run : p.Runs cloud moves a)
    (h : p.Once free) :
    ((calls moves).map Prod.fst).Nodup ∧ ∀ site ∈ (calls moves).map Prod.fst, free site := by
  induction run generalizing free with
  | done => exact ⟨.nil, fun _ h => nomatch h⟩
  | note _ ih => exact ih h
  | @ask site call _ moves _ _ ih =>
    obtain ⟨nodup, inside⟩ := ih (h.2 _)
    refine ⟨List.nodup_cons.2 ⟨fun hs => (inside site hs).2 rfl, nodup⟩, fun other ho => ?_⟩
    rcases List.mem_cons.1 ho with rfl | ho
    · exact h.1
    · exact (inside other ho).1
  | @dispatch _ tickets _ deletions moves _ _ pool _ ih =>
    obtain ⟨nodup, inside⟩ := ih (h.2.2 _)
    have sites : (calls (deletions ++ moves)).map Prod.fst =
        tickets.map (·.site) ++ (calls moves).map Prod.fst := by
      rw [calls_append, List.map_append, pool.calls_eq, pool.finished.1, List.map_map]
      rfl
    -- The pool uses sites that the rest of the program no longer has.
    rw [sites]
    refine ⟨List.nodup_append.2 ⟨h.1, nodup, fun site hs other ho same => ?_⟩, fun site hs => ?_⟩
    · exact (inside other ho).2 (same ▸ hs)
    · rcases List.mem_append.1 hs with hs | hs
      · exact h.2.1 site hs
      · exact (inside site hs).1

/-- No two calls of a run are made at one site. -/
theorem Runs.nodup_sites {p : Program α} {moves : List Move} {a : α} (run : p.Runs cloud moves a)
    (h : p.Once free) : ((calls moves).map Prod.fst).Nodup :=
  (run.once h).1

end Program
end CloudSweep
