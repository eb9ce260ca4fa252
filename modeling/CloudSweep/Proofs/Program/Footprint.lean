/-
What a program may do. `Program.Within` bounds the calls that a program may ask for and the pools
that it may open, whatever it is answered. The bound of a sequence is the bound of its parts, and
every run of the program keeps to it.
-/
import CloudSweep.Proofs.Program.Pool

namespace CloudSweep

variable {α β : Type} {asks : Site → Call → Prop} {pools : Nat → List Ticket → Prop}

namespace Program

/-- Whatever it is answered, the program asks only for calls in `asks` and opens only pools in
`pools`, given by their width and their tickets. -/
def Within (asks : Site → Call → Prop) (pools : Nat → List Ticket → Prop) : Program α → Prop
  | .done _ => True
  | .note _ rest => rest.Within asks pools
  | .ask site call next => asks site call ∧ ∀ answer, (next answer).Within asks pools
  | .dispatch width tickets next => pools width tickets ∧ ∀ landed, (next landed).Within asks pools

/-! ## Bounds of sequences -/

@[simp] theorem within_say (event : Event) : (say event).Within asks pools := trivial

@[simp] theorem within_sayAll (events : List Event) : (sayAll events).Within asks pools := by
  induction events with
  | nil => trivial
  | cons event events ih => exact ih

@[simp] theorem within_request {site : Site} {call : Call} :
    (request site call).Within asks pools ↔ asks site call :=
  ⟨fun h => h.1, fun h => ⟨h, fun _ => trivial⟩⟩

@[simp] theorem within_deleteAll {width : Nat} {tickets : List Ticket} :
    (deleteAll width tickets).Within asks pools ↔ pools width tickets :=
  ⟨fun h => h.1, fun h => ⟨h, fun _ => trivial⟩⟩

theorem within_bind {p : Program α} {f : α → Program β} (hp : p.Within asks pools)
    (hf : ∀ a, (f a).Within asks pools) : (p.bind f).Within asks pools := by
  induction p with
  | done a => exact hf a
  | note _ _ ih => exact ih hp
  | ask _ _ _ ih => exact ⟨hp.1, fun answer => ih answer (hp.2 answer)⟩
  | dispatch _ _ _ ih => exact ⟨hp.1, fun landed => ih landed (hp.2 landed)⟩

theorem within_each {f : Nat → α → Program β} {as : List α}
    (hf : ∀ i, ∀ a ∈ as, (f i a).Within asks pools) (start : Nat) :
    (each f start as).Within asks pools := by
  induction as generalizing start with
  | nil => trivial
  | cons a as ih =>
    refine within_bind (hf start a List.mem_cons_self) fun b => ?_
    exact within_bind (ih (fun i a ha => hf i a (List.mem_cons_of_mem _ ha)) _) fun _ => trivial

theorem Within.mono {p : Program α} {asks' : Site → Call → Prop}
    {pools' : Nat → List Ticket → Prop} (h : p.Within asks pools)
    (hasks : ∀ site call, asks site call → asks' site call)
    (hpools : ∀ width tickets, pools width tickets → pools' width tickets) :
    p.Within asks' pools' := by
  induction p with
  | done _ => trivial
  | note _ _ ih => exact ih h
  | ask _ _ _ ih => exact ⟨hasks _ _ h.1, fun answer => ih answer (h.2 answer)⟩
  | dispatch _ _ _ ih => exact ⟨hpools _ _ h.1, fun landed => ih landed (h.2 landed)⟩

end Program

/-! ## Bounds of runs -/

/-- The move keeps to the bounds. -/
def Move.Within (asks : Site → Call → Prop) (pools : Nat → List Ticket → Prop) : Move → Prop
  | .noted _ => True
  | .asked site call _ => asks site call
  | .started ticket => ∃ width tickets, pools width tickets ∧ ticket ∈ tickets
  | .landed landing => ∃ width tickets, pools width tickets ∧ landing.ticket ∈ tickets

theorem Program.Runs.within {cloud : Cloud} {p : Program α} {moves : List Move} {a : α}
    (run : p.Runs cloud moves a) (h : p.Within asks pools) : ∀ m ∈ moves, m.Within asks pools := by
  induction run with
  | done => simp
  | note _ ih =>
    rintro m (_ | ⟨_, hm⟩)
    · trivial
    · exact ih h m hm
  | ask _ ih =>
    rintro m (_ | ⟨_, hm⟩)
    · exact h.1
    · exact ih (h.2 _) m hm
  | @dispatch width tickets _ _ _ _ _ pool _ ih =>
    intro m hm
    rcases List.mem_append.1 hm with hm | hm
    · obtain ⟨ticket, ht, rfl | rfl⟩ := pool.mem_finished hm
      · exact ⟨width, tickets, h.1, ht⟩
      · exact ⟨width, tickets, h.1, ht⟩
    · exact ih (h.2 _) m hm

/-- The run that `Program.run` computes is a run under some schedule, if every pool has room. -/
theorem Program.runs_run (cloud : Cloud) {p : Program α}
    (h : p.Within asks fun width _ => 0 < width) :
    p.Runs cloud (p.moves cloud) (p.result cloud) := by
  induction p with
  | done _ => exact .done
  | note _ _ ih => exact .note (ih h)
  | ask _ _ _ ih => exact .ask (ih _ (h.2 _))
  | dispatch width tickets _ ih =>
    -- Without room the deletions of `Program.run` would follow no schedule.
    have pool := steps_deletionMoves cloud h.1 tickets [] [] (Nat.zero_le _)
    rw [List.nil_append] at pool
    exact .dispatch pool (ih _ (h.2 _))

end CloudSweep
