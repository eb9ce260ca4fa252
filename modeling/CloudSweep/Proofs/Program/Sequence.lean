/-
The runs of a program, read off its text: what each way to start a program says about its run, and
the run of a list of parts as the runs of the parts one after the other.
-/
import CloudSweep.Proofs.Program.Footprint
import Mathlib.Data.List.Forall2

namespace CloudSweep.Program

variable {α β : Type} {cloud : Cloud} {moves : List Move}

/-! ## Sequences that start with a step of their own -/

@[simp] theorem say_bind (event : Event) (f : Unit → Program α) :
    (say event).bind f = note event (f ()) := rfl

@[simp] theorem deleteAll_bind (width : Nat) (tickets : List Ticket)
    (f : List Landing → Program α) :
    (deleteAll width tickets).bind f = dispatch width tickets f := rfl

@[simp] theorem runs_done {a b : α} : Runs cloud (done a) moves b ↔ moves = [] ∧ b = a := by
  constructor
  · rintro ⟨⟩
    exact ⟨rfl, rfl⟩
  · rintro ⟨rfl, rfl⟩
    exact .done

@[simp] theorem runs_note {event : Event} {p : Program α} {a : α} :
    Runs cloud (note event p) moves a ↔
      ∃ rest, moves = .noted event :: rest ∧ Runs cloud p rest a := by
  constructor
  · rintro (_ | run)
    exact ⟨_, rfl, run⟩
  · rintro ⟨rest, rfl, run⟩
    exact .note run

theorem runs_ask {site : Site} {call : Call} {next : call.Answer → Program α} {a : α} :
    Runs cloud (ask site call next) moves a ↔
      ∃ rest, moves = .asked site call (cloud.answer site call) :: rest ∧
        Runs cloud (next (cloud.answer site call)) rest a := by
  constructor
  · rintro (_ | _ | run)
    exact ⟨_, rfl, run⟩
  · rintro ⟨rest, rfl, run⟩
    exact .ask run

/-- A sequence that starts with a call goes on with the cloud's answer. -/
theorem runs_request_bind {site : Site} {call : Call} {f : call.Answer → Program α} {a : α} :
    Runs cloud ((request site call).bind f) moves a ↔
      ∃ rest, moves = .asked site call (cloud.answer site call) :: rest ∧
        Runs cloud (f (cloud.answer site call)) rest a :=
  runs_ask

@[simp] theorem runs_dispatch {width : Nat} {tickets : List Ticket}
    {next : List Landing → Program α} {a : α} :
    Runs cloud (dispatch width tickets next) moves a ↔
      ∃ deletions landed rest, moves = deletions ++ rest ∧
        Pool.Steps cloud width (.ofTickets tickets) deletions (.ofLandings landed) ∧
        Runs cloud (next landed) rest a := by
  constructor
  · rintro (_ | _ | _ | ⟨pool, run⟩)
    exact ⟨_, _, _, rfl, pool, run⟩
  · rintro ⟨deletions, landed, rest, rfl, pool, run⟩
    exact .dispatch pool run

@[simp] theorem runs_sayAll_bind {events : List Event} {f : Unit → Program α} {a : α} :
    Runs cloud ((sayAll events).bind f) moves a ↔
      ∃ rest, moves = notes events ++ rest ∧ Runs cloud (f ()) rest a := by
  induction events generalizing moves with
  | nil => simp [sayAll, notes]
  | cons event events ih =>
    show Runs cloud (note event ((sayAll events).bind f)) moves a ↔ _
    rw [runs_note]
    constructor
    · rintro ⟨_, rfl, run⟩
      obtain ⟨rest, rfl, tail⟩ := ih.1 run
      exact ⟨rest, rfl, tail⟩
    · rintro ⟨rest, rfl, run⟩
      exact ⟨_, rfl, ih.2 ⟨rest, rfl, run⟩⟩

/-! ## Lists of parts -/

section Each

variable {f : Nat → α → Program β} {a : α} {as : List α} {start : Nat} {bs : List β}

theorem runs_each_nil : Runs cloud (each f start []) moves bs ↔ moves = [] ∧ bs = [] := runs_done

theorem runs_each_cons :
    Runs cloud (each f start (a :: as)) moves bs ↔
      ∃ first b rest bs', moves = first ++ rest ∧ bs = b :: bs' ∧ Runs cloud (f start a) first b ∧
        Runs cloud (each f (start + 1) as) rest bs' := by
  simp only [each, runs_bind, runs_done]
  constructor
  · rintro ⟨first, b, _, rfl, run, rest, bs', _, rfl, runs, rfl, rfl⟩
    exact ⟨first, b, rest, bs', by rw [List.append_nil], rfl, run, runs⟩
  · rintro ⟨first, b, rest, bs', rfl, rfl, run, runs⟩
    exact ⟨first, b, rest, rfl, run, rest, bs', [], (List.append_nil _).symm, runs, rfl, rfl⟩

/-- A list of parts runs as its parts one after the other, each from its place in the list. -/
theorem runs_each :
    Runs cloud (each f start as) moves bs ↔
      ∃ parts : List (List Move × β), moves = parts.flatMap Prod.fst ∧ bs = parts.map Prod.snd ∧
        List.Forall₂ (fun a part => Runs cloud (f a.2 a.1) part.1 part.2) (as.zipIdx start) parts := by
  induction as generalizing start moves bs with
  | nil =>
    rw [runs_each_nil]
    constructor
    · rintro ⟨rfl, rfl⟩
      exact ⟨[], rfl, rfl, .nil⟩
    · rintro ⟨_, rfl, rfl, ⟨⟩⟩
      exact ⟨rfl, rfl⟩
  | cons a as ih =>
    rw [runs_each_cons]
    constructor
    · rintro ⟨first, b, rest, bs', rfl, rfl, run, runs⟩
      obtain ⟨parts, rfl, rfl, h⟩ := ih.1 runs
      exact ⟨(first, b) :: parts, rfl, rfl, .cons run h⟩
    · rintro ⟨_, rfl, rfl, _ | ⟨run, h⟩⟩
      exact ⟨_, _, _, _, rfl, rfl, run, ih.2 ⟨_, rfl, rfl, h⟩⟩

/-- A list has as many results as parts. -/
theorem length_of_runs_each (run : Runs cloud (each f start as) moves bs) :
    bs.length = as.length := by
  obtain ⟨parts, -, rfl, h⟩ := runs_each.1 run
  simpa using h.length_eq.symm

/-- A list has a result for each part, in its place. -/
theorem exists_result_at {i : Nat} (run : Runs cloud (each f 0 as) moves bs) (ha : as[i]? = some a) :
    ∃ part b, bs[i]? = some b ∧ Runs cloud (f i a) part b := by
  obtain ⟨parts, -, rfl, h⟩ := runs_each.1 run
  obtain ⟨hi, rfl⟩ := List.getElem?_eq_some_iff.1 ha
  have hn : i < (as.zipIdx 0).length := by simpa using hi
  have hp : i < parts.length := h.length_eq ▸ hn
  have hget := (List.forall₂_iff_get.1 h).2 i hn hp
  refine ⟨parts[i].1, parts[i].2, ?_, by simpa using hget⟩
  rw [List.getElem?_map, List.getElem?_eq_getElem hp, Option.map_some]

/-- A list comes to what its parts come to. -/
theorem results_of_runs_each {g : Nat → α → β} (run : Runs cloud (each f start as) moves bs)
    (h : ∀ i a part b, Runs cloud (f i a) part b → b = g i a) :
    bs = (as.zipIdx start).map fun a => g a.2 a.1 := by
  induction as generalizing start moves bs with
  | nil => exact (runs_each_nil.1 run).2
  | cons a as ih =>
    obtain ⟨first, b, rest, bs', rfl, rfl, run, runs⟩ := runs_each_cons.1 run
    rw [h start a first b run, ih runs, List.zipIdx_cons, List.map_cons]

/-- A move of a list is a move of one of its parts. -/
theorem exists_part_of_mem {m : Move} (run : Runs cloud (each f 0 as) moves bs) (hm : m ∈ moves) :
    ∃ i a part b, as[i]? = some a ∧ Runs cloud (f i a) part b ∧ m ∈ part ∧ part ⊆ moves := by
  obtain ⟨parts, rfl, -, h⟩ := runs_each.1 run
  obtain ⟨part, hp, hm⟩ := List.mem_flatMap.1 hm
  obtain ⟨n, hn, rfl⟩ := List.getElem_of_mem hp
  have hi : n < (as.zipIdx 0).length := h.length_eq ▸ hn
  have hget := (List.forall₂_iff_get.1 h).2 n hi hn
  have ha : n < as.length := by simpa using hi
  exact ⟨n, as[n], parts[n].1, parts[n].2, List.getElem?_eq_getElem ha, by simpa using hget, hm,
    fun m hm => List.mem_flatMap.2 ⟨_, hp, hm⟩⟩

theorem forall_iff_of_forall₂ {γ : Type} {R : α → γ → Prop} {P : γ → Prop} {Q : α → Prop}
    {cs : List γ} (h : List.Forall₂ R as cs) (hR : ∀ a c, R a c → (P c ↔ Q a)) :
    (∀ c ∈ cs, P c) ↔ ∀ a ∈ as, Q a := by
  induction h with
  | nil => simp
  | cons hac _ ih => rw [List.forall_mem_cons, List.forall_mem_cons, hR _ _ hac, ih]

/-- What holds of all results of a list holds of all its places, if the two agree for each part. -/
theorem forall_results_iff {P : β → Prop} {Q : Nat → α → Prop}
    (run : Runs cloud (each f start as) moves bs)
    (h : ∀ i a part b, Runs cloud (f i a) part b → (P b ↔ Q i a)) :
    (∀ b ∈ bs, P b) ↔ ∀ a ∈ as.zipIdx start, Q a.2 a.1 := by
  obtain ⟨parts, -, rfl, hp⟩ := runs_each.1 run
  rw [List.forall_mem_map]
  exact forall_iff_of_forall₂ hp fun a part run => h a.2 a.1 part.1 part.2 run

/-- What holds of all moves of a list holds of all its places, if the two agree for each part. -/
theorem forall_moves_iff {P : Move → Prop} {Q : Nat → α → Prop}
    (run : Runs cloud (each f start as) moves bs)
    (h : ∀ i a part b, Runs cloud (f i a) part b → ((∀ m ∈ part, P m) ↔ Q i a)) :
    (∀ m ∈ moves, P m) ↔ ∀ a ∈ as.zipIdx start, Q a.2 a.1 := by
  obtain ⟨parts, rfl, -, hp⟩ := runs_each.1 run
  rw [List.forall_mem_flatMap]
  exact forall_iff_of_forall₂ hp fun a part run => h a.2 a.1 part.1 part.2 run

/-- What is seen of a list is what is seen of its parts, one after the other. -/
theorem filterMap_of_runs_each {γ : Type} {view : Move → Option γ} {g : Nat → α → List γ}
    (run : Runs cloud (each f start as) moves bs)
    (h : ∀ i a part b, Runs cloud (f i a) part b → part.filterMap view = g i a) :
    moves.filterMap view = (as.zipIdx start).flatMap fun a => g a.2 a.1 := by
  induction as generalizing start moves bs with
  | nil =>
    obtain ⟨rfl, rfl⟩ := runs_each_nil.1 run
    rfl
  | cons a as ih =>
    obtain ⟨first, b, rest, bs', rfl, rfl, run, runs⟩ := runs_each_cons.1 run
    rw [List.filterMap_append, h start a first b run, ih runs, List.zipIdx_cons, List.flatMap_cons]

/-- A list starts what its parts start. -/
theorem starts_of_runs_each {g : Nat → α → List Ticket}
    (run : Runs cloud (each f start as) moves bs)
    (h : ∀ i a part b, Runs cloud (f i a) part b → starts part = g i a) :
    starts moves = (as.zipIdx start).flatMap fun a => g a.2 a.1 :=
  filterMap_of_runs_each run h

/-- A list makes the calls of its parts. -/
theorem calls_of_runs_each {g : Nat → α → List (Site × Call)}
    (run : Runs cloud (each f start as) moves bs)
    (h : ∀ i a part b, Runs cloud (f i a) part b → calls part = g i a) :
    calls moves = (as.zipIdx start).flatMap fun a => g a.2 a.1 :=
  filterMap_of_runs_each run h

end Each

end CloudSweep.Program
