/-
Programs step by step. A program under way is either between two of its own steps, with nothing in
flight, or in an open pool, whose deletions may start and land in any order that the width allows;
only a pool that is done hands over to what follows it. `Reaches` is any number of these steps, so
that its states are all states that a run may pass through, and the runs of `Program.Runs` are the
step sequences that lead to an end.

If every pool that a program may open has room, no state that it reaches is stuck, however the
deletions land, and every sequence of steps is finite.
-/
import CloudSweep.Proofs.Program.Footprint

namespace CloudSweep.Program

variable {α : Type} {cloud : Cloud} {asks : Site → Call → Prop} {pools : Nat → List Ticket → Prop}

/-- A program under way. -/
inductive State (α : Type) : Type
  /-- Nothing is in flight, and this program is left to run. -/
  | idle (rest : Program α)
  /-- A pool of this width is open. -/
  | busy (width : Nat) (pool : Pool) (next : List Landing → Program α)

namespace State

/-- The deletions in flight. -/
def flying : State α → List Ticket
  | .idle _ => []
  | .busy _ pool _ => pool.flying

/-- Whether the program has come to its end. -/
def IsDone (s : State α) : Prop := ∃ value, s = .idle (.done value)

end State

/-- A step of a program under way, with the moves that can be seen of it. -/
inductive Step (cloud : Cloud) : State α → List Move → State α → Prop
  | note {event : Event} {rest : Program α} :
      Step cloud (.idle (.note event rest)) [.noted event] (.idle rest)
  | ask {site : Site} {call : Call} {next : call.Answer → Program α} :
      Step cloud (.idle (.ask site call next)) [.asked site call (cloud.answer site call)]
        (.idle (next (cloud.answer site call)))
  | «open» {width : Nat} {tickets : List Ticket} {next : List Landing → Program α} :
      Step cloud (.idle (.dispatch width tickets next)) [] (.busy width (.ofTickets tickets) next)
  | pool {width : Nat} {p q : Pool} {move : Move} {next : List Landing → Program α}
      (step : Pool.Step cloud width p move q) :
      Step cloud (.busy width p next) [move] (.busy width q next)
  | close {width : Nat} {landed : List Landing} {next : List Landing → Program α} :
      Step cloud (.busy width (.ofLandings landed) next) [] (.idle (next landed))

/-- Any number of steps, with the moves that can be seen of them. -/
inductive Reaches (cloud : Cloud) : State α → List Move → State α → Prop
  | refl {s : State α} : Reaches cloud s [] s
  | step {s t u : State α} {first rest : List Move} (head : Step cloud s first t)
      (tail : Reaches cloud t rest u) : Reaches cloud s (first ++ rest) u

theorem Reaches.trans {s t u : State α} {a b : List Move} (h1 : Reaches cloud s a t)
    (h2 : Reaches cloud t b u) : Reaches cloud s (a ++ b) u := by
  induction h1 with
  | refl => exact h2
  | step head _ ih => rw [List.append_assoc]; exact .step head (ih h2)

/-! ## Runs are the step sequences that lead to an end -/

theorem reaches_pool {width : Nat} {p q : Pool} {moves : List Move} {next : List Landing → Program α}
    (h : Pool.Steps cloud width p moves q) :
    Reaches cloud (.busy width p next) moves (.busy width q next) := by
  induction h with
  | refl => exact .refl
  | step first _ ih => exact .step (.pool first) ih

theorem Runs.reaches {p : Program α} {moves : List Move} {value : α} (run : Runs cloud p moves value) :
    Reaches cloud (.idle p) moves (.idle (.done value)) := by
  induction run with
  | done => exact .refl
  | note _ ih => exact .step .note ih
  | ask _ ih => exact .step .ask ih
  | dispatch pool _ ih =>
    have closed := (reaches_pool pool).trans (Reaches.step .close ih)
    simpa using Reaches.step .open closed

/-- How a program under way may come to its end. -/
def State.Ends (cloud : Cloud) (moves : List Move) (value : α) : State α → Prop
  | .idle p => Runs cloud p moves value
  | .busy width pool next =>
    ∃ deletions landed rest, moves = deletions ++ rest ∧
      Pool.Steps cloud width pool deletions (.ofLandings landed) ∧ Runs cloud (next landed) rest value

theorem Step.ends {s t : State α} {first rest : List Move} {value : α} (h : Step cloud s first t)
    (ht : t.Ends cloud rest value) : s.Ends cloud (first ++ rest) value := by
  cases h with
  | note => exact .note ht
  | ask => exact .ask ht
  | «open» =>
    obtain ⟨deletions, landed, rest, rfl, pool, run⟩ := ht
    show Runs cloud _ (deletions ++ rest) value
    exact .dispatch pool run
  | pool step =>
    obtain ⟨deletions, landed, rest, rfl, pool, run⟩ := ht
    exact ⟨_, landed, rest, rfl, .step step pool, run⟩
  | close => exact ⟨[], _, _, rfl, .refl, ht⟩

theorem Reaches.ends {s t : State α} {moves rest : List Move} {value : α}
    (h : Reaches cloud s moves t) (ht : t.Ends cloud rest value) :
    s.Ends cloud (moves ++ rest) value := by
  induction h with
  | refl => exact ht
  | step head _ ih => rw [List.append_assoc]; exact head.ends (ih ht)

/-- The runs of a program are the step sequences from its start to an end. -/
theorem runs_iff_reaches {p : Program α} {moves : List Move} {value : α} :
    Runs cloud p moves value ↔ Reaches cloud (.idle p) moves (.idle (.done value)) := by
  refine ⟨Runs.reaches, fun h => ?_⟩
  have ends := h.ends (show State.Ends cloud [] value (.idle (.done value)) from .done)
  rwa [List.append_nil] at ends

/-! ## What holds of every state that is reached -/

theorem Step.inBalance {s t : State α} {moves before : List Move} (h : Step cloud s moves t)
    (balance : InBalance before s.flying) : InBalance (before ++ moves) t.flying := by
  cases h with
  | note => exact balance.noted _
  | ask => exact balance.asked ..
  | «open» => rwa [List.append_nil]
  | pool step => exact step.inBalance balance
  | close => rwa [List.append_nil]

theorem Reaches.inBalance {s t : State α} {moves before : List Move} (h : Reaches cloud s moves t)
    (balance : InBalance before s.flying) : InBalance (before ++ moves) t.flying := by
  induction h generalizing before with
  | refl => simpa using balance
  | step head _ ih => rw [← List.append_assoc]; exact ih (head.inBalance balance)

/-- A call is asked for only at a state with nothing in flight. -/
theorem Reaches.idle_of_asked {s t : State α} {before after : List Move} {site : Site} {call : Call}
    {answer : call.Answer} (h : Reaches cloud s (before ++ .asked site call answer :: after) t) :
    ∃ u, Reaches cloud s before u ∧ u.flying = [] := by
  generalize hm : before ++ .asked site call answer :: after = moves at h
  induction h generalizing before with
  | refl => simp at hm
  | @step s t u first rest head tail ih =>
    -- A step shows at most one move, so the call is either that move or one of the rest.
    have short : first = [] ∨ ∃ m, first = [m] := by
      cases head with
      | note => exact .inr ⟨_, rfl⟩
      | ask => exact .inr ⟨_, rfl⟩
      | «open» => exact .inl rfl
      | pool _ => exact .inr ⟨_, rfl⟩
      | close => exact .inl rfl
    rcases short with rfl | ⟨m, rfl⟩
    · obtain ⟨v, hv, idle⟩ := ih hm
      exact ⟨v, .step head hv, idle⟩
    cases before with
    | nil =>
      obtain ⟨rfl, rfl⟩ := List.cons.inj hm
      cases head with
      | ask => exact ⟨_, .refl, rfl⟩
      | pool step => cases step
    | cons m' before =>
      obtain ⟨rfl, tail_eq⟩ := List.cons.inj hm
      obtain ⟨v, hv, idle⟩ := ih tail_eq
      exact ⟨v, .step head hv, idle⟩

/-- The state keeps to the bounds of a program: an open pool holds tickets of a pool that the program
may open, no more of them in flight than its width. -/
def State.Within (asks : Site → Call → Prop) (pools : Nat → List Ticket → Prop) : State α → Prop
  | .idle p => p.Within asks pools
  | .busy width pool next =>
    (∃ tickets, pools width tickets ∧ (∀ t ∈ pool.waiting, t ∈ tickets) ∧
        (∀ t ∈ pool.flying, t ∈ tickets) ∧ pool.flying.length ≤ width) ∧
      ∀ landed, (next landed).Within asks pools

theorem Step.within {s t : State α} {moves : List Move} (h : Step cloud s moves t)
    (hs : s.Within asks pools) : t.Within asks pools := by
  cases h with
  | note => exact hs
  | ask => exact hs.2 _
  | @«open» width tickets next =>
    exact ⟨⟨tickets, hs.1, fun _ h => h, by simp [Pool.ofTickets], Nat.zero_le _⟩, hs.2⟩
  | close => exact hs.2 _
  | pool step =>
    obtain ⟨⟨tickets, hp, hw, hf, fits⟩, hn⟩ := hs
    refine ⟨⟨tickets, hp, ?_⟩, hn⟩
    cases step with
    | @start ticket waiting flying landed room =>
      refine ⟨fun t ht => hw t (List.mem_cons_of_mem _ ht), fun t ht => ?_, ?_⟩
      · rcases List.mem_append.1 ht with ht | ht
        · exact hf t ht
        · exact List.mem_singleton.1 ht ▸ hw ticket List.mem_cons_self
      · rw [List.length_append]
        exact room
    | @land ticket waiting earlier later landed =>
      refine ⟨hw, fun t ht => hf t ?_, ?_⟩
      · rcases List.mem_append.1 ht with ht | ht
        · exact List.mem_append_left _ ht
        · exact List.mem_append_right _ (List.mem_cons_of_mem _ ht)
      · simp only [List.length_append, List.length_cons] at fits ⊢
        omega

theorem Reaches.within {s t : State α} {moves : List Move} (h : Reaches cloud s moves t)
    (hs : s.Within asks pools) : t.Within asks pools := by
  induction h with
  | refl => exact hs
  | step head _ ih => exact ih (head.within hs)

/-! ## Progress -/

section Progress

variable (room : ∀ width tickets, pools width tickets → 0 < width)
include room

/-- A state that keeps to bounds under which every pool has room is not stuck. -/
theorem State.Within.exists_step {s : State α} (hs : s.Within asks pools) (hd : ¬ s.IsDone)
    (cloud : Cloud) : ∃ moves t, Step cloud s moves t := by
  cases s with
  | idle p =>
    cases p with
    | done value => exact absurd ⟨value, rfl⟩ hd
    | note event rest => exact ⟨_, _, .note⟩
    | ask site call next => exact ⟨_, _, .ask⟩
    | dispatch width tickets next => exact ⟨_, _, .open⟩
  | busy width pool next =>
    obtain ⟨⟨tickets, hp, -⟩, -⟩ := hs
    by_cases h : pool.remaining = 0
    · rw [Pool.eq_ofLandings h]
      exact ⟨_, _, .close⟩
    · obtain ⟨move, q, step⟩ := Pool.exists_step cloud (room width tickets hp) h
      exact ⟨_, _, .pool step⟩

/-- From such a state the program can come to its end. -/
theorem State.Within.exists_end {s : State α} (hs : s.Within asks pools) (cloud : Cloud) :
    ∃ moves value, Reaches cloud s moves (.idle (.done value)) := by
  -- Between pools, the schedule of `Program.run` leads to the end.
  have idle (p : Program α) (hp : p.Within asks pools) :
      ∃ moves value, Reaches cloud (.idle p) moves (.idle (.done value)) :=
    ⟨_, _, (runs_run cloud (hp.mono (fun _ _ h => h) room)).reaches⟩
  cases s with
  | idle p => exact idle p hs
  | busy width pool next =>
    obtain ⟨⟨tickets, hp, -⟩, hn⟩ := hs
    obtain ⟨deletions, landed, steps⟩ := Pool.exists_finish cloud (room width tickets hp) pool
    obtain ⟨moves, value, rest⟩ := idle (next landed) (hn landed)
    exact ⟨_, value, (reaches_pool steps).trans (.step .close rest)⟩

end Progress

/-- What a state may become by one step. -/
def Becomes (cloud : Cloud) (t s : State α) : Prop := ∃ moves, Step cloud s moves t

/-- An open pool comes to its end, if what follows any of its landings does. -/
theorem acc_busy {width : Nat} {next : List Landing → Program α}
    (hn : ∀ landed, Acc (Becomes cloud) (.idle (next landed))) (pool : Pool) :
    Acc (Becomes cloud) (.busy width pool next) := by
  -- A step of the pool leaves less of it, and one that closes it leaves what follows.
  induction hr : pool.remaining using Nat.strongRecOn generalizing pool with
  | ind n ih =>
    refine ⟨_, ?_⟩
    rintro t ⟨moves, step⟩
    cases step with
    | pool step => exact ih _ (hr ▸ step.remaining_lt) _ rfl
    | close => exact hn _

/-- A program makes finitely many steps, whatever the order in which its deletions land. -/
theorem acc_idle (cloud : Cloud) (p : Program α) : Acc (Becomes cloud) (.idle p) := by
  induction p with
  | done value => exact ⟨_, fun t ⟨_, step⟩ => nomatch step⟩
  | note event rest ih =>
    refine ⟨_, ?_⟩
    rintro t ⟨_, ⟨⟩⟩
    exact ih
  | ask site call next ih =>
    refine ⟨_, ?_⟩
    rintro t ⟨_, ⟨⟩⟩
    exact ih _
  | dispatch width tickets next ih =>
    refine ⟨_, ?_⟩
    rintro t ⟨_, ⟨⟩⟩
    exact acc_busy ih _

theorem acc_becomes (cloud : Cloud) (s : State α) : Acc (Becomes cloud) s := by
  cases s with
  | idle p => exact acc_idle cloud p
  | busy width pool next => exact acc_busy (fun landed => acc_idle cloud (next landed)) pool

end CloudSweep.Program
