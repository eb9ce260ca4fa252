/-
Pools of deletions, under every schedule. A pool starts its tickets in their order and loses none of
them: at any time they are the ones that landed, those in flight and those that wait, and the number
in flight never exceeds the width. A pool with room never gets stuck, each of its moves brings it
closer to its end, and at the end every ticket has landed once, with the cloud's answer to it.
-/
import CloudSweep.Proofs.Program.Traces

namespace CloudSweep

/-! ## What is in flight -/

/-- The deletions in flight are those that some moves started and did not end. -/
structure InBalance (moves : List Move) (flying : List Ticket) : Prop where
  accounted : ((landings moves).map (·.ticket) ++ flying).Perm (starts moves)
  counted : aloft moves = flying.length

theorem inBalance_nil : InBalance [] [] := ⟨.nil, rfl⟩

theorem InBalance.noted {moves : List Move} {flying : List Ticket} (h : InBalance moves flying)
    (event : Event) : InBalance (moves ++ [.noted event]) flying := by
  refine ⟨by simpa using h.accounted, ?_⟩
  rw [aloft_append]
  exact h.counted

theorem InBalance.asked {moves : List Move} {flying : List Ticket} (h : InBalance moves flying)
    (site : Site) (call : Call) (answer : call.Answer) :
    InBalance (moves ++ [.asked site call answer]) flying := by
  refine ⟨by simpa using h.accounted, ?_⟩
  rw [aloft_append]
  exact h.counted

namespace Pool

variable {cloud : Cloud} {width : Nat} {p q : Pool} {move : Move} {moves : List Move}

theorem Step.inBalance (step : Step cloud width p move q) (h : InBalance moves p.flying) :
    InBalance (moves ++ [move]) q.flying := by
  cases step with
  | @start ticket waiting flying landed room =>
    refine ⟨?_, ?_⟩
    · simp only [landings_append, landings_started, landings_nil, List.append_nil, starts_append,
        starts_started, starts_nil, ← List.append_assoc]
      exact h.accounted.append_right [ticket]
    · rw [aloft_append]
      simp [Move.inFlight, h.counted]
  | @land ticket waiting earlier later landed =>
    refine ⟨?_, ?_⟩
    · -- The ticket goes over from those in flight to those that landed.
      have moved : ((landings moves).map (·.ticket) ++ [ticket] ++ (earlier ++ later)).Perm
          ((landings moves).map (·.ticket) ++ (earlier ++ ticket :: later)) := by
        rw [List.append_assoc]
        exact (@List.perm_middle _ ticket earlier later).symm.append_left _
      simpa [Cloud.land] using moved.trans h.accounted
    · have counted := h.counted
      simp only [List.length_append, List.length_cons] at counted ⊢
      rw [aloft_append, counted]
      simp only [List.foldl_cons, List.foldl_nil, Move.inFlight]
      omega

/-! ## What a pool has done -/

/-- A pool of some tickets after some moves: the tickets that started and those that wait are all of
them, in order, and what landed has the cloud's answer. -/
structure Follows (cloud : Cloud) (width : Nat) (tickets : List Ticket) (moves : List Move)
    (p : Pool) : Prop where
  order : starts moves ++ p.waiting = tickets
  landed : landings moves = p.landed
  answered : ∀ l ∈ p.landed, l = cloud.land l.ticket
  balance : InBalance moves p.flying
  fits : p.flying.length ≤ width

theorem follows_ofTickets (cloud : Cloud) (width : Nat) (tickets : List Ticket) :
    Follows cloud width tickets [] (.ofTickets tickets) :=
  ⟨rfl, rfl, by simp [ofTickets], inBalance_nil, Nat.zero_le _⟩

theorem Step.follows {tickets : List Ticket} (step : Step cloud width p move q)
    (h : Follows cloud width tickets moves p) : Follows cloud width tickets (moves ++ [move]) q := by
  have balance := step.inBalance h.balance
  obtain ⟨order, landed, answered, -, fits⟩ := h
  cases step with
  | start room =>
    refine ⟨by simpa using order, by simpa using landed, answered, balance, ?_⟩
    rw [List.length_append]
    exact room
  | @land ticket waiting earlier later _ =>
    refine ⟨by simpa using order, by simpa using landed, fun l hl => ?_, balance, ?_⟩
    · rcases List.mem_append.1 hl with hl | hl
      · exact answered l hl
      · rw [List.mem_singleton.1 hl]
        rfl
    · simp only [List.length_append, List.length_cons] at fits ⊢
      omega

theorem Steps.follows {tickets : List Ticket} {before : List Move}
    (steps : Steps cloud width p moves q) (h : Follows cloud width tickets before p) :
    Follows cloud width tickets (before ++ moves) q := by
  induction steps generalizing before with
  | refl => simpa using h
  | step first _ ih => simpa using ih (first.follows h)

/-- A pool that is done has started its tickets in their order and landed each of them, with the
cloud's answer. -/
theorem Steps.finished {tickets : List Ticket} {landed : List Landing}
    (steps : Steps cloud width (.ofTickets tickets) moves (.ofLandings landed)) :
    starts moves = tickets ∧ landings moves = landed ∧ landed.Perm (tickets.map cloud.land) := by
  obtain ⟨order, hl, answered, balance, -⟩ := steps.follows (follows_ofTickets cloud width tickets)
  simp only [ofLandings, List.nil_append, List.append_nil] at order hl answered balance
  refine ⟨order, hl, ?_⟩
  -- With nothing in flight the balance says that the tickets have landed; each has one answer.
  have tickets_eq : (landed.map (·.ticket)).Perm tickets := by
    simpa [hl, order] using balance.accounted
  have landed_eq : (landed.map (·.ticket)).map cloud.land = landed := by
    rw [List.map_map]
    exact (List.map_congr_left fun l h => (answered l h).symm).trans (List.map_id landed)
  rw [← landed_eq]
  exact tickets_eq.map cloud.land

theorem Steps.started_or_landed (steps : Steps cloud width p moves q) :
    ∀ m ∈ moves, (∃ ticket, m = .started ticket) ∨ ∃ landing, m = .landed landing := by
  induction steps with
  | refl => simp
  | step first _ ih =>
    intro m hm
    rcases List.mem_cons.1 hm with rfl | hm
    · cases first with
      | start _ => exact .inl ⟨_, rfl⟩
      | land => exact .inr ⟨_, rfl⟩
    · exact ih m hm

/-- The moves of a pool that is done: its tickets start, and they land with the cloud's answers. -/
theorem Steps.mem_finished {tickets : List Ticket} {landed : List Landing} {m : Move}
    (steps : Steps cloud width (.ofTickets tickets) moves (.ofLandings landed)) (hm : m ∈ moves) :
    ∃ ticket ∈ tickets, m = .started ticket ∨ m = .landed (cloud.land ticket) := by
  obtain ⟨hs, hl, perm⟩ := steps.finished
  rcases steps.started_or_landed m hm with ⟨ticket, rfl⟩ | ⟨landing, rfl⟩
  · exact ⟨ticket, hs ▸ mem_starts.2 hm, .inl rfl⟩
  · obtain ⟨ticket, ht, rfl⟩ := List.mem_map.1 (perm.mem_iff.1 (hl ▸ mem_landings.2 hm))
    exact ⟨ticket, ht, .inr rfl⟩

/-- What holds of all starts holds of all moves of a pool that is done when it holds of what the
tickets came to. -/
theorem Steps.forall_iff {tickets : List Ticket} {landed : List Landing} {P : Move → Prop}
    (steps : Steps cloud width (.ofTickets tickets) moves (.ofLandings landed))
    (hP : ∀ ticket, P (.started ticket)) :
    (∀ m ∈ moves, P m) ↔ ∀ ticket ∈ tickets, P (.landed (cloud.land ticket)) := by
  constructor
  · intro h ticket ht
    obtain ⟨-, hl, perm⟩ := steps.finished
    have there : cloud.land ticket ∈ landed := perm.mem_iff.2 (List.mem_map_of_mem ht)
    exact h _ (mem_landings.1 (hl ▸ there))
  · intro h m hm
    obtain ⟨ticket, ht, rfl | rfl⟩ := steps.mem_finished hm
    · exact hP ticket
    · exact h ticket ht

/-! ## Progress -/

/-- How many moves a pool has before it. -/
def remaining (p : Pool) : Nat := 2 * p.waiting.length + p.flying.length

theorem eq_ofLandings {p : Pool} (h : p.remaining = 0) : p = .ofLandings p.landed := by
  obtain ⟨waiting, flying, landed⟩ := p
  simp only [remaining] at h
  have hw : waiting = [] := List.length_eq_zero_iff.1 (by omega)
  have hf : flying = [] := List.length_eq_zero_iff.1 (by omega)
  rw [hw, hf]
  rfl

/-- Every move brings a pool closer to its end. -/
theorem Step.remaining_lt (step : Step cloud width p move q) : q.remaining < p.remaining := by
  cases step <;> simp only [remaining, List.length_append, List.length_cons, List.length_nil] <;>
    omega

/-- A pool with room that is not done has a move to make. -/
theorem exists_step (cloud : Cloud) (room : 0 < width) (h : p.remaining ≠ 0) :
    ∃ move q, Step cloud width p move q := by
  obtain ⟨waiting, flying, landed⟩ := p
  cases flying with
  | cons first others => exact ⟨_, _, @Step.land cloud width first waiting [] others landed⟩
  | nil =>
    cases waiting with
    | nil => exact absurd rfl h
    | cons ticket waiting => exact ⟨_, _, .start room⟩

/-- However far it has come, a pool with room can be brought to its end. -/
theorem exists_finish (cloud : Cloud) (room : 0 < width) (p : Pool) :
    ∃ moves landed, Steps cloud width p moves (.ofLandings landed) := by
  induction hn : p.remaining using Nat.strongRecOn generalizing p with
  | ind n ih =>
    by_cases h : p.remaining = 0
    · exact ⟨[], p.landed, eq_ofLandings h ▸ .refl⟩
    · obtain ⟨move, q, step⟩ := exists_step cloud room h
      obtain ⟨moves, landed, rest⟩ := ih q.remaining (hn ▸ step.remaining_lt) q rfl
      exact ⟨move :: moves, landed, .step step rest⟩

end Pool

/-! ## Runs -/

namespace Program

variable {α : Type} {cloud : Cloud} {p : Program α} {moves : List Move} {a : α}

/-- What starts in a run lands once, in some order, with the cloud's answer. -/
theorem Runs.landings_perm (run : p.Runs cloud moves a) :
    (landings moves).Perm ((starts moves).map cloud.land) := by
  induction run with
  | done => exact .nil
  | note _ ih => exact ih
  | ask _ ih => exact ih
  | dispatch pool _ ih =>
    obtain ⟨hs, hl, perm⟩ := pool.finished
    rw [landings_append, starts_append, List.map_append, hs, hl]
    exact perm.append ih

/-- What is asked in a run gets the cloud's answer. -/
theorem Runs.answer_eq (run : p.Runs cloud moves a) {site : Site} {call : Call} {answer : call.Answer}
    (h : .asked site call answer ∈ moves) : cloud.answer site call = answer := by
  induction run with
  | done => cases h
  | note _ ih =>
    rcases List.mem_cons.1 h with h | h
    · cases h
    · exact ih h
  | ask _ ih =>
    rcases List.mem_cons.1 h with h | h
    · cases h
      rfl
    · exact ih h
  | dispatch pool _ ih =>
    rcases List.mem_append.1 h with h | h
    · obtain ⟨ticket, -, h | h⟩ := pool.mem_finished h
      · cases h
      · cases h
    · exact ih h

end Program
end CloudSweep
