/-
Interpretation. A program that is interpreted carries its deletions out in turn, each when the one
before it is over. That is one of the schedules, and what the program comes to against a cloud is what
`Program.run` computes, whatever the width of its pools.
-/
import CloudSweep.Proofs.Program.Footprint

namespace CloudSweep

variable {α : Type} {cloud : Cloud} {width : Nat} {asks : Site → Call → Prop}

/-! ## Deletions in turn -/

/-- The moves of deletions of which each starts when the one before it has landed. -/
def inTurn (landings : List Landing) : List Move :=
  landings.flatMap fun landing => [.started landing.ticket, .landed landing]

theorem inTurn_cons (landing : Landing) (landings : List Landing) :
    inTurn (landing :: landings) = inTurn [landing] ++ inTurn landings :=
  @List.flatMap_append _ _ [landing] landings _

/-- Any pool with room can carry its deletions out in turn. -/
theorem steps_inTurn (cloud : Cloud) (room : 0 < width) (tickets : List Ticket)
    (landed : List Landing) :
    Pool.Steps cloud width { waiting := tickets, flying := [], landed }
      (inTurn (tickets.map cloud.land)) (.ofLandings (landed ++ tickets.map cloud.land)) := by
  induction tickets generalizing landed with
  | nil =>
    rw [List.map_nil, List.append_nil]
    exact .refl
  | cons ticket rest ih =>
    refine .step (.start room) (.step (@Pool.Step.land cloud width ticket rest [] [] landed) ?_)
    have finish := ih (landed ++ [cloud.land ticket])
    rwa [List.append_assoc] at finish

/-- The deletions of `Program.run` land in the order in which they start. -/
theorem landings_deletionMoves (cloud : Cloud) (width : Nat) (flying waiting : List Ticket) :
    landings (cloud.deletionMoves width flying waiting) = (flying ++ waiting).map cloud.land := by
  induction waiting generalizing flying with
  | nil =>
    rw [List.append_nil]
    induction flying with
    | nil => rfl
    | cons ticket flying ih => exact congrArg (cloud.land ticket :: ·) ih
  | cons ticket waiting ih =>
    cases flying with
    | nil => exact ih [ticket]
    | cons first others =>
      by_cases space : (first :: others).length < width
      · rw [Cloud.deletionMoves, if_pos space, landings_started, ih, List.append_assoc]
        rfl
      · rw [Cloud.deletionMoves, if_neg space, landings_landed, landings_started, ih,
          List.append_assoc]
        rfl

namespace Program

/-! ## Against a cloud -/

section Interpret

variable {m : Type → Type} [Monad m] [LawfulMonad m] (report : Event → m Unit) (cloud : Cloud)

theorem carryOut_pure (ticket : Ticket) :
    carryOut report (fun site call => pure (cloud.answer site call)) ticket =
      (do
        ((inTurn [cloud.land ticket]).flatMap Move.events).forM report
        return cloud.land ticket) := by
  simp [carryOut, inTurn, Move.events, Cloud.land]

theorem mapM_carryOut_pure (tickets : List Ticket) :
    tickets.mapM (carryOut report fun site call => pure (cloud.answer site call)) =
      (do
        ((inTurn (tickets.map cloud.land)).flatMap Move.events).forM report
        return tickets.map cloud.land) := by
  induction tickets with
  | nil => simp [inTurn]
  | cons ticket tickets ih =>
    rw [List.mapM_cons, carryOut_pure, ih, List.map_cons,
      inTurn_cons (cloud.land ticket) (tickets.map cloud.land), List.flatMap_append]
    simp

/-- Interpreted in any monad, with answers from a cloud, a program comes to what `Program.run` comes
to, and reports the events of a run with deletions in turn. -/
theorem interpret_pure {p : Program α} (room : p.Within asks fun width _ => 0 < width) :
    ∃ moves, p.Runs cloud moves (p.result cloud) ∧
      p.interpret report (fun site call => pure (cloud.answer site call)) =
        (do
          (moves.flatMap Move.events).forM report
          return p.result cloud) := by
  induction p with
  | done value => exact ⟨[], .done, by simp [interpret, result, run]⟩
  | note event rest ih =>
    obtain ⟨moves, run, interpreted⟩ := ih room
    refine ⟨_, .note run, ?_⟩
    rw [interpret, interpreted]
    exact (LawfulMonad.bind_assoc ..).symm
  | ask site call next ih =>
    obtain ⟨moves, run, interpreted⟩ := ih (cloud.answer site call) (room.2 _)
    refine ⟨_, .ask run, ?_⟩
    rw [interpret, pure_bind, interpreted]
    rfl
  | dispatch width tickets next ih =>
    obtain ⟨moves, run, interpreted⟩ := ih (tickets.map cloud.land) (room.2 _)
    have landed : landings (cloud.deletionMoves width [] tickets) = tickets.map cloud.land :=
      landings_deletionMoves cloud width [] tickets
    have same : (dispatch width tickets next).result cloud =
        (next (tickets.map cloud.land)).result cloud := by
      rw [← landed]
      rfl
    rw [same]
    refine ⟨_, .dispatch (steps_inTurn cloud room.1 tickets []) run, ?_⟩
    rw [interpret, mapM_carryOut_pure, LawfulMonad.bind_assoc]
    simp only [pure_bind]
    rw [interpreted, List.flatMap_append]
    simp

end Interpret
end Program
end CloudSweep
