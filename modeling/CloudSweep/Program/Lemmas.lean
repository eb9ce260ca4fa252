/-
Laws of programs. Sequencing is associative and has `done` as its unit. The run of a sequence is the
run of its first part followed by the run of the rest, under every schedule, and the deletions of
`Program.run` follow a schedule when there is room for any.
-/
import CloudSweep.Program.Schedule

namespace CloudSweep

variable {α β γ : Type}

namespace Program

/-! ## Sequencing -/

@[simp] theorem pure_eq (a : α) : (pure a : Program α) = .done a := rfl

@[simp] theorem bind_eq (p : Program α) (f : α → Program β) : p >>= f = p.bind f := rfl

@[simp] theorem done_bind (a : α) (f : α → Program β) : (done a).bind f = f a := rfl

@[simp] theorem bind_done (p : Program α) : p.bind done = p := by
  induction p with
  | done _ => rfl
  | note _ _ ih => simp [bind, ih]
  | ask _ _ _ ih => simp [bind, ih]
  | dispatch _ _ _ ih => simp [bind, ih]

theorem bind_assoc (p : Program α) (f : α → Program β) (g : β → Program γ) :
    (p.bind f).bind g = p.bind fun a => (f a).bind g := by
  induction p with
  | done _ => rfl
  | note _ _ ih => simp [bind, ih]
  | ask _ _ _ ih => simp [bind, ih]
  | dispatch _ _ _ ih => simp [bind, ih]

/-! ## The run of a sequence -/

@[simp] theorem run_done (cloud : Cloud) (a : α) : (done a).run cloud = (a, []) := rfl

theorem run_bind (cloud : Cloud) (p : Program α) (f : α → Program β) :
    (p.bind f).run cloud =
      ((f (p.result cloud)).result cloud, p.moves cloud ++ (f (p.result cloud)).moves cloud) := by
  induction p with
  | done _ => rfl
  | note _ _ ih => simp [bind, run, result, moves, ih]
  | ask _ _ _ ih => simp [bind, run, result, moves, ih]
  | dispatch _ _ _ ih => simp [bind, run, result, moves, ih]

theorem result_bind (cloud : Cloud) (p : Program α) (f : α → Program β) :
    (p.bind f).result cloud = (f (p.result cloud)).result cloud := by
  rw [result, run_bind]

theorem moves_bind (cloud : Cloud) (p : Program α) (f : α → Program β) :
    (p.bind f).moves cloud = p.moves cloud ++ (f (p.result cloud)).moves cloud := by
  rw [moves, run_bind]

/-- A sequence runs as its first part and then the rest. -/
theorem runs_bind {cloud : Cloud} {p : Program α} {f : α → Program β} {moves : List Move} {b : β} :
    Runs cloud (p.bind f) moves b ↔
      ∃ first a rest, moves = first ++ rest ∧ Runs cloud p first a ∧ Runs cloud (f a) rest b := by
  induction p generalizing moves with
  | done a =>
    constructor
    · intro run
      exact ⟨[], a, moves, rfl, .done, run⟩
    · rintro ⟨first, a', rest, rfl, ⟨⟩, run⟩
      exact run
  | note event p ih =>
    constructor
    · rintro (_ | ⟨run⟩)
      obtain ⟨first, a, rest, rfl, h1, h2⟩ := ih.1 run
      exact ⟨_, a, rest, rfl, .note h1, h2⟩
    · rintro ⟨first, a, rest, rfl, _ | ⟨run⟩, h2⟩
      exact .note (ih.2 ⟨_, a, rest, rfl, run, h2⟩)
  | ask site call next ih =>
    constructor
    · rintro (_ | _ | ⟨run⟩)
      obtain ⟨first, a, rest, rfl, h1, h2⟩ := (ih _).1 run
      exact ⟨_, a, rest, rfl, .ask h1, h2⟩
    · rintro ⟨first, a, rest, rfl, _ | _ | ⟨run⟩, h2⟩
      exact .ask ((ih _).2 ⟨_, a, rest, rfl, run, h2⟩)
  | dispatch width tickets next ih =>
    constructor
    · rintro (_ | _ | _ | ⟨pool, run⟩)
      obtain ⟨first, a, rest, rfl, h1, h2⟩ := (ih _).1 run
      exact ⟨_, a, rest, by rw [List.append_assoc], .dispatch pool h1, h2⟩
    · rintro ⟨first, a, rest, rfl, _ | _ | _ | ⟨pool, run⟩, h2⟩
      rw [List.append_assoc]
      exact .dispatch pool ((ih _).2 ⟨_, a, rest, rfl, run, h2⟩)

end Program

/-! ## The schedule of `run` -/

/-- The deletions that end during some moves. -/
def landings (moves : List Move) : List Landing := moves.filterMap Move.landing?

@[simp] theorem landings_nil : landings [] = [] := rfl

@[simp] theorem landings_started (ticket : Ticket) (moves : List Move) :
    landings (.started ticket :: moves) = landings moves := rfl

@[simp] theorem landings_landed (landing : Landing) (moves : List Move) :
    landings (.landed landing :: moves) = landing :: landings moves := rfl

/-- Deletions in flight may land in the order of their starts. -/
theorem steps_flying (cloud : Cloud) (width : Nat) (flying : List Ticket) (landed : List Landing) :
    Pool.Steps cloud width { waiting := [], flying, landed } (cloud.deletionMoves width flying [])
      (.ofLandings (landed ++ landings (cloud.deletionMoves width flying []))) := by
  induction flying generalizing landed with
  | nil => simpa [Cloud.deletionMoves, Pool.ofLandings] using Pool.Steps.refl
  | cons ticket rest ih =>
    refine .step (@Pool.Step.land cloud width ticket [] [] rest landed) ?_
    simpa [Cloud.deletionMoves] using ih (landed ++ [cloud.land ticket])

/-- The schedule that lets the deletion that started first land, when there is no room, is a
schedule. -/
theorem steps_deletionMoves (cloud : Cloud) {width : Nat} (room : 0 < width)
    (waiting flying : List Ticket) (landed : List Landing) (fits : flying.length ≤ width) :
    Pool.Steps cloud width { waiting, flying, landed } (cloud.deletionMoves width flying waiting)
      (.ofLandings (landed ++ landings (cloud.deletionMoves width flying waiting))) := by
  induction waiting generalizing flying landed with
  | nil => exact steps_flying cloud width flying landed
  | cons ticket waiting ih =>
    cases flying with
    | nil => exact .step (.start room) (ih [ticket] landed room)
    | cons first others =>
      rw [List.length_cons] at fits
      by_cases space : (first :: others).length < width
      · simp only [Cloud.deletionMoves, space, if_true]
        refine .step (.start space) (ih (first :: others ++ [ticket]) landed ?_)
        rw [List.length_append]
        exact space
      · simp only [Cloud.deletionMoves, space, if_false]
        refine .step (@Pool.Step.land cloud width first _ [] others landed) (.step (.start ?_) ?_)
        · rw [List.nil_append]
          omega
        · have rest := ih (others ++ [ticket]) (landed ++ [cloud.land first])
            (by rw [List.length_append]; exact fits)
          rwa [List.append_assoc] at rest

end CloudSweep
