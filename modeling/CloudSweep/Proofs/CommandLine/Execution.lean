/-
Starts that are carried out. Whatever world a start is carried out in, there is a tool with which
`Executes` has the same processes and the same status, so that what holds of all starts holds of it. The
log of a start that gets as far as a sweep begins with the activation and what is opened, goes on with
the log of the sweep, and ends with the status.
-/
import CloudSweep.Proofs.CommandLine.Start
import CloudSweep.Proofs.Gcloud.World
import CloudSweep.Proofs.Sweep.Sites

namespace CloudSweep

/-- What is only reported is the log of itself. -/
@[simp] theorem Gcloud.Config.log_notes (c : Config) (tool : Site → Invocation → ToolResult)
    (events : List Event) : c.log tool (notes events) = events := by
  induction events with
  | nil => rfl
  | cons event events ih => exact congrArg (event :: ·) ih

namespace CommandLine

open Gcloud (Invocation ToolResult World)
open Program (once_bind once_sayAll_bind within_bind within_sayAll)

namespace Options

variable {o : Options} {now : Instant}

/-! ## Sites and pools of a start -/

theorem once_activate (keyFile : Option String) : (activate keyFile).Once (· = .activation) := by
  cases keyFile with
  | none => trivial
  | some path =>
    refine Program.once_request_bind.2 ⟨rfl, fun answer => ?_⟩
    split <;> trivial

theorem once_sweep (o : Options) (s : Settings) : (o.sweep s).Once (· ≠ .activation) :=
  once_sayAll_bind.2 (Program.once_bind_quiet (Sweep.once_project _ _) fun _ =>
    once_sayAll_bind.2 trivial)

/-- A start makes each of its calls at a site of its own. -/
theorem once_run (o : Options) (now : Instant) : (o.run now).Once fun _ => True := by
  unfold run
  split
  · trivial
  split
  · trivial
  refine (once_bind (once_activate _) (B := (· ≠ .activation)) (fun result => ?_)
    fun site first later => later first).mono fun _ _ => trivial
  split
  · trivial
  · exact once_sweep o _

theorem within_activate (keyFile : Option String) :
    (activate keyFile).Within (fun _ _ => True) fun width _ => 0 < width := by
  cases keyFile with
  | none => trivial
  | some path =>
    refine within_bind (Program.within_request.2 trivial) fun answer => ?_
    split <;> trivial

theorem within_sweep (o : Options) (s : Settings) :
    (o.sweep s).Within (fun _ _ => True) fun width _ => 0 < width := by
  refine within_bind (within_sayAll _) fun _ => within_bind ?_ fun _ =>
    within_bind (within_sayAll _) fun _ => trivial
  exact (Sweep.within_project _ _).mono (fun _ _ _ => trivial) fun _ _ opened => opened.room

/-- A start has room in all its pools. -/
theorem within_run (o : Options) (now : Instant) :
    (o.run now).Within (fun _ _ => True) fun width _ => 0 < width := by
  unfold run
  split
  · trivial
  split
  · trivial
  refine within_bind (within_activate _) fun result => ?_
  split
  · trivial
  · exact within_sweep o _

end Options

/-! ## Starts in a world -/

/-- A start that is carried out in a world comes to an end. There is a tool for which this is one of
the ways to execute the start, with the processes and the log that the world has seen. -/
theorem executes_execute {σ : Type} (w : World σ) (s : σ) {arguments : List String}
    {keyFile : Option String} {o : Options} (understood : read arguments keyFile = .ok o)
    (now : Instant) :
    ∃ tool ending moves t, (o.execute now w.tell w.launch).run s = (ending, t) ∧
      Executes tool now arguments keyFile (o.toolConfig.processes moves) (Ending.exitCode ending) ∧
      (o.run now).Runs (o.toolConfig.cloud tool) moves ending ∧
      w.Shows o.toolConfig tool s moves t := by
  obtain ⟨table, ending, moves, t, run, shown⟩ :=
    w.shows_interpret o.toolConfig (o.once_run now) (o.within_run now) s
  obtain ⟨runs, shown⟩ := shown (fun site _ => table site) fun _ _ _ => rfl
  exact ⟨_, ending, moves, t, run, .ran understood runs, runs, shown⟩

/-! ## Logs of starts -/

/-- The log of a start that sweeps: the activation, if there is one; the quota project, if one is set,
and the start; the log of the sweep and what is said of its report; and the status. -/
theorem log_of_runs {o : Options} {now : Instant} {tool : Site → Invocation → ToolResult}
    {moves : List Move} {report : Report}
    (run : (o.run now).Runs (o.toolConfig.cloud tool) moves (.ok report)) :
    ∃ s swept, o.settings now = .ok s ∧
      (Sweep.project s ClusterEndpoint.builtIn Catalog.googleCloud).Runs (o.toolConfig.cloud tool)
        swept report ∧
      o.toolConfig.log tool moves =
        o.toolConfig.log tool (activationMoves (o.toolConfig.cloud tool) o.serviceAccount) ++
          (o.opening s ++ (o.toolConfig.log tool swept ++ Options.closing s report)) := by
  rcases settled : o.settings now with error | s
  · cases ((Options.runs_run_of_settings_error settled).1 run).2
  rcases (Options.runs_run_of_settings settled).1 run with
    ⟨_, -, -, ⟨⟩⟩ | ⟨-, swept, _, sweep, rfl, ⟨⟩⟩
  exact ⟨s, swept, rfl, sweep, by simp only [Gcloud.Config.log_append, Gcloud.Config.log_notes]⟩

end CommandLine
end CloudSweep
