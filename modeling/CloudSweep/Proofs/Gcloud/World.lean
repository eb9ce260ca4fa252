/-
Runs of the tool in a world. Nothing is known of the world in which a program is carried out, except
that it takes events and runs the tool: what a run of the tool comes to may depend on all that happened
before. As a program makes each of its calls at a site of its own, there is a tool that comes to the
same things by site alone, and what the program does in the world is a run against this tool.
`World.shows_interpret` says so, and that the world has seen the log and the processes of that run.
-/
import CloudSweep.Gcloud.Log
import CloudSweep.Proofs.Gcloud.Environment
import CloudSweep.Proofs.Program.Interpret
import CloudSweep.Proofs.Program.Sites
import Mathlib.Logic.Function.Basic

namespace CloudSweep.Gcloud

/-- A run of the tool with what came of it. -/
structure Process where
  site : Site
  invocation : Invocation
  result : ToolResult

/-- The surroundings of a program. They take its events and run the tool for it, and what comes of a
run of the tool may depend on all that happened before. A state tells what was reported and which runs
of the tool there were. -/
structure World (σ : Type) where
  report : Event → σ → σ
  runTool : Site → Invocation → σ → ToolResult × σ
  /-- What was reported so far. -/
  said : σ → List Event
  /-- The runs of the tool so far. -/
  ran : σ → List Process
  said_report (event : Event) (s : σ) : said (report event s) = said s ++ [event]
  ran_report (event : Event) (s : σ) : ran (report event s) = ran s
  said_runTool (site : Site) (i : Invocation) (s : σ) : said (runTool site i s).2 = said s
  ran_runTool (site : Site) (i : Invocation) (s : σ) :
    ran (runTool site i s).2 = ran s ++ [⟨site, i, (runTool site i s).1⟩]

namespace World

variable {σ : Type}

/-- Any surroundings are a world if what is reported and what is run is written down. -/
def recording (report : Event → σ → σ) (runTool : Site → Invocation → σ → ToolResult × σ) :
    World (σ × List Event × List Process) where
  report := fun event (s, said, ran) => (report event s, said ++ [event], ran)
  runTool := fun site i (s, said, ran) =>
    let (result, t) := runTool site i s
    (result, t, said, ran ++ [⟨site, i, result⟩])
  said s := s.2.1
  ran s := s.2.2
  said_report _ _ := rfl
  ran_report _ _ := rfl
  said_runTool _ _ _ := rfl
  ran_runTool _ _ _ := rfl

/-- Reports an event in the world. -/
def tell (w : World σ) (event : Event) : StateM σ Unit := modify (w.report event)

/-- Runs the tool in the world. -/
def launch (w : World σ) (site : Site) (i : Invocation) : StateM σ ToolResult :=
  modifyGet (w.runTool site i)

/-- From one state to another the world has seen what the moves say, and the tool has come to what
`tool` says. -/
structure Shows (w : World σ) (c : Config) (tool : Site → Invocation → ToolResult) (s : σ)
    (moves : List Move) (t : σ) : Prop where
  said : w.said t = w.said s ++ c.log tool moves
  ran : w.ran t = w.ran s ++ (c.processes moves).map fun p => ⟨p.1, p.2, tool p.1 p.2⟩

variable {w : World σ} {c : Config} {tool : Site → Invocation → ToolResult} {s t u : σ}
  {a b : List Move}

theorem Shows.refl : w.Shows c tool s [] s :=
  ⟨(List.append_nil _).symm, (List.append_nil _).symm⟩

theorem Shows.trans (first : w.Shows c tool s a t) (rest : w.Shows c tool t b u) :
    w.Shows c tool s (a ++ b) u := by
  constructor
  · rw [rest.said, first.said, List.append_assoc, c.log_append]
  · rw [rest.ran, first.ran, List.append_assoc, c.processes_append, List.map_append]

/-! ## Steps -/

theorem run_bind_of_run {α β : Type} {x : StateM σ α} {f : α → StateM σ β} {a : α}
    (h : x.run s = (a, t)) : (x >>= f).run s = (f a).run t := by
  rw [StateT.run_bind, h]
  rfl

theorem run_tellAll (w : World σ) (events : List Event) (s : σ) :
    ∃ t, (events.forM w.tell).run s = ((), t) ∧ w.said t = w.said s ++ events ∧ w.ran t = w.ran s := by
  induction events generalizing s with
  | nil => exact ⟨s, rfl, (List.append_nil _).symm, rfl⟩
  | cons event events ih =>
    obtain ⟨t, run, said, ran⟩ := ih (w.report event s)
    refine ⟨t, run, ?_, ran.trans (w.ran_report event s)⟩
    rw [said, w.said_report, List.append_assoc]
    rfl

theorem run_perform (w : World σ) (c : Config) (site : Site) (call : Call) (s : σ) :
    ∃ result t, (c.perform w.tell w.launch site call).run s = (c.answer call result, t) ∧
      w.said t = w.said s ++ (c.callEvents call ++ c.resultEvents call result) ∧
      w.ran t = w.ran s ++ [⟨site, c.invocation call, result⟩] := by
  obtain ⟨before, run, said, ran⟩ := w.run_tellAll (c.callEvents call) s
  obtain ⟨t, run', said', ran'⟩ := w.run_tellAll
    (c.resultEvents call (w.runTool site (c.invocation call) before).1)
    (w.runTool site (c.invocation call) before).2
  refine ⟨(w.runTool site (c.invocation call) before).1, t, ?_, ?_, ?_⟩
  · have launched : (w.launch site (c.invocation call)).run before =
        w.runTool site (c.invocation call) before := rfl
    rw [Config.perform, run_bind_of_run run, run_bind_of_run launched, run_bind_of_run run']
    rfl
  · rw [said', w.said_runTool, said, List.append_assoc]
  · rw [ran', w.ran_runTool, ran]

/-- A call shows as the move that asks it. -/
theorem shows_asked (w : World σ) (c : Config) (site : Site) (call : Call) (s : σ) :
    ∃ result answer t, (c.perform w.tell w.launch site call).run s = (answer, t) ∧
      ∀ tool, tool site (c.invocation call) = result →
        answer = (c.cloud tool).answer site call ∧
          w.Shows c tool s [.asked site call answer] t := by
  obtain ⟨result, t, run, said, ran⟩ := w.run_perform c site call s
  refine ⟨result, _, t, run, ?_⟩
  rintro tool rfl
  refine ⟨rfl, ?_, ran⟩
  rw [said]
  simp [Config.log, Config.moveLog]

/-- A deletion that is carried out shows as its start and its end. -/
theorem shows_carryOut (w : World σ) (c : Config) (ticket : Ticket) (s : σ) :
    ∃ result landing t,
      (Program.carryOut w.tell (c.perform w.tell w.launch) ticket).run s = (landing, t) ∧
      ∀ tool, tool ticket.site (c.invocation ticket.call) = result →
        landing = (c.cloud tool).land ticket ∧ w.Shows c tool s (inTurn [landing]) t := by
  obtain ⟨begun, run, said, ran⟩ := w.run_tellAll ticket.deletion.startEvents s
  obtain ⟨result, ended, run', said', ran'⟩ := w.run_perform c ticket.site ticket.call begun
  obtain ⟨t, run'', said'', ran''⟩ := w.run_tellAll
    (ticket.deletion.landingEvents (c.answer ticket.call result)) ended
  refine ⟨result, { ticket, result := c.answer ticket.call result }, t, ?_, ?_⟩
  · rw [Program.carryOut, run_bind_of_run run, run_bind_of_run run', run_bind_of_run run'']
    rfl
  · rintro tool rfl
    refine ⟨rfl, ?_, ?_⟩
    · rw [said'', said', said]
      simp [Config.log, Config.moveLog, inTurn]
    · rw [ran'', ran', ran]
      rfl

/-! ## Runs -/

/-- At some sites the tool comes to what the table says. -/
def Agrees (tool : Site → Invocation → ToolResult) (table : Site → ToolResult)
    (sites : Site → Prop) : Prop :=
  ∀ site, sites site → ∀ i, tool site i = table site

section Agrees

variable {table : Site → ToolResult} {site : Site} {result : ToolResult} {sites : Site → Prop}

theorem Agrees.at_update (h : Agrees tool (Function.update table site result) sites)
    (inside : sites site) (i : Invocation) : tool site i = result := by
  rw [h site inside, Function.update_self]

theorem Agrees.off_update (h : Agrees tool (Function.update table site result) sites)
    {others : Site → Prop} (off : ∀ other, others other → sites other ∧ other ≠ site) :
    Agrees tool table others := fun other ho i => by
  obtain ⟨inside, apart⟩ := off other ho
  rw [h other inside, Function.update_of_ne apart]

end Agrees

/-- Deletions that are carried out one after the other show as moves in turn. -/
theorem shows_mapM_carryOut (w : World σ) (c : Config) {tickets : List Ticket}
    (nodup : (tickets.map (·.site)).Nodup) (s : σ) :
    ∃ table landings t,
      (tickets.mapM (Program.carryOut w.tell (c.perform w.tell w.launch))).run s = (landings, t) ∧
      ∀ tool, Agrees tool table (· ∈ tickets.map (·.site)) →
        landings = tickets.map (c.cloud tool).land ∧ w.Shows c tool s (inTurn landings) t := by
  induction tickets generalizing s with
  | nil => exact ⟨fun _ => .timedOut, [], s, rfl, fun tool _ => ⟨rfl, .refl⟩⟩
  | cons ticket tickets ih =>
    obtain ⟨fresh, nodup⟩ := List.nodup_cons.1 nodup
    obtain ⟨result, landing, ended, run, shown⟩ := w.shows_carryOut c ticket s
    obtain ⟨table, landings, t, run', shown'⟩ := ih nodup ended
    refine ⟨Function.update table ticket.site result, landing :: landings, t, ?_,
      fun tool agrees => ?_⟩
    · rw [List.mapM_cons, run_bind_of_run run, run_bind_of_run run']
      rfl
    have later : Agrees tool table (· ∈ tickets.map (·.site)) := agrees.off_update fun site hs =>
      ⟨List.mem_cons_of_mem _ hs, ne_of_mem_of_not_mem hs fresh⟩
    obtain ⟨rfl, shown⟩ := shown tool (agrees.at_update List.mem_cons_self _)
    obtain ⟨rfl, shown'⟩ := shown' tool later
    rw [inTurn_cons]
    exact ⟨rfl, shown.trans shown'⟩

/-- A program whose calls are carried out by runs of the tool in a world comes to what it comes to in
a run against some tool. -/
theorem shows_interpret (w : World σ) (c : Config) {α : Type} {p : Program α} {free : Site → Prop}
    (once : p.Once free) {asks : Site → Call → Prop}
    (room : p.Within asks fun width _ => 0 < width) (s : σ) :
    ∃ table value moves t,
      (p.interpret w.tell (c.perform w.tell w.launch)).run s = (value, t) ∧
      ∀ tool, Agrees tool table free →
        p.Runs (c.cloud tool) moves value ∧ w.Shows c tool s moves t := by
  induction p generalizing free s with
  | done value => exact ⟨fun _ => .timedOut, value, [], s, rfl, fun tool _ => ⟨.done, .refl⟩⟩
  | note event rest ih =>
    obtain ⟨table, value, moves, t, run, shown⟩ := ih once room (w.report event s)
    refine ⟨table, value, .noted event :: moves, t, run, fun tool agrees => ?_⟩
    obtain ⟨runs, shown⟩ := shown tool agrees
    have first : w.Shows c tool s [.noted event] (w.report event s) :=
      ⟨w.said_report event s, by rw [w.ran_report]; exact (List.append_nil _).symm⟩
    exact ⟨.note runs, first.trans shown⟩
  | ask site call next ih =>
    obtain ⟨result, answer, asked, run, shown⟩ := w.shows_asked c site call s
    obtain ⟨table, value, moves, t, run', shown'⟩ := ih answer (once.2 _) (room.2 _) asked
    refine ⟨Function.update table site result, value, .asked site call answer :: moves, t, ?_,
      fun tool agrees => ?_⟩
    · rw [Program.interpret, run_bind_of_run run, run']
    obtain ⟨rfl, shown⟩ := shown tool (agrees.at_update once.1 _)
    obtain ⟨runs, shown'⟩ := shown' tool (agrees.off_update fun _ => id)
    exact ⟨.ask runs, shown.trans shown'⟩
  | dispatch width tickets next ih =>
    obtain ⟨nodup, inside, once⟩ := once
    obtain ⟨first, landings, ended, run, shown⟩ := w.shows_mapM_carryOut c nodup s
    obtain ⟨table, value, moves, t, run', shown'⟩ := ih landings (once _) (room.2 _) ended
    -- The table of the pool counts at the sites of the pool, that of the rest everywhere else.
    refine ⟨fun site => if site ∈ tickets.map (·.site) then first site else table site, value,
      inTurn landings ++ moves, t, ?_, fun tool agrees => ?_⟩
    · rw [Program.interpret, run_bind_of_run run, run']
    have inPool : Agrees tool first (· ∈ tickets.map (·.site)) := fun site hs i =>
      (agrees site (inside site hs) i).trans (if_pos hs)
    have later : Agrees tool table fun other => free other ∧ other ∉ tickets.map (·.site) :=
      fun other h i => (agrees other h.1 i).trans (if_neg h.2)
    obtain ⟨rfl, shown⟩ := shown tool inPool
    obtain ⟨runs, shown'⟩ := shown' tool later
    exact ⟨.dispatch (steps_inTurn _ room.1 tickets []) runs, shown.trans shown'⟩

end World
end CloudSweep.Gcloud
