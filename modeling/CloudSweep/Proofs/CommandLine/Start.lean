/-
What a start comes to. Options that are not fit for a run end it with status 1 before the tool is run
at all. Then the account is activated, if there is a key file, and a start that fails there ends with
status 1 and runs nothing else. In all other cases what follows is what a sweep of the project runs,
with settings that are those of the options and are in order, and the status is that of its report.
-/
import CloudSweep.CommandLine.Arguments
import CloudSweep.CommandLine.Start
import CloudSweep.Proofs.Gcloud.Environment
import CloudSweep.Proofs.Settings

namespace CloudSweep.CommandLine

open Gcloud (Invocation ToolResult)

namespace Options

variable {o : Options} {now : Instant} {s : Settings} {cloud : Cloud} {moves : List Move}
  {ending : Ending}

/-! ## Settings -/

/-- The cutoff that the options ask for; an age that is left out is zero. -/
def cutoff (o : Options) (now : Instant) : Except SettingsError Cutoff :=
  Cutoff.ofMaxAge now (o.days.getD 0) (o.hours.getD (Binary64.ofNat 0))

/-- The settings that the options ask for, with a cutoff. -/
def settingsAt (o : Options) (cutoff : Cutoff) : Settings where
  project := o.project
  cutoff := cutoff
  filter := o.filter
  batchSize := o.ratelimit
  workers := o.workers
  zones := Zone.merge o.additionalZones
  dryRun := o.dryRun

/-- The options are not fit for a run. -/
inductive Unfit (o : Options) (now : Instant) : Prop
  | ageless (noDays : o.days = none) (noHours : o.hours = none)
  | illAged {error : SettingsError} (refused : o.cutoff now = .error error)
  | nameless (blank : Text.trim o.project = "")
  | batchless (zero : o.ratelimit = 0)
  | workerless (zero : o.workers = 0)

/-- The settings are those of the options, and in order. -/
structure Prepares (o : Options) (now : Instant) (s : Settings) : Prop where
  settings : ∃ cutoff, o.cutoff now = .ok cutoff ∧ s = o.settingsAt cutoff
  batches : 1 ≤ s.batchSize
  working : 1 ≤ s.workers
  zoned : Zone.builtIn <+: s.zones

theorem fit_settingsAt_iff {c : Cutoff} : (o.settingsAt c).Fit ↔
    Text.trim o.project ≠ "" ∧ o.ratelimit ≠ 0 ∧ o.workers ≠ 0 := by
  constructor
  · exact fun fit => ⟨fit.named, fit.batches, fit.working⟩
  · exact fun ⟨named, batches, working⟩ => ⟨named, batches, working, Zone.merge_ne_nil _⟩

theorem settings_eq_ok_iff : o.settings now = .ok s ↔
    ¬ (o.days = none ∧ o.hours = none) ∧
      ∃ c, o.cutoff now = .ok c ∧ (o.settingsAt c).Fit ∧ s = o.settingsAt c := by
  unfold settings
  by_cases ageless : o.days = none ∧ o.hours = none
  · simp [ageless]
  rw [if_neg (by simpa using ageless)]
  change ((o.cutoff now).bind fun c =>
    (o.settingsAt c).validate.bind fun _ => .ok (o.settingsAt c)) = .ok s ↔ _
  rcases o.cutoff now with error | c
  · simp [Except.bind]
  rw [Except.bind]
  by_cases fit : (o.settingsAt c).Fit
  · simp [Except.bind, Settings.validate_eq_ok_iff.2 fit, fit, ageless, eq_comm]
  · rcases checked : (o.settingsAt c).validate with error | ⟨⟩
    · simp [Except.bind, fit]
    · exact absurd (Settings.validate_eq_ok_iff.1 checked) fit

theorem not_unfit_iff : ¬ o.Unfit now ↔
    ¬ (o.days = none ∧ o.hours = none) ∧ ∃ c, o.cutoff now = .ok c ∧ (o.settingsAt c).Fit := by
  simp only [fit_settingsAt_iff]
  constructor
  · intro fit
    refine ⟨fun ⟨noDays, noHours⟩ => fit (.ageless noDays noHours), ?_⟩
    rcases aged : o.cutoff now with error | c
    · exact absurd (.illAged aged) fit
    · exact ⟨c, rfl, fun blank => fit (.nameless blank), fun zero => fit (.batchless zero),
        fun zero => fit (.workerless zero)⟩
  · rintro ⟨aged, c, cutoff, named, batches, working⟩ unfit
    cases unfit with
    | ageless noDays noHours => exact aged ⟨noDays, noHours⟩
    | illAged refused => cases cutoff.symm.trans refused
    | nameless blank => exact named blank
    | batchless zero => exact batches zero
    | workerless zero => exact working zero

theorem exists_settings_iff : (∃ s, o.settings now = .ok s) ↔ ¬ o.Unfit now := by
  simp only [settings_eq_ok_iff, not_unfit_iff]
  constructor
  · rintro ⟨_, aged, c, cutoff, fit, -⟩
    exact ⟨aged, c, cutoff, fit⟩
  · rintro ⟨aged, c, cutoff, fit⟩
    exact ⟨_, aged, c, cutoff, fit, rfl⟩

theorem exists_settings_error_iff : (∃ error, o.settings now = .error error) ↔ o.Unfit now := by
  rw [← not_iff_not, ← exists_settings_iff]
  rcases o.settings now with error | s
  · simp
  · simp

theorem prepares_of_settings (h : o.settings now = .ok s) : o.Prepares now s := by
  obtain ⟨-, c, cutoff, fit, rfl⟩ := settings_eq_ok_iff.1 h
  exact ⟨⟨c, cutoff, rfl⟩, Nat.pos_of_ne_zero fit.batches, Nat.pos_of_ne_zero fit.working,
    Zone.builtIn_prefix_merge _⟩

/-! ## Activation -/

/-- The run of the tool that activates the account, if there is a key file. -/
def activationProcesses (o : Options) : List (Site × Invocation) :=
  (o.serviceAccount.map fun path =>
    (Site.activation, o.toolConfig.invocation (.activateAccount path))).toList

/-- If there is a key file, the run of the tool that activates its account ends with status 0. -/
def Activates (o : Options) (tool : Site → Invocation → ToolResult) : Prop :=
  ∀ process ∈ o.activationProcesses, ∃ output complaint,
    tool process.1 process.2 = .exited (.code 0) output complaint

end Options

variable {cloud : Cloud} {keyFile : Option String} {moves : List Move} {now : Instant}
  {ending : Ending}

/-- The call that activates the account, with its answer, if there is a key file. -/
def activationMoves (cloud : Cloud) (keyFile : Option String) : List Move :=
  (keyFile.map fun path => Move.asked .activation (.activateAccount path)
    (cloud.answer .activation (.activateAccount path))).toList

/-- What comes of the activation; there is nothing to do without a key file. -/
def activationResult (cloud : Cloud) : Option String → Except StartError Unit
  | none => .ok ()
  | some path =>
    (cloud.answer .activation (.activateAccount path)).mapError (StartError.activation path)

theorem runs_activate {result : Except StartError Unit} :
    (activate keyFile).Runs cloud moves result ↔
      moves = activationMoves cloud keyFile ∧ result = activationResult cloud keyFile := by
  cases keyFile with
  | none => exact Program.runs_done
  | some path =>
    -- With the answer of the call the activation has come to its end.
    have ended (m : Move) (a : Except StartError Unit) :
        (∃ rest, moves = m :: rest ∧ (Program.done a).Runs cloud rest result) ↔
          moves = [m] ∧ result = a := by
      simp only [Program.runs_done]
      constructor
      · rintro ⟨_, rfl, rfl, rfl⟩
        exact ⟨rfl, rfl⟩
      · rintro ⟨rfl, rfl⟩
        exact ⟨[], rfl, rfl, rfl⟩
    refine Program.runs_request_bind.trans ?_
    change _ ↔ moves = [.asked .activation (.activateAccount path)
        (cloud.answer .activation (.activateAccount path))] ∧
      result = (cloud.answer .activation (.activateAccount path)).mapError
        (StartError.activation path)
    cases cloud.answer .activation (.activateAccount path) with
    | ok => exact ended _ _
    | error => exact ended _ _

/-! ## Runs -/

namespace Options

variable {o : Options} {s : Settings}

theorem runs_run_of_settings_error {error : SettingsError} (h : o.settings now = .error error) :
    (o.run now).Runs cloud moves ending ↔ moves = [] ∧ ending = .error (.settings error) := by
  unfold run
  rw [h]
  exact Program.runs_done

theorem validate_googleCloud : Catalog.googleCloud.validate = .ok () := by decide +kernel

/-- A sweep with what is reported around it. -/
theorem runs_sweep : (o.sweep s).Runs cloud moves ending ↔
    ∃ swept report,
      (Sweep.project s ClusterEndpoint.builtIn Catalog.googleCloud).Runs cloud swept report ∧
      moves = notes (o.opening s) ++ (swept ++ notes (closing s report)) ∧ ending = .ok report := by
  refine Program.runs_sayAll_bind.trans ⟨?_, ?_⟩
  · rintro ⟨_, rfl, run⟩
    obtain ⟨swept, report, _, rfl, sweep, said⟩ := Program.runs_bind.1 run
    obtain ⟨_, rfl, ended⟩ := Program.runs_sayAll_bind.1 said
    obtain ⟨rfl, rfl⟩ := Program.runs_done.1 ended
    exact ⟨swept, report, sweep, by rw [List.append_nil], rfl⟩
  · rintro ⟨swept, report, sweep, rfl, rfl⟩
    refine ⟨_, rfl, Program.runs_bind.2 ⟨swept, report, _, rfl, sweep, ?_⟩⟩
    exact Program.runs_sayAll_bind.2 ⟨[], (List.append_nil _).symm, .done⟩

/-- A run with settings is the activation, and after it, unless it fails, a sweep of the project. -/
theorem runs_run_of_settings (h : o.settings now = .ok s) :
    (o.run now).Runs cloud moves ending ↔
      (∃ error, activationResult cloud o.serviceAccount = .error error ∧
        moves = activationMoves cloud o.serviceAccount ∧ ending = .error error) ∨
      (activationResult cloud o.serviceAccount = .ok () ∧ ∃ swept report,
        (Sweep.project s ClusterEndpoint.builtIn Catalog.googleCloud).Runs cloud swept report ∧
        moves = activationMoves cloud o.serviceAccount ++
          (notes (o.opening s) ++ (swept ++ notes (closing s report))) ∧
        ending = .ok report) := by
  unfold run
  rw [h, validate_googleCloud]
  dsimp only
  rw [Program.bind_eq, Program.runs_bind]
  constructor
  · rintro ⟨first, result, rest, rfl, activation, run⟩
    obtain ⟨rfl, rfl⟩ := runs_activate.1 activation
    rcases activated : activationResult cloud o.serviceAccount with error | ⟨⟩
    · rw [activated] at run
      obtain ⟨rfl, rfl⟩ := Program.runs_done.1 run
      exact .inl ⟨error, rfl, List.append_nil _, rfl⟩
    · rw [activated] at run
      obtain ⟨swept, report, sweep, rfl, rfl⟩ := runs_sweep.1 run
      exact .inr ⟨rfl, swept, report, sweep, rfl, rfl⟩
  · rintro (⟨error, activated, rfl, rfl⟩ | ⟨activated, swept, report, sweep, rfl, rfl⟩)
    · refine ⟨_, _, [], (List.append_nil _).symm, runs_activate.2 ⟨rfl, rfl⟩, ?_⟩
      rw [activated]
      exact .done
    · refine ⟨_, _, _, rfl, runs_activate.2 ⟨rfl, rfl⟩, ?_⟩
      rw [activated]
      exact runs_sweep.2 ⟨swept, report, sweep, rfl, rfl⟩

end Options

/-! ## Starts -/

/-- What a start comes to: the runs of the tool that it starts, in order, and the status with which
the program ends. -/
inductive Executes (tool : Site → Invocation → ToolResult) (now : Instant) (arguments : List String)
    (keyFile : Option String) : List (Site × Invocation) → Nat → Prop
  | refused {error : ArgumentError} (unread : read arguments keyFile = .error error) :
      Executes tool now arguments keyFile [] error.exitCode
  | ran {o : Options} {moves : List Move} {ending : Ending}
      (understood : read arguments keyFile = .ok o)
      (run : (o.run now).Runs (o.toolConfig.cloud tool) moves ending) :
      Executes tool now arguments keyFile (o.toolConfig.processes moves) (Ending.exitCode ending)

section Starts

variable {tool : Site → Invocation → ToolResult} {arguments : List String} {o : Options}
  {processes : List (Site × Invocation)} {code : Nat}

theorem executes_of_refused {error : ArgumentError}
    (unread : read arguments keyFile = .error error) :
    Executes tool now arguments keyFile processes code ↔
      processes = [] ∧ code = error.exitCode := by
  constructor
  · rintro (unread' | ⟨understood, -⟩)
    · cases unread.symm.trans unread'
      exact ⟨rfl, rfl⟩
    · cases unread.symm.trans understood
  · rintro ⟨rfl, rfl⟩
    exact .refused unread

theorem executes_of_read (understood : read arguments keyFile = .ok o) :
    Executes tool now arguments keyFile processes code ↔
      ∃ moves ending, (o.run now).Runs (o.toolConfig.cloud tool) moves ending ∧
        processes = o.toolConfig.processes moves ∧ code = Ending.exitCode ending := by
  constructor
  · rintro (unread | ⟨understood', run⟩)
    · cases understood.symm.trans unread
    · cases understood.symm.trans understood'
      exact ⟨_, _, run, rfl, rfl⟩
  · rintro ⟨moves, ending, run, rfl, rfl⟩
    exact .ran understood run

/-- An account is activated exactly when the run of the tool for it ends with status 0. -/
theorem answer_activateAccount_eq_ok_iff {config : Gcloud.Config} {path : String}
    {result : ToolResult} :
    config.answer (.activateAccount path) result = .ok () ↔
      ∃ output complaint, result = .exited (.code 0) output complaint := by
  cases result with
  | notStarted reason => simp [Gcloud.Config.answer]
  | timedOut => simp [Gcloud.Config.answer]
  | exited status output complaint =>
    cases status with
    | code value =>
      by_cases zero : value = 0
      · simp [Gcloud.Config.answer, Gcloud.succeeded, Gcloud.Config.read, Except.mapError, zero]
      · simp [Gcloud.Config.answer, Gcloud.succeeded, zero]
    | signalled => simp [Gcloud.Config.answer, Gcloud.succeeded]

theorem activationResult_eq_ok_iff :
    activationResult (o.toolConfig.cloud tool) o.serviceAccount = .ok () ↔ o.Activates tool := by
  unfold Options.Activates Options.activationProcesses
  rcases o.serviceAccount with _ | path
  · simp [activationResult]
  · have kept (answer : Except CallError Unit) :
        answer.mapError (StartError.activation path) = .ok () ↔ answer = .ok () := by
      cases answer with
      | ok => exact iff_of_true rfl rfl
      | error => exact iff_of_false nofun nofun
    simp only [Option.map_some, Option.toList_some, List.mem_singleton, forall_eq]
    exact (kept _).trans answer_activateAccount_eq_ok_iff

theorem processes_activationMoves :
    o.toolConfig.processes (activationMoves (o.toolConfig.cloud tool) o.serviceAccount) =
      o.activationProcesses := by
  unfold Options.activationProcesses
  rcases o.serviceAccount with _ | path
  · rfl
  · rfl

/-- A start with options that are not fit runs nothing. -/
theorem executes_of_unfit (understood : read arguments keyFile = .ok o) (unfit : o.Unfit now) :
    Executes tool now arguments keyFile processes code ↔ processes = [] ∧ code = 1 := by
  obtain ⟨error, failed⟩ := Options.exists_settings_error_iff.2 unfit
  simp only [executes_of_read understood, Options.runs_run_of_settings_error failed]
  constructor
  · rintro ⟨_, _, ⟨rfl, rfl⟩, rfl, rfl⟩
    exact ⟨rfl, rfl⟩
  · rintro ⟨rfl, rfl⟩
    exact ⟨[], _, ⟨rfl, rfl⟩, rfl, rfl⟩

/-- A start whose account cannot be activated runs that and nothing else. -/
theorem executes_of_not_activates {s : Settings} (understood : read arguments keyFile = .ok o)
    (settled : o.settings now = .ok s) (inactive : ¬ o.Activates tool) :
    Executes tool now arguments keyFile processes code ↔
      processes = o.activationProcesses ∧ code = 1 := by
  rw [← activationResult_eq_ok_iff] at inactive
  obtain ⟨error, failed⟩ : ∃ error,
      activationResult (o.toolConfig.cloud tool) o.serviceAccount = .error error := by
    rcases h : activationResult (o.toolConfig.cloud tool) o.serviceAccount with error | ⟨⟩
    · exact ⟨error, rfl⟩
    · exact absurd h inactive
  simp only [executes_of_read understood, Options.runs_run_of_settings settled]
  constructor
  · rintro ⟨_, _, ⟨error', -, rfl, rfl⟩ | ⟨activated, -⟩, rfl, rfl⟩
    · exact ⟨processes_activationMoves, rfl⟩
    · exact absurd activated inactive
  · rintro ⟨rfl, rfl⟩
    exact ⟨_, _, .inl ⟨error, failed, rfl, rfl⟩, processes_activationMoves.symm, rfl⟩

/-- Every other start runs the activation, if there is one, and then what a sweep runs. -/
theorem executes_of_activates {s : Settings} (understood : read arguments keyFile = .ok o)
    (settled : o.settings now = .ok s) (active : o.Activates tool) :
    Executes tool now arguments keyFile processes code ↔
      ∃ moves report, (Sweep.project s ClusterEndpoint.builtIn Catalog.googleCloud).Runs
          (o.toolConfig.cloud tool) moves report ∧
        processes = o.activationProcesses ++ o.toolConfig.processes moves ∧
        code = report.exitCode := by
  rw [← activationResult_eq_ok_iff] at active
  -- The tool is run for the activation and for the sweep; to report something runs nothing.
  have parts (swept : List Move) (report : Report) : o.toolConfig.processes
      (activationMoves (o.toolConfig.cloud tool) o.serviceAccount ++
        (notes (o.opening s) ++ (swept ++ notes (Options.closing s report)))) =
      o.activationProcesses ++ o.toolConfig.processes swept := by
    have first : o.toolConfig.processes
        (activationMoves (o.toolConfig.cloud tool) o.serviceAccount) = o.activationProcesses :=
      processes_activationMoves
    rw [← first]
    simp [Gcloud.Config.processes]
  simp only [executes_of_read understood, Options.runs_run_of_settings settled]
  constructor
  · rintro ⟨_, _, ⟨error, failed, -⟩ | ⟨-, swept, report, sweep, rfl, rfl⟩, rfl, rfl⟩
    · cases active.symm.trans failed
    · exact ⟨swept, report, sweep, parts swept report, rfl⟩
  · rintro ⟨swept, report, sweep, rfl, rfl⟩
    exact ⟨_, _, .inr ⟨active, swept, report, sweep, rfl, rfl⟩, (parts swept report).symm, rfl⟩

end Starts

/-- A start ends in one of four ways. With a command line that is not understood it runs nothing. With
options that are not fit for a run it runs nothing either, and the status is 1. If there is a key file
and the account cannot be activated, that is the only run of the tool, and the status is 1. And
otherwise the activation comes first, if there is one, and then what a sweep of the project runs, with
the built-in catalog and settings that are those of the options and in order; the status is that of
the report. -/
theorem executes_iff (tool : Site → Invocation → ToolResult) (now : Instant)
    (arguments : List String) (keyFile : Option String) :
    (∀ error, read arguments keyFile = .error error → ∀ processes code,
      Executes tool now arguments keyFile processes code ↔
        processes = [] ∧ code = error.exitCode) ∧
    ∀ o, read arguments keyFile = .ok o →
      (o.Unfit now → ∀ processes code,
        Executes tool now arguments keyFile processes code ↔ processes = [] ∧ code = 1) ∧
      (¬ o.Unfit now → ¬ o.Activates tool →
        ∃ path, o.serviceAccount = some path ∧ ∀ processes code,
          Executes tool now arguments keyFile processes code ↔
            processes = [(.activation, o.toolConfig.invocation (.activateAccount path))] ∧
              code = 1) ∧
      (¬ o.Unfit now → o.Activates tool →
        ∃ s, o.Prepares now s ∧
          (∃ moves report, (Sweep.project s ClusterEndpoint.builtIn Catalog.googleCloud).Runs
            (o.toolConfig.cloud tool) moves report) ∧
          ∀ processes code, Executes tool now arguments keyFile processes code ↔
            ∃ moves report, (Sweep.project s ClusterEndpoint.builtIn Catalog.googleCloud).Runs
                (o.toolConfig.cloud tool) moves report ∧
              processes = o.activationProcesses ++ o.toolConfig.processes moves ∧
              code = report.exitCode) := by
  refine ⟨fun error unread processes code => executes_of_refused unread, fun o understood =>
    ⟨fun unfit processes code => executes_of_unfit understood unfit, fun fit inactive => ?_,
      fun fit active => ?_⟩⟩
  · obtain ⟨s, settled⟩ := Options.exists_settings_iff.2 fit
    rcases given : o.serviceAccount with _ | path
    · exact absurd (by simp [Options.Activates, Options.activationProcesses, given]) inactive
    refine ⟨path, rfl, fun processes code => ?_⟩
    rw [executes_of_not_activates understood settled inactive, Options.activationProcesses, given]
    rfl
  · obtain ⟨s, settled⟩ := Options.exists_settings_iff.2 fit
    exact ⟨s, Options.prepares_of_settings settled, ⟨_, _, Sweep.runs_project _ _ _⟩,
      fun processes code => executes_of_activates understood settled active⟩

/-- Options for a sweep with an account. -/
def accountOptions (days : Option Nat) : Options where
  project := "p"
  days := days
  hours := none
  filter := Settings.usualFilter
  ratelimit := Settings.usualBatchSize
  workers := Settings.usualWorkers
  serviceAccount := some "key.json"
  additionalZones := []
  callTimeout := Gcloud.usualTimeout
  gcloud := Gcloud.usualProgram
  dryRun := false
  verbose := false
  quotaProject := false

/-- The activation of the account. -/
def accountActivation : Site × Invocation :=
  (.activation, { arguments := ["auth", "activate-service-account", "--key-file=key.json"] })

/-- A tool of which every run fails. -/
def failingTool (_ : Site) (_ : Invocation) : ToolResult := .exited (.code 1) [] []

theorem executes_iff_account :
    Executes failingTool ⟨1704067200, 0⟩ [] none [] 2 ∧
      Executes Gcloud.idleTool ⟨1704067200, 0⟩ ["--project=p"] (some "key.json") [] 1 ∧
      Executes failingTool ⟨1704067200, 0⟩ ["--project=p", "--days=1"] (some "key.json")
        [accountActivation] 1 ∧
      ∃ processes code,
        Executes Gcloud.idleTool ⟨1704067200, 0⟩ ["--project=p", "--days=1"] (some "key.json")
          (accountActivation :: processes) code ∧
        processes.head?.map Prod.fst = some .subnetListing := by
  have unread : read [] none = .error .missingOption := rfl
  have ageless : read ["--project=p"] (some "key.json") = .ok (accountOptions none) := rfl
  have aged : read ["--project=p", "--days=1"] (some "key.json") = .ok (accountOptions (some 1)) :=
    rfl
  have fit : ¬ (accountOptions (some 1)).Unfit ⟨1704067200, 0⟩ :=
    Options.not_unfit_iff.2 ⟨by decide, .before ⟨1703980800, 0⟩, by decide +kernel,
      Options.fit_settingsAt_iff.2 (by decide)⟩
  have activation : (accountOptions (some 1)).activationProcesses = [accountActivation] := by decide
  have inactive : ¬ (accountOptions (some 1)).Activates failingTool := by
    simp [Options.Activates, activation, failingTool]
  have active : (accountOptions (some 1)).Activates Gcloud.idleTool := by
    simp [Options.Activates, activation, accountActivation, Gcloud.idleTool]
  obtain ⟨path, given, alone⟩ :=
    ((executes_iff failingTool ⟨1704067200, 0⟩ _ _).2 _ aged).2.1 fit inactive
  cases given
  obtain ⟨s, -, ⟨moves, report, run⟩, onward⟩ :=
    ((executes_iff Gcloud.idleTool ⟨1704067200, 0⟩ _ _).2 _ aged).2.2 fit active
  rw [activation] at onward
  refine ⟨((executes_iff _ _ _ _).1 _ unread _ _).2 ⟨rfl, rfl⟩,
    (((executes_iff _ _ _ _).2 _ ageless).1 (.ageless rfl rfl) _ _).2 ⟨rfl, rfl⟩,
    (alone _ _).2 ⟨by decide, rfl⟩, _, _, (onward _ _).2 ⟨moves, report, run, rfl, rfl⟩, ?_⟩
  rw [Gcloud.Config.processes, (Sweep.projectRun run).calls_eq]
  rfl

end CloudSweep.CommandLine
