/-
Options of the command line: their names, their values, and what they come to when they are left
out.
-/
import CloudSweep.Binary64.Reader
import CloudSweep.CommandLine.Error
import CloudSweep.Gcloud.Command
import CloudSweep.Settings.Basic
import CloudSweep.Text.Segment

namespace CloudSweep.CommandLine

/-- An option with values. -/
inductive ValueOption
  | project
  | days
  | hours
  | filter
  | ratelimit
  | workers
  | serviceAccount
  | additionalZones
  | callTimeout
  | gcloud
  deriving DecidableEq

/-- An option without values. -/
inductive Switch
  | dryRun
  | verbose
  | quotaProject
  | help
  | version
  deriving DecidableEq

/-- An option. -/
inductive AnyOption
  | value (option : ValueOption)
  | switch (switch : Switch)
  deriving DecidableEq

namespace AnyOption

/-- The long names of the options. -/
def names : List (String × AnyOption) := [
  ("project", .value .project), ("days", .value .days), ("hours", .value .hours),
  ("filter", .value .filter), ("ratelimit", .value .ratelimit), ("workers", .value .workers),
  ("service-account", .value .serviceAccount), ("service_account", .value .serviceAccount),
  ("additional-zones", .value .additionalZones), ("additional_zones", .value .additionalZones),
  ("call-timeout-secs", .value .callTimeout), ("gcloud", .value .gcloud),
  ("dryrun", .switch .dryRun), ("dry-run", .switch .dryRun), ("verbose", .switch .verbose),
  ("set-as-quota-project", .switch .quotaProject), ("set_as_quota_project", .switch .quotaProject),
  ("help", .switch .help), ("version", .switch .version)]

/-- The option with a long name. -/
def ofName? (name : String) : Option AnyOption := names.lookup name

/-- The option with a one-letter name. -/
def ofLetter? : Char → Option AnyOption
  | 'h' => some (.switch .help)
  | 'V' => some (.switch .version)
  | _ => none

end AnyOption

/-- Whether an option takes any number of values, from none up; the others take one. -/
def ValueOption.takesMany (o : ValueOption) : Bool := o = .additionalZones

/-- The options as far as they were given. -/
structure Given where
  project : Option String := none
  days : Option Nat := none
  hours : Option Binary64 := none
  filter : Option String := none
  ratelimit : Option Nat := none
  workers : Option Nat := none
  serviceAccount : Option String := none
  additionalZones : List String := []
  callTimeout : Option Nat := none
  gcloud : Option String := none
  dryRun : Bool := false
  verbose : Bool := false
  quotaProject : Bool := false

/-- The options of a run. -/
structure Options where
  project : String
  days : Option Nat
  hours : Option Binary64
  filter : String
  /-- How many names go into a delete call at most. -/
  ratelimit : Nat
  /-- How many delete calls are in flight at most. -/
  workers : Nat
  /-- The key file of the account to be used. -/
  serviceAccount : Option String
  additionalZones : List String
  /-- How long a call may take, in seconds. -/
  callTimeout : Nat
  /-- The tool to run. -/
  gcloud : String
  dryRun : Bool
  verbose : Bool
  /-- Bill calls to the project that is swept. -/
  quotaProject : Bool

namespace Given

/-- The options, with those that are left out; a project has to be given. -/
def options (g : Given) : Except ArgumentError Options :=
  match g.project with
  | none => .error .missingOption
  | some project => .ok {
      project
      days := g.days
      hours := g.hours
      filter := g.filter.getD Settings.usualFilter
      ratelimit := g.ratelimit.getD Settings.usualBatchSize
      workers := g.workers.getD Settings.usualWorkers
      serviceAccount := g.serviceAccount
      additionalZones := g.additionalZones
      callTimeout := g.callTimeout.getD Gcloud.usualTimeout
      gcloud := g.gcloud.getD Gcloud.usualProgram
      dryRun := g.dryRun
      verbose := g.verbose
      quotaProject := g.quotaProject }

end Given

/-! ## Values -/

/-- The number that digits spell; there must be one. -/
def natOfDigits? (cs : List Char) : Option Nat :=
  if !cs.isEmpty && cs.all Char.isDigit then some (Text.numeral cs) else none

/-- A natural number up to `limit`, possibly with a plus sign. -/
def natural? (limit : Nat) (s : String) : Option Nat :=
  let digits := match s.toList with
    | '+' :: rest => rest
    | cs => cs
  (natOfDigits? digits).filter (· ≤ limit)

/-- A natural number up to `limit`, where zero may also have a minus sign. -/
def signedNatural? (limit : Nat) (s : String) : Option Nat :=
  match s.toList with
  | '-' :: rest => (natOfDigits? rest).filter (· = 0)
  | _ => natural? limit s

namespace Given

/-- An option that may stand only once. -/
def once {α : Type} (before : Option α) (value : Except ArgumentError α) :
    Except ArgumentError (Option α) :=
  match before with
  | some _ => .error .repeatedOption
  | none => value.map some

/-- The one value of an option. -/
def single {α : Type} (values : List String) (read : String → Except ArgumentError α) :
    Except ArgumentError α :=
  match values with
  | value :: _ => read value
  | [] => .error .emptyValue

/-- A number that was read, or the error that it is none. -/
def number {α : Type} (value : Option α) : Except ArgumentError α :=
  match value with
  | some n => .ok n
  | none => .error .invalidValue

/-- A path must not be empty. -/
def path (value : String) : Except ArgumentError String :=
  if value = "" then .error .emptyValue else .ok value

/-- The options with the values of one more. An option without its value is at fault before one that
stands again, and that one before a value that cannot be read. -/
def withValues (g : Given) (o : ValueOption) (values : List String) : Except ArgumentError Given :=
  if values.isEmpty && !o.takesMany then .error .emptyValue
  else
    match o with
    | .project => return { g with project := ← once g.project (single values .ok) }
    | .days =>
      return { g with
        days := ← once g.days (single values fun v => number (signedNatural? (Nat.pow 2 32 - 1) v)) }
    | .hours =>
      return { g with
        hours := ← once g.hours (single values fun v => number (Binary64.ofString? v)) }
    | .filter => return { g with filter := ← once g.filter (single values .ok) }
    | .ratelimit =>
      return { g with
        ratelimit := ← once g.ratelimit (single values fun v => number (natural? (Nat.pow 2 64 - 1) v)) }
    | .workers =>
      return { g with
        workers := ← once g.workers (single values fun v => number (natural? (Nat.pow 2 64 - 1) v)) }
    | .serviceAccount =>
      return { g with serviceAccount := ← once g.serviceAccount (single values path) }
    | .additionalZones =>
      return { g with additionalZones := g.additionalZones ++ values.flatMap Text.commaSeparated }
    | .callTimeout =>
      return { g with
        callTimeout := ←
          once g.callTimeout (single values fun v => number (natural? (Nat.pow 2 64 - 1) v)) }
    | .gcloud => return { g with gcloud := ← once g.gcloud (single values path) }

/-- The options with one more switch. -/
def withSwitch (g : Given) : Switch → Except ArgumentError Given
  | .dryRun => if g.dryRun then .error .repeatedOption else .ok { g with dryRun := true }
  | .verbose => if g.verbose then .error .repeatedOption else .ok { g with verbose := true }
  | .quotaProject =>
    if g.quotaProject then .error .repeatedOption else .ok { g with quotaProject := true }
  | .help => .error .helpRequested
  | .version => .error .versionRequested

end Given
end CloudSweep.CommandLine
