/-
Why a command line does not lead to a run: it is at fault, or it asks for help or the version.
-/
namespace CloudSweep.CommandLine

/-- Why reading the arguments stopped. -/
inductive ArgumentError
  /-- No option of that name, or a word that belongs to no option. -/
  | unknownArgument
  /-- A required option is missing. -/
  | missingOption
  /-- An option without its value, or with an empty path. -/
  | emptyValue
  /-- A value that is no number of the right sort. -/
  | invalidValue
  /-- An option that may stand only once stands again. -/
  | repeatedOption
  /-- A value given to a switch. -/
  | unwantedValue
  | helpRequested
  | versionRequested
  deriving DecidableEq

/-- The error in words. -/
def ArgumentError.message : ArgumentError → String
  | .unknownArgument => "unexpected argument"
  | .missingOption => "--project is required"
  | .emptyValue => "an option lacks its value"
  | .invalidValue => "an option has an invalid value"
  | .repeatedOption => "an option is given more than once"
  | .unwantedValue => "an option takes no value"
  | .helpRequested =>
    "Clean up stale resources from a cloud project\n\n" ++
      "  --project NAME            project to clean\n" ++
      "  --days N, --hours X       age of the items to clean, added up\n" ++
      "  --filter EXPR             narrow listings down\n" ++
      "  --dryrun                  list but do not delete\n" ++
      "  --ratelimit N             names in one delete call at most\n" ++
      "  --workers N               delete calls in flight at most\n" ++
      "  --verbose                 report more\n" ++
      "  --service-account FILE    key file to activate first\n" ++
      "  --additional-zones Z,...  further zones\n" ++
      "  --set-as-quota-project    bill calls to the project\n" ++
      "  --call-timeout-secs N     time for one call\n" ++
      "  --gcloud PROGRAM          tool to run"
  | .versionRequested => "0.1.0"

/-- The status with which the program ends. -/
def ArgumentError.exitCode : ArgumentError → Nat
  | .helpRequested | .versionRequested => 0
  | _ => 2

end CloudSweep.CommandLine
