/-
What can be wrong with the settings of a run.
-/
import CloudSweep.Binary64.Printer

namespace CloudSweep

/-- What can be wrong with the settings of a run. -/
inductive SettingsError
  | emptyProject
  | missingAge
  | invalidHours (hours : Binary64)
  | ageOutOfRange (days : Nat) (hours : Binary64)
  | invalidBatchSize
  | invalidWorkers
  | noZones
  deriving DecidableEq

/-- The error in words. -/
def SettingsError.message : SettingsError → String
  | .emptyProject => "Project must not be empty"
  | .missingAge => "Either --days or --hours must be set"
  | .invalidHours hours =>
    "Invalid --hours value " ++ hours.toText ++ ": must be a finite, non-negative number"
  | .ageOutOfRange days hours =>
    "Age of " ++ toString days ++ " days and " ++ hours.toText ++ " hours is out of range"
  | .invalidBatchSize => "Batch size must be at least 1"
  | .invalidWorkers => "Worker pool size must be at least 1"
  | .noZones => "Zone set must not be empty"

end CloudSweep
