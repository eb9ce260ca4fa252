/-
The settings of a run. They are fixed before the run starts and shared by all of its parts.
-/
import CloudSweep.Settings.Cutoff
import CloudSweep.Zone

namespace CloudSweep

namespace Settings

/-- The filter that passes over names which start with `default`. -/
def usualFilter : String := "name !~ ^default"

/-- The usual limit of names in a delete call. -/
def usualBatchSize : Nat := 50

/-- The usual limit of delete calls in flight. -/
def usualWorkers : Nat := 16

end Settings

/-- What a run is to sweep, and how. -/
structure Settings where
  project : String
  cutoff : Cutoff
  /-- The filter of every listing. -/
  filter : String := Settings.usualFilter
  /-- How many names go into a delete call at most. -/
  batchSize : Nat := Settings.usualBatchSize
  /-- How many delete calls are in flight at most; zero counts as one. -/
  workers : Nat := Settings.usualWorkers
  /-- The zones to which zonal listings are narrowed. -/
  zones : List String := Zone.builtIn
  /-- Report what would be deleted, and delete nothing. -/
  dryRun : Bool := false

namespace Settings

/-- Checks the settings; the first problem is reported. -/
def validate (s : Settings) : Except SettingsError Unit :=
  if Text.trim s.project = "" then .error .emptyProject
  else if s.batchSize = 0 then .error .invalidBatchSize
  else if s.workers = 0 then .error .invalidWorkers
  else if s.zones = [] then .error .noZones
  else .ok ()

end Settings
end CloudSweep
