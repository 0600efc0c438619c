/-
Module: LooseKeys.Settings.Overrides
Purpose: Environment variables that take the place of settings.
Main exports: Environment, Settings.withOverrides
-/
import LooseKeys.Settings
import LooseKeys.Text.Blank
import LooseKeys.Text.Number

/-!
Each setting has one variable.  Numbers and truth values are read after trimming; the path of
the definitions is taken as it is.  The first variable that does not read, in the order of the
settings, is the one reported, and the result is validated as a whole.
-/

namespace LooseKeys

/-- The values of the environment variables that are set. -/
abbrev Environment := String → Option String

namespace Settings

/-- The variables of the settings, in the order in which they are read. -/
def variableNames : List String :=
  ["LFK_MAX_MODIFICATIONS", "LFK_MAX_RUNTIME_SECS", "LFK_DELETE_BATCH_SIZE",
    "LFK_UPDATE_BATCH_SIZE", "LFK_RECORDS_PER_TABLE", "LFK_SKIP_LOCKED_PASS",
    "LFK_MAX_PASSES_PER_PHASE", "LFK_DEFINITIONS_PATH"]

/-- The value of a setting: what its variable reads as if it is set, else the present one. -/
def overridden {α : Type} (environment : Environment) (name : String)
    (read? : List Char → Option α) (present : α) : Except CleanupError α :=
  match environment name with
  | none => .ok present
  | some value =>
      match read? (Text.trim value.toList) with
      | some read => .ok read
      | none => .error (.config (.badOverride name value))

/-- The settings with every variable that is set in place of its setting, not yet validated. -/
def override (settings : Settings) (environment : Environment) :
    Except CleanupError Settings := do
  let unsigned := Text.unsigned? Text.maxUnsigned64
  let maxModifications ←
    overridden environment "LFK_MAX_MODIFICATIONS" unsigned settings.maxModifications
  let maxRuntimeSecs ←
    overridden environment "LFK_MAX_RUNTIME_SECS" unsigned settings.maxRuntimeSecs
  let deleteBatchSize ←
    overridden environment "LFK_DELETE_BATCH_SIZE" Text.signed? settings.deleteBatchSize
  let updateBatchSize ←
    overridden environment "LFK_UPDATE_BATCH_SIZE" Text.signed? settings.updateBatchSize
  let recordsPerTable ←
    overridden environment "LFK_RECORDS_PER_TABLE" Text.signed? settings.recordsPerTable
  let skipLockedPass ←
    overridden environment "LFK_SKIP_LOCKED_PASS" Text.truth? settings.skipLockedPass
  let maxPassesPerPhase ←
    overridden environment "LFK_MAX_PASSES_PER_PHASE"
      (fun chars => (Text.unsigned? Text.maxUnsigned32 chars).map some)
      settings.maxPassesPerPhase
  let definitionsPath := environment "LFK_DEFINITIONS_PATH" <|> settings.definitionsPath
  return { maxModifications, maxRuntimeSecs, deleteBatchSize, updateBatchSize, recordsPerTable,
           skipLockedPass, maxPassesPerPhase, definitionsPath }

/-- The overridden settings, if they are valid. -/
def withOverrides (settings : Settings) (environment : Environment) :
    Except CleanupError Settings := do
  let merged ← settings.override environment
  merged.validate

end Settings

end LooseKeys
