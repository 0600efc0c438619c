/-
Module: LooseKeys.CommandLine
Purpose: What the arguments of the worker's command line and its environment ask for, and the
  settings and definitions with which the worker starts.
Main exports: CommandLine, CommandLine.settings, CommandLine.registry, StartFailure
-/
import LooseKeys.Registry.Declared
import LooseKeys.Settings.Document
import LooseKeys.Settings.Overrides

/-!
The settings come from three places: the file counts less than the environment, and the
environment less than the option for the definitions.  A file is validated by itself, before
anything takes the place of what it says.
-/

namespace LooseKeys

/-- What a command line asks for. -/
structure CommandLine where
  databaseUrl : String
  /-- The file that holds the settings. -/
  config : Option String := none
  /-- The file that holds the relation definitions. -/
  definitions : Option String := none
  /-- The pause between invocations in milliseconds. -/
  intervalMs : Nat := 60000
  /-- The pause after a failed invocation in milliseconds. -/
  errorBackoffMs : Nat := 5000
  /-- The table for the log is to be created first. -/
  migrate : Bool := false
  /-- There is to be one invocation only. -/
  once : Bool := false
  maxConnections : Nat := 2
deriving DecidableEq, Repr

/-- Why the worker does not start. -/
inductive StartFailure where
  /-- The settings or the definitions in a file cannot be used. -/
  | unloadable (path : String) (cause : CleanupError)
  /-- An environment variable spoils the settings. -/
  | overriding (cause : CleanupError)
  | noDefinitions
deriving DecidableEq, Repr

namespace StartFailure

def message : StartFailure → String
  | .unloadable path cause => "Failed to load " ++ path ++ ": " ++ cause.message
  | .overriding cause => "Invalid LFK_* environment override: " ++ cause.message
  | .noDefinitions => "No relation definitions: pass --definitions or set LFK_DEFINITIONS_PATH"

end StartFailure

namespace CommandLine

/-- The settings of the file that the command line names, or the defaults. -/
def fileSettings (line : CommandLine) (reader : FileReader) : Except StartFailure Settings :=
  match line.config with
  | none => .ok {}
  | some path => (Settings.ofFile reader path).mapError (.unloadable path)

/-- The settings in force. -/
def settings (line : CommandLine) (reader : FileReader) (environment : Environment) :
    Except StartFailure Settings := do
  let fromFile ← line.fileSettings reader
  let merged ← (fromFile.withOverrides environment).mapError .overriding
  return { merged with definitionsPath := line.definitions <|> merged.definitionsPath }

/-- The relations that the file of settings in force declares. -/
def registry (settings : Settings) (reader : FileReader) : Except StartFailure Registry :=
  match settings.definitionsPath with
  | none => .error .noDefinitions
  | some path => (Registry.ofFile reader path).mapError (.unloadable path)

end CommandLine

end LooseKeys
