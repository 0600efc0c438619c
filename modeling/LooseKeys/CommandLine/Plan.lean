/-
Module: LooseKeys.CommandLine.Plan
Purpose: The help for the command line, and the statements that the passes of a worker issue.
Main exports: CommandLine.help, CommandLine.plan
-/
import LooseKeys.CommandLine.Arguments
import LooseKeys.Sql

namespace LooseKeys

/-- What a parameter is for, in one line. -/
def Parameter.purpose : Parameter → String
  | .databaseUrl => "the database to clean up"
  | .config => "the file that holds the settings"
  | .definitions => "the file that holds the relation definitions"
  | .intervalMs => "the pause between invocations in milliseconds"
  | .errorBackoffMs => "the pause after a failed invocation in milliseconds"
  | .migrate => "create the table for the log first"
  | .once => "run one invocation only"
  | .maxConnections => "the greatest number of connections"
  | .help => "show this help"

/-- The line of the help for one parameter. -/
def Parameter.helpLine (parameter : Parameter) : String :=
  let value := if parameter.isFlag then "" else " <VALUE>"
  let variableNote :=
    match parameter.environmentVariable? with
    | some name => " [" ++ name ++ "]"
    | none => ""
  "  --" ++ parameter.name ++ value ++ ": " ++ parameter.purpose ++ variableNote

/-- A line for each parameter. -/
def CommandLine.help : List String := Parameter.all.map (·.helpLine)

/-- The statement of a pass over the child rows of a relation. -/
def Relation.statement (relation : Relation) (mode : LockMode) : String :=
  match relation.strategy with
  | .asyncDelete => Sql.deleteStatement relation mode
  | .asyncNullify => Sql.nullifyStatement relation mode

/-- The lock modes of the phases in order. -/
def Settings.phases (settings : Settings) : List LockMode :=
  if settings.skipLockedPass then [.skipLocked, .blocking] else [.blocking]

/-- The statements of all phases of all relations, in the order in which they are first due. -/
def CommandLine.plan (settings : Settings) (registry : Registry) : List String :=
  registry.relations.flatMap (fun relation => settings.phases.map relation.statement)

end LooseKeys
