/-
Module: LooseKeys.CommandLine.Arguments
Purpose: Reading the arguments of the command line and the environment variables that stand in
  for them.
Main exports: Parameter, UsageFault, Argument, CommandLine.parse
-/
import LooseKeys.CommandLine

/-!
An option takes its value after an equals sign or as the next argument.  In the second case the
value is judged only when the next parameter is recognized or the arguments are over, so an
argument that nobody knows is reported before a value that does not read.  Environment variables
are read after all arguments, for the parameters that these did not give.
-/

namespace LooseKeys

/-- A parameter of the command line. -/
inductive Parameter where
  | databaseUrl
  | config
  | definitions
  | intervalMs
  | errorBackoffMs
  | migrate
  | once
  | maxConnections
  | help
deriving DecidableEq, Repr

namespace Parameter

/-- All parameters, in the order in which their environment variables are read. -/
def all : List Parameter :=
  [databaseUrl, config, definitions, intervalMs, errorBackoffMs, migrate, once, maxConnections,
    help]

def name : Parameter → String
  | databaseUrl => "database-url"
  | config => "config"
  | definitions => "definitions"
  | intervalMs => "interval-ms"
  | errorBackoffMs => "error-backoff-ms"
  | migrate => "migrate"
  | once => "once"
  | maxConnections => "max-connections"
  | help => "help"

/-- The environment variable that stands in for a parameter. -/
def environmentVariable? : Parameter → Option String
  | databaseUrl => some "LFK_DATABASE_URL"
  | config => some "LFK_CONFIG_PATH"
  | definitions => some "LFK_DEFINITIONS_PATH"
  | intervalMs => some "LFK_INTERVAL_MS"
  | errorBackoffMs => some "LFK_ERROR_BACKOFF_MS"
  | migrate => some "LFK_RUN_MIGRATIONS"
  | maxConnections => some "LFK_MAX_CONNECTIONS"
  | once => none
  | help => none

/-- Whether a parameter is on by being named. -/
def isFlag : Parameter → Bool
  | migrate => true
  | once => true
  | help => true
  | _ => false

/-- The parameter of exactly this name. -/
def ofName? (name : String) : Option Parameter := all.find? (fun parameter => parameter.name = name)

end Parameter

/-- Why a command line is refused, or not acted upon. -/
inductive UsageFault where
  | unknownArgument (argument : String)
  | repeated (parameter : Parameter)
  | missingValue (parameter : Parameter)
  /-- A flag that is given a value. -/
  | unwantedValue (parameter : Parameter)
  | emptyPath (parameter : Parameter)
  | notANumber (parameter : Parameter) (value : String)
  | notATruthValue (parameter : Parameter) (value : String)
  | noDatabaseUrl
  | helpWanted
deriving DecidableEq, Repr

namespace UsageFault

def message : UsageFault → String
  | .unknownArgument argument => "unexpected argument " ++ Text.quoted argument
  | .repeated parameter => "--" ++ parameter.name ++ " is given more than once"
  | .missingValue parameter => "--" ++ parameter.name ++ " needs a value"
  | .unwantedValue parameter => "--" ++ parameter.name ++ " takes no value"
  | .emptyPath parameter => "the path for --" ++ parameter.name ++ " is empty"
  | .notANumber parameter value =>
      "--" ++ parameter.name ++ " has invalid value " ++ Text.quoted value
  | .notATruthValue parameter value =>
      "--" ++ parameter.name ++ " has invalid value " ++ Text.quoted value
  | .noDatabaseUrl => "--database-url is required"
  | .helpWanted => "help is wanted"

end UsageFault

/-- A command line of which some parameters have not been given. -/
structure GivenParameters where
  databaseUrl : Option String := none
  config : Option String := none
  definitions : Option String := none
  intervalMs : Option Nat := none
  errorBackoffMs : Option Nat := none
  migrate : Option Bool := none
  once : Option Bool := none
  maxConnections : Option Nat := none
deriving DecidableEq, Repr

namespace GivenParameters

/-- Whether a parameter has been given. -/
def contains (given : GivenParameters) : Parameter → Bool
  | .databaseUrl => given.databaseUrl.isSome
  | .config => given.config.isSome
  | .definitions => given.definitions.isSome
  | .intervalMs => given.intervalMs.isSome
  | .errorBackoffMs => given.errorBackoffMs.isSome
  | .migrate => given.migrate.isSome
  | .once => given.once.isSome
  | .maxConnections => given.maxConnections.isSome
  | .help => false

/-- Reads a path, which must not be empty. -/
def readPath (parameter : Parameter) (value : String) : Except UsageFault String :=
  if value = "" then .error (.emptyPath parameter) else .ok value

/-- Reads a value that must be a number. -/
def readNumber (parameter : Parameter) (read? : List Char → Option Nat) (value : String) :
    Except UsageFault Nat :=
  match read? value.toList with
  | some number => .ok number
  | none => .error (.notANumber parameter value)

/-- Reads `true` or `false`. -/
def readTruth (parameter : Parameter) (value : String) : Except UsageFault Bool :=
  match Text.truth? value.toList with
  | some truth => .ok truth
  | none => .error (.notATruthValue parameter value)

/-- The number of connections has at most 32 bits; a zero may have a minus sign. -/
def connections? (chars : List Char) : Option Nat :=
  (Text.signed? chars).bind (fun number =>
    if 0 ≤ number ∧ number ≤ Text.maxUnsigned32 then some number.toNat else none)

/-- Gives a parameter the value that a text reads as. -/
def set (given : GivenParameters) (parameter : Parameter) (value : String) :
    Except UsageFault GivenParameters := do
  let milliseconds := Text.unsigned? Text.maxUnsigned64
  match parameter with
  | .databaseUrl => return { given with databaseUrl := some value }
  | .config => return { given with config := some (← readPath parameter value) }
  | .definitions => return { given with definitions := some (← readPath parameter value) }
  | .intervalMs =>
      return { given with intervalMs := some (← readNumber parameter milliseconds value) }
  | .errorBackoffMs =>
      return { given with errorBackoffMs := some (← readNumber parameter milliseconds value) }
  | .migrate => return { given with migrate := some (← readTruth parameter value) }
  | .once => return { given with once := some (← readTruth parameter value) }
  | .maxConnections =>
      return { given with maxConnections := some (← readNumber parameter connections? value) }
  | .help => .error .helpWanted

/-- Gives a parameter its value, unless it has one already. -/
def give (given : GivenParameters) (parameter : Parameter) (value : String) :
    Except UsageFault GivenParameters :=
  if given.contains parameter then .error (.repeated parameter) else given.set parameter value

/-- Sets the parameters that have not been given from their environment variables. -/
def complete (environment : Environment) :
    List Parameter → GivenParameters → Except UsageFault GivenParameters
  | [], given => .ok given
  | parameter :: rest, given =>
      if given.contains parameter then complete environment rest given
      else
        match parameter.environmentVariable?.bind environment with
        | none => complete environment rest given
        | some value =>
            match given.set parameter value with
            | .error fault => .error fault
            | .ok given => complete environment rest given

/-- The command line, with defaults for all parameters but the database. -/
def toCommandLine (given : GivenParameters) : Except UsageFault CommandLine :=
  match given.databaseUrl with
  | none => .error .noDatabaseUrl
  | some databaseUrl =>
      let default : CommandLine := { databaseUrl }
      .ok {
        databaseUrl
        config := given.config
        definitions := given.definitions
        intervalMs := given.intervalMs.getD default.intervalMs
        errorBackoffMs := given.errorBackoffMs.getD default.errorBackoffMs
        migrate := given.migrate.getD default.migrate
        once := given.once.getD default.once
        maxConnections := given.maxConnections.getD default.maxConnections }

end GivenParameters

/-- What an argument looks like. -/
inductive Argument where
  /-- Two dashes alone, after which nothing is a parameter. -/
  | separator
  /-- A long name after two dashes, and what follows the first equals sign. -/
  | long (name : String) (attached : Option String)
  /-- Letters after one dash. -/
  | short (letters : List Char)
  | value (text : String)
deriving DecidableEq, Repr

namespace Argument

/-- A single dash is a value. -/
def ofText (text : String) : Argument :=
  match text.toList with
  | ['-', '-'] => .separator
  | '-' :: '-' :: chars =>
      let name := String.ofList (chars.takeWhile (· ≠ '='))
      match chars.dropWhile (· ≠ '=') with
      | [] => .long name none
      | _ :: attached => .long name (some (String.ofList attached))
  | '-' :: letter :: letters => .short (letter :: letters)
  | _ => .value text

end Argument

/-- An option that has been named and the value that followed it, if one has. -/
structure OpenOption where
  parameter : Parameter
  value : Option String := none
deriving DecidableEq, Repr

namespace GivenParameters

/-- Gives the open option its value. -/
def close (given : GivenParameters) : Option OpenOption → Except UsageFault GivenParameters
  | none => .ok given
  | some { parameter, value := none } => .error (.missingValue parameter)
  | some { parameter, value := some value } => given.give parameter value

/-- Takes a parameter that has been named, perhaps with a value; an option without one is left
open. -/
def name (given : GivenParameters) (parameter : Parameter) (attached : Option String) :
    Except UsageFault (GivenParameters × Option OpenOption) :=
  match attached with
  | some value => (given.give parameter value).map (·, none)
  | none =>
      if parameter.isFlag then (given.give parameter "true").map (·, none)
      else .ok (given, some { parameter })

/-- Reads arguments after those that are given already, the last of which may be open. -/
def read (given : GivenParameters) (last : Option OpenOption) :
    List String → Except UsageFault GivenParameters
  | [] => given.close last
  | argument :: rest =>
      match Argument.ofText argument with
      | .separator =>
          match rest with
          | [] => given.close last
          | argument :: _ => .error (.unknownArgument argument)
      | .long name attached =>
          match Parameter.ofName? name with
          | none => .error (.unknownArgument argument)
          | some parameter =>
              if parameter.isFlag ∧ attached.isSome then .error (.unwantedValue parameter)
              else do
                let closed ← given.close last
                let (given, last) ← closed.name parameter attached
                given.read last rest
      | .short letters =>
          if letters.head? = some 'h' then do
            let closed ← given.close last
            let (given, last) ← closed.name .help none
            given.read last rest
          else .error (.unknownArgument argument)
      | .value text =>
          match last with
          | some { parameter, value := none } =>
              given.read (some { parameter, value := some text }) rest
          | _ => .error (.unknownArgument argument)

end GivenParameters

/-- What the arguments ask for, and where they are silent the environment. -/
def CommandLine.parse (arguments : List String) (environment : Environment) :
    Except UsageFault CommandLine := do
  let given ← ({} : GivenParameters).read none arguments
  let completed ← given.complete environment Parameter.all
  completed.toCommandLine

example :
    let parsed (arguments : List String) := CommandLine.parse arguments (fun _ => none)
    (parsed ["--database-url=", "--interval-ms", "+5", "--once"]).toOption
        = some { databaseUrl := "", intervalMs := 5, once := true }
      ∧ (parsed ["--database-url", "x", "--config", "-"]).toOption
        = some { databaseUrl := "x", config := some "-" }
      ∧ (parsed ["--once"]).toOption = none := by decide +kernel

end LooseKeys
