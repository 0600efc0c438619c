/-
Module: LooseKeys.Main
Purpose: The program: it reads its arguments, the settings and the definitions, and prints the
  statements by which a worker cleans up.
Main exports: main
-/
import LooseKeys.CommandLine.Plan

namespace LooseKeys

/-- The fault that an error of the operating system stands for. -/
def FileFault.ofError : IO.Error → FileFault
  | .noFileOrDirectory .. => .notFound
  | .inappropriateType _ code _ =>
      if code = 21 ∨ code = 0 - 21 then .isADirectory else .notADirectory
  | error => .refused (toString error)

/-- Reads the text of a file. -/
def readText (path : String) : IO (Except FileFault String) := do
  try
    let bytes ← IO.FS.readBinFile path
    return match String.fromUTF8? bytes with
      | some text => .ok text
      | none => .error .notUtf8
  catch error => return .error (.ofError error)

/-- The reader that knows one file, if any. -/
def readerOf (path : Option String) : IO FileReader := do
  match path with
  | none => return fun _ => .error .notFound
  | some path =>
      let text ← readText path
      return fun _ => text

/-- The values of the environment variables that are looked at. -/
def readEnvironment : IO Environment := do
  let names := Parameter.all.filterMap (·.environmentVariable?) ++ Settings.variableNames
  let entries ← names.mapM (fun name => do return (name, ← IO.getEnv name))
  return fun name => (entries.lookup name).join

/-- Prints why the worker does not start. -/
def refuseToStart (failure : StartFailure) : IO UInt32 := do
  IO.eprintln ("Error: " ++ failure.message)
  return 1

/-- Prints the statements for a command line. -/
def printPlan (line : CommandLine) (environment : Environment) : IO UInt32 := do
  match line.settings (← readerOf line.config) environment with
  | .error failure => refuseToStart failure
  | .ok settings =>
      match CommandLine.registry settings (← readerOf settings.definitionsPath) with
      | .error failure => refuseToStart failure
      | .ok registry =>
          (CommandLine.plan settings registry).forM IO.println
          return 0

end LooseKeys

open LooseKeys in
/-- Runs the program on its arguments. -/
def main (arguments : List String) : IO UInt32 := do
  let environment ← readEnvironment
  match CommandLine.parse arguments environment with
  | .ok line => printPlan line environment
  | .error .helpWanted =>
      CommandLine.help.forM IO.println
      return 0
  | .error fault =>
      IO.eprintln ("error: " ++ fault.message)
      return 2
