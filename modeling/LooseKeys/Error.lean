/-
Module: LooseKeys.Error
Purpose: The causes for which loading, validating or cleaning up fails, and their messages.
Main exports: DocumentFault, ConfigFault, InputFault, CleanupError, CleanupError.message
-/
import LooseKeys.Files.Fault
import LooseKeys.Reading.Fault

/-!
A configuration problem surfaces before any cleanup starts; every other error is a failure at
run time that a later attempt may not meet again (`CleanupError.isConfig`).
-/

namespace LooseKeys

open LooseKeys.Reading LooseKeys.Decimal

/-- Why a YAML document was refused. -/
inductive DocumentFault where
  /-- The text is no single document, or names an anchor that it does not define. -/
  | malformed
  /-- The value at `path` has the wrong shape; the path of the whole document is a dot. -/
  | unfit (path : String) (fault : Fault)
deriving DecidableEq, Repr

namespace DocumentFault

/-- How YAML documents are reported on. -/
def wording : Wording := { nullName := "unit value", floats := .positional }

def text : DocumentFault → String
  | .malformed => "<yaml>"
  | .unfit path fault =>
      if path = "." then fault.text wording else path ++ ": " ++ fault.text wording

end DocumentFault

/-- Why settings or relation definitions cannot be used. -/
inductive ConfigFault where
  | zeroBudget
  | batchSizeNotPositive
  | recordLimitNotPositive
  | zeroPassLimit
  /-- An environment variable whose value does not read as its setting does. -/
  | badOverride (name value : String)
  | unreadable (path : String) (fault : FileFault)
  | badSettings (fault : DocumentFault)
  | badDefinitions (fault : DocumentFault)
  /-- A parent table with an empty list of relations. -/
  | noRelations (parentTable : String)
  | stated (reason : String)
deriving DecidableEq, Repr

namespace ConfigFault

def text : ConfigFault → String
  | .zeroBudget => "max_modifications must be greater than zero"
  | .batchSizeNotPositive => "batch sizes must be greater than zero"
  | .recordLimitNotPositive => "records_per_table must be greater than zero"
  | .zeroPassLimit => "max_passes_per_phase must be greater than zero when set"
  | .badOverride name value => name ++ " has invalid value " ++ Text.quoted value
  | .unreadable path fault => "failed to read " ++ path ++ ": " ++ fault.text
  | .badSettings fault => "invalid cleanup config: " ++ fault.text
  | .badDefinitions fault => "invalid relation definitions: " ++ fault.text
  | .noRelations parentTable => "parent table " ++ parentTable ++ " declares no relations"
  | .stated reason => reason

end ConfigFault

/-- Why the arguments of an operation were refused. -/
inductive InputFault where
  /-- A deleted record of one table was put into a batch of another. -/
  | strayRecord (id : Int) (table batchTable : String)
  | stated (reason : String)
deriving DecidableEq, Repr

namespace InputFault

def text : InputFault → String
  | .strayRecord id table batchTable =>
      "deleted record " ++ toString id ++ " belongs to " ++ table ++ ", not " ++ batchTable
  | .stated reason => reason

end InputFault

/-- Everything that can go wrong. -/
inductive CleanupError where
  | config (fault : ConfigFault)
  | invalidDefinition (parentTable childTable reason : String)
  | unknownTable (table : String)
  | invalidInput (fault : InputFault)
  | storage (reason : String)
deriving DecidableEq, Repr

namespace CleanupError

def message : CleanupError → String
  | .config fault => "config error: " ++ fault.text
  | .invalidDefinition parentTable childTable reason =>
      "invalid relation " ++ parentTable ++ " -> " ++ childTable ++ ": " ++ reason
  | .unknownTable table => "unknown table: " ++ table
  | .invalidInput fault => "invalid input: " ++ fault.text
  | .storage reason => "storage: " ++ reason

/-- Whether the error lies in the configuration, so that a retry cannot help. -/
def isConfig : CleanupError → Bool
  | .config _ => true
  | .invalidDefinition .. => true
  | _ => false

end CleanupError

end LooseKeys
