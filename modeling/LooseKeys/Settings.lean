/-
Module: LooseKeys.Settings
Purpose: The settings by which a cleanup run is determined, their defaults and their validation.
Main exports: Settings, Settings.validate, Settings.maxRuntime?
-/
import LooseKeys.Error

namespace LooseKeys

/-- The budget of an invocation and the shape of its passes. -/
structure Settings where
  /-- The number of deletions and updates at which an invocation stops. -/
  maxModifications : Nat := 100000
  /-- The seconds after which an invocation stops; zero sets no limit. -/
  maxRuntimeSecs : Nat := 30
  /-- The greatest number of rows that a deleting pass removes. -/
  deleteBatchSize : Int := 1000
  /-- The greatest number of rows that a nullifying pass rewrites. -/
  updateBatchSize : Int := 500
  /-- The greatest number of deleted records that are loaded for a parent table. -/
  recordsPerTable : Int := 500
  /-- Whether a phase that leaves locked rows alone comes before the waiting one. -/
  skipLockedPass : Bool := true
  /-- The greatest number of passes in a row that find rows, in one phase. -/
  maxPassesPerPhase : Option Nat := none
  /-- The file that holds the relation definitions. -/
  definitionsPath : Option String := none
deriving DecidableEq, Repr, Inhabited

namespace Settings

/-- The first rule that the settings break. -/
def fault? (settings : Settings) : Option ConfigFault :=
  if settings.maxModifications = 0 then some .zeroBudget
  else if settings.deleteBatchSize ≤ 0 ∨ settings.updateBatchSize ≤ 0 then
    some .batchSizeNotPositive
  else if settings.recordsPerTable ≤ 0 then some .recordLimitNotPositive
  else if settings.maxPassesPerPhase = some 0 then some .zeroPassLimit
  else none

/-- The settings themselves, if they break no rule. -/
def validate (settings : Settings) : Except CleanupError Settings :=
  match settings.fault? with
  | some fault => .error (.config fault)
  | none => .ok settings

/-- The limit on the runtime of an invocation in seconds. -/
def maxRuntime? (settings : Settings) : Option Nat :=
  if 0 < settings.maxRuntimeSecs then some settings.maxRuntimeSecs else none

end Settings

end LooseKeys
