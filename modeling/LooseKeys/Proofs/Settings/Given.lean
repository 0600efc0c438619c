/-
Module: LooseKeys.Proofs.Settings.Given
Purpose: Which settings a document gives, and which it leaves to their defaults.
Main exports: Settings.Given, Settings.Given.decode, Settings.Given.settings,
  Settings.decode_eq_given
-/
import LooseKeys.Proofs.Yaml.Views
import LooseKeys.Settings.Document

/-!
Once a document is read as settings, what it gave and what it left out are no longer told apart.
`Given` keeps them apart; the settings of a document are a view of what it gives.
-/

namespace LooseKeys.Settings

/-- What a document gives: a value for each setting that it names. -/
structure Given where
  maxModifications : Option Nat := none
  maxRuntimeSecs : Option Nat := none
  deleteBatchSize : Option Int := none
  updateBatchSize : Option Int := none
  recordsPerTable : Option Int := none
  skipLockedPass : Option Bool := none
  /-- A limit that is given may be given as none. -/
  maxPassesPerPhase : Option (Option Nat) := none
  /-- So may a path. -/
  definitionsPath : Option (Option String) := none
deriving DecidableEq, Repr

namespace Given

open Yaml in
/-- The fields of a document of settings, each with what it gives. -/
def fields : List (Yaml.Field Given) :=
  [.of "max_modifications" readUnsigned64
      (fun value given => { given with maxModifications := some value }),
    .of "max_runtime_secs" readUnsigned64
      (fun value given => { given with maxRuntimeSecs := some value }),
    .of "delete_batch_size" readSigned64
      (fun value given => { given with deleteBatchSize := some value }),
    .of "update_batch_size" readSigned64
      (fun value given => { given with updateBatchSize := some value }),
    .of "records_per_table" readSigned64
      (fun value given => { given with recordsPerTable := some value }),
    .of "skip_locked_pass" readTruth
      (fun value given => { given with skipLockedPass := some value }),
    .of "max_passes_per_phase" (readOption readUnsigned32)
      (fun value given => { given with maxPassesPerPhase := some value }),
    .of "definitions_path" (readOption readPath)
      (fun value given => { given with definitionsPath := some value })]

/-- What a document gives. -/
def decode (text : String) : Except DocumentFault Given :=
  Yaml.Document.read (Yaml.readRecord "struct CleanupConfig" fields {} .ok) text

/-- What is given, and the defaults for the rest. -/
def settings (given : Given) : Settings where
  maxModifications := given.maxModifications.getD ({} : Settings).maxModifications
  maxRuntimeSecs := given.maxRuntimeSecs.getD ({} : Settings).maxRuntimeSecs
  deleteBatchSize := given.deleteBatchSize.getD ({} : Settings).deleteBatchSize
  updateBatchSize := given.updateBatchSize.getD ({} : Settings).updateBatchSize
  recordsPerTable := given.recordsPerTable.getD ({} : Settings).recordsPerTable
  skipLockedPass := given.skipLockedPass.getD ({} : Settings).skipLockedPass
  maxPassesPerPhase := given.maxPassesPerPhase.getD ({} : Settings).maxPassesPerPhase
  definitionsPath := given.definitionsPath.getD ({} : Settings).definitionsPath

/-- Each field gives the setting of its name. -/
theorem fields_show : List.Forall₂ (Yaml.Field.Shows settings) fields Settings.fields := by
  unfold fields Settings.fields
  refine .cons ?_ (.cons ?_ (.cons ?_ (.cons ?_ (.cons ?_ (.cons ?_ (.cons ?_ (.cons ?_ .nil)))))))
  all_goals exact Yaml.Field.of_shows _ _ (fun _ _ => rfl)

end Given

/-- A document is read as settings exactly as it is read for what it gives. -/
theorem decode_eq_given (text : String) : decode text = (Given.decode text).map Given.settings := by
  unfold decode Given.decode
  rw [← Yaml.Document.read_map, ← Yaml.readRecord_map Given.fields_show (fun _ => rfl)]
  rfl

end LooseKeys.Settings
