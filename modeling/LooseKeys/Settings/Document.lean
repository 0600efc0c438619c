/-
Module: LooseKeys.Settings.Document
Purpose: Settings from a document.
Main exports: Settings.decode, Settings.ofYaml, Settings.ofFile
-/
import LooseKeys.Files
import LooseKeys.Settings
import LooseKeys.Yaml.Typed

/-!
A document gives any of the settings by name; the others have their defaults.
-/

namespace LooseKeys.Settings

open Yaml in
/-- The fields of a document of settings. -/
def fields : List (Yaml.Field Settings) :=
  [.of "max_modifications" readUnsigned64
      (fun value settings => { settings with maxModifications := value }),
    .of "max_runtime_secs" readUnsigned64
      (fun value settings => { settings with maxRuntimeSecs := value }),
    .of "delete_batch_size" readSigned64
      (fun value settings => { settings with deleteBatchSize := value }),
    .of "update_batch_size" readSigned64
      (fun value settings => { settings with updateBatchSize := value }),
    .of "records_per_table" readSigned64
      (fun value settings => { settings with recordsPerTable := value }),
    .of "skip_locked_pass" readTruth
      (fun value settings => { settings with skipLockedPass := value }),
    .of "max_passes_per_phase" (readOption readUnsigned32)
      (fun value settings => { settings with maxPassesPerPhase := value }),
    .of "definitions_path" (readOption readPath)
      (fun value settings => { settings with definitionsPath := value })]

/-- The settings that a document gives, not yet validated. -/
def decode (text : String) : Except DocumentFault Settings :=
  Yaml.Document.read (Yaml.readRecord "struct CleanupConfig" fields {} .ok) text

/-- The settings that a document gives, if they are valid. -/
def ofYaml (text : String) : Except CleanupError Settings :=
  match decode text with
  | .error fault => .error (.config (.badSettings fault))
  | .ok settings => settings.validate

/-- The settings that the document in a file gives, if they are valid. -/
def ofFile (reader : FileReader) (path : String) : Except CleanupError Settings :=
  match reader.text path with
  | .error error => .error error
  | .ok text => ofYaml text

end LooseKeys.Settings
