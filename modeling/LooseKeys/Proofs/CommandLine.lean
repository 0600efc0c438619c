/-
Module: LooseKeys.Proofs.CommandLine
Purpose: Which files and environments the worker starts with, and where each of its settings is
  taken from.
Main exports: CommandLine.merged, CommandLine.settings_eq_ok_iff,
  CommandLine.file_is_validated_first, CommandLine.mended_file_is_refused, TakenFrom,
  CommandLine.Gives, CommandLine.Effective, CommandLine.settings_by_precedence
-/
import LooseKeys.CommandLine
import LooseKeys.Proofs.Settings.Given
import LooseKeys.Proofs.Settings.Overrides

/-!
The settings in force are those of the file with the environment over them and the option for the
definitions over all.  They are validated in the end, but the file is validated by itself before:
an environment that mends what is wrong in a file comes too late.
-/

namespace LooseKeys

variable {α : Type}

namespace CommandLine

variable {line : CommandLine} {reader : FileReader} {environment : Environment}

/-! ### Which files are accepted -/

/-- The settings of a file, with the environment over them and the option over all. -/
def merged (line : CommandLine) (fromFile : Settings) (environment : Environment) : Settings :=
  let overridden := fromFile.merged environment
  { overridden with definitionsPath := line.definitions <|> overridden.definitionsPath }

/-- The path of the definitions has no part in validation. -/
theorem validate_merged_iff (fromFile : Settings) :
    (line.merged fromFile environment).validate = .ok (line.merged fromFile environment) ↔
      (fromFile.merged environment).validate = .ok (fromFile.merged environment) := by
  rw [Settings.validate_ok_iff, Settings.validate_ok_iff]
  rfl

/-- The settings are those of the file and the environment, merged and valid. -/
theorem settings_eq_ok_iff {settings : Settings} :
    line.settings reader environment = .ok settings ↔
      ∃ fromFile, line.fileSettings reader = .ok fromFile ∧ environment.Readable ∧
        settings = line.merged fromFile environment ∧ settings.validate = .ok settings := by
  unfold CommandLine.settings
  constructor
  · intro ended
    obtain ⟨fromFile, ofFile, ended⟩ := exists_of_bind_eq_ok ended
    obtain ⟨overridden, overriding, ended⟩ := exists_of_bind_eq_ok ended
    cases ended
    rw [mapError_eq_ok_iff, Settings.withOverrides_eq_ok_iff] at overriding
    obtain ⟨readable, rfl, accepted⟩ := overriding
    exact ⟨fromFile, ofFile, readable, rfl, (validate_merged_iff fromFile).mpr accepted⟩
  · rintro ⟨fromFile, ofFile, readable, rfl, accepted⟩
    have merging : fromFile.withOverrides environment = .ok (fromFile.merged environment) :=
      Settings.withOverrides_eq_ok_iff.mpr
        ⟨readable, rfl, (validate_merged_iff fromFile).mp accepted⟩
    rw [ofFile]
    change (Except.mapError _ (fromFile.withOverrides environment)).bind _ = _
    rw [merging]
    rfl

section File

variable {path text : String} (config : line.config = some path)
  (found : reader.text path = .ok text)
include config found

/-- A file that reads as settings gives them if they are valid, and else their fault. -/
theorem fileSettings_of_decode {fromFile : Settings}
    (decoded : Settings.decode text = .ok fromFile) :
    line.fileSettings reader = fromFile.validate.mapError (.unloadable path) := by
  unfold fileSettings Settings.ofFile Settings.ofYaml
  simp only [config, found, decoded]

/-- A file that breaks a rule is refused for it, whatever the environment. -/
theorem settings_of_fault {fromFile : Settings} (decoded : Settings.decode text = .ok fromFile)
    {fault : ConfigFault} (faulty : fromFile.fault? = some fault) :
    line.settings reader environment = .error (.unloadable path (.config fault)) := by
  unfold CommandLine.settings
  rw [fileSettings_of_decode config found decoded]
  unfold Settings.validate
  rw [faulty]
  rfl

/-- A file that reads as settings is accepted exactly when they are valid by themselves, the
environment reads, and what it makes of them is valid too.  If they are not, no environment helps:
the file is refused for its own first fault. -/
theorem file_is_validated_first {fromFile : Settings}
    (decoded : Settings.decode text = .ok fromFile) :
    (∀ settings, line.settings reader environment = .ok settings ↔
      fromFile.validate = .ok fromFile ∧ environment.Readable ∧
        settings = line.merged fromFile environment ∧ settings.validate = .ok settings) ∧
      ∀ fault, fromFile.fault? = some fault →
        line.settings reader environment = .error (.unloadable path (.config fault)) := by
  refine ⟨fun settings => ?_, fun fault => settings_of_fault config found decoded⟩
  rw [settings_eq_ok_iff, fileSettings_of_decode config found decoded]
  constructor
  · rintro ⟨loaded, ofFile, rest⟩
    rw [mapError_eq_ok_iff] at ofFile
    obtain rfl := Settings.eq_of_validate_eq_ok ofFile
    exact ⟨ofFile, rest⟩
  · rintro ⟨accepted, rest⟩
    rw [accepted]
    exact ⟨fromFile, rfl, rest⟩

end File

/-- One file and no other. -/
def fileAt (path text : String) : FileReader := fun asked =>
  if asked = path then .ok text else .error .notFound

/-- A command line that names a file of settings and one of definitions. -/
def configured : CommandLine :=
  { databaseUrl := "postgresql:///lfk", config := some "cleanup.yml"
    definitions := some "relations.yml" }

/-- A file that gives two of the settings. -/
def partlyGiven : String := "delete_batch_size: 7\nupdate_batch_size: 9\n"

theorem decode_partlyGiven :
    Settings.decode partlyGiven = .ok { deleteBatchSize := 7, updateBatchSize := 9 } :=
  Yaml.Document.read_eq_ok (by decide +kernel)

/-- An environment that sets two of the variables. -/
def partlySet : Environment := fun name =>
  if name = "LFK_DELETE_BATCH_SIZE" then some " 3\t"
  else if name = "LFK_DEFINITIONS_PATH" then some "others.yml"
  else none

theorem partlySet_readable : partlySet.Readable where
  maxModifications := Environment.reads_of_unset rfl
  maxRuntimeSecs := Environment.reads_of_unset rfl
  deleteBatchSize := (Environment.reads_of_set rfl).mpr (by decide)
  updateBatchSize := Environment.reads_of_unset rfl
  recordsPerTable := Environment.reads_of_unset rfl
  skipLockedPass := Environment.reads_of_unset rfl
  maxPassesPerPhase := Environment.reads_of_unset rfl

/-- What comes of the three together. -/
def inForce : Settings :=
  { deleteBatchSize := 3, updateBatchSize := 9, definitionsPath := some "relations.yml" }

/-- A file with a budget of nothing is refused, although the environment gives a budget. -/
theorem mended_file_is_refused :
    let line : CommandLine := { databaseUrl := "postgresql:///lfk", config := some "c.yml" }
    let text := "max_modifications: 0\n"
    let environment : Environment := fun name =>
      if name = "LFK_MAX_MODIFICATIONS" then some "5" else none
    (fileAt "c.yml" text).text "c.yml" = .ok text ∧
      Settings.decode text = .ok { maxModifications := 0 } ∧ environment.Readable ∧
      line.merged { maxModifications := 0 } environment = { maxModifications := 5 } ∧
      Settings.validate { maxModifications := 5 } = .ok { maxModifications := 5 } ∧
      line.settings (fileAt "c.yml" text) environment =
        .error (.unloadable "c.yml" (.config .zeroBudget)) := by
  intro line text environment
  have decoded : Settings.decode text = .ok { maxModifications := 0 } :=
    Yaml.Document.read_eq_ok (by decide +kernel)
  refine ⟨rfl, decoded, ?_, by decide, by rfl, settings_of_fault rfl rfl decoded rfl⟩
  exact {
    maxModifications := (Environment.reads_of_set rfl).mpr (by decide)
    maxRuntimeSecs := Environment.reads_of_unset rfl
    deleteBatchSize := Environment.reads_of_unset rfl
    updateBatchSize := Environment.reads_of_unset rfl
    recordsPerTable := Environment.reads_of_unset rfl
    skipLockedPass := Environment.reads_of_unset rfl
    maxPassesPerPhase := Environment.reads_of_unset rfl }

theorem file_is_validated_first_in_sample :
    (fileAt "cleanup.yml" partlyGiven).text "cleanup.yml" = .ok partlyGiven ∧
      Settings.decode partlyGiven = .ok { deleteBatchSize := 7, updateBatchSize := 9 } ∧
      configured.settings (fileAt "cleanup.yml" partlyGiven) partlySet = .ok inForce := by
  have found : (fileAt "cleanup.yml" partlyGiven).text "cleanup.yml" = .ok partlyGiven := rfl
  have config : configured.config = some "cleanup.yml" := rfl
  obtain ⟨accepted_iff, _⟩ := file_is_validated_first config found decode_partlyGiven
  refine ⟨found, decode_partlyGiven, (accepted_iff inForce).mpr ?_⟩
  exact ⟨rfl, partlySet_readable, by decide, rfl⟩

/-! ### Where each setting is taken from -/

/-- What the file of a command line gives; without a file nothing is given. -/
def Gives (line : CommandLine) (reader : FileReader) (given : Settings.Given) : Prop :=
  match line.config with
  | none => given = {}
  | some path => ∃ text, reader.text path = .ok text ∧ Settings.Given.decode text = .ok given

/-- The settings of a file are valid, and those that it gives, the defaults for the rest. -/
theorem gives_of_fileSettings {fromFile : Settings}
    (loaded : line.fileSettings reader = .ok fromFile) :
    ∃ given, line.Gives reader given ∧ fromFile = given.settings := by
  unfold fileSettings at loaded
  unfold Gives
  cases config : line.config with
  | none =>
      rw [config] at loaded
      cases loaded
      exact ⟨{}, rfl, rfl⟩
  | some path =>
      simp only [config] at loaded
      rw [mapError_eq_ok_iff] at loaded
      unfold Settings.ofFile Settings.ofYaml at loaded
      cases found : reader.text path with
      | error error =>
          rw [found] at loaded
          cases loaded
      | ok text =>
          simp only [found] at loaded
          rw [Settings.decode_eq_given] at loaded
          cases decoded : Settings.Given.decode text with
          | error fault =>
              rw [decoded] at loaded
              cases loaded
          | ok given =>
              rw [decoded] at loaded
              exact ⟨given, ⟨text, found, decoded⟩, Settings.eq_of_validate_eq_ok loaded⟩

end CommandLine

/-- A setting has the value of its variable if that is set, else the one that is given, else the
default. -/
inductive TakenFrom (environment : Environment) (name : String) (read? : List Char → Option α)
    (given : Option α) (default : α) : α → Prop where
  | variable {text : String} {value : α} (isSet : environment name = some text)
      (reads : read? (Text.trim text.toList) = some value) :
      TakenFrom environment name read? given default value
  | file {value : α} (unset : environment name = none) (gives : given = some value) :
      TakenFrom environment name read? given default value
  | default (unset : environment name = none) (silent : given = none) :
      TakenFrom environment name read? given default default

theorem Environment.Reads.takenFrom {environment : Environment} {name : String}
    {read? : List Char → Option α} (reads : environment.Reads name read?) (given : Option α)
    (default : α) : TakenFrom environment name read? given default
      (environment.value name read? (given.getD default)) := by
  cases isSet : environment name with
  | none =>
      rw [Environment.value_of_unset isSet]
      cases given with
      | none => exact .default isSet rfl
      | some value => exact .file isSet rfl
  | some text =>
      obtain ⟨value, reading⟩ := Option.isSome_iff_exists.mp (reads text isSet)
      rw [Environment.value_of_set isSet reading]
      exact .variable isSet reading

namespace CommandLine

/-- The settings in force, each from the first of the places that says something about it. -/
structure Effective (line : CommandLine) (environment : Environment) (given : Settings.Given)
    (settings : Settings) : Prop where
  maxModifications : TakenFrom environment "LFK_MAX_MODIFICATIONS"
    (Text.unsigned? Text.maxUnsigned64) given.maxModifications 100000 settings.maxModifications
  maxRuntimeSecs : TakenFrom environment "LFK_MAX_RUNTIME_SECS"
    (Text.unsigned? Text.maxUnsigned64) given.maxRuntimeSecs 30 settings.maxRuntimeSecs
  deleteBatchSize : TakenFrom environment "LFK_DELETE_BATCH_SIZE" Text.signed?
    given.deleteBatchSize 1000 settings.deleteBatchSize
  updateBatchSize : TakenFrom environment "LFK_UPDATE_BATCH_SIZE" Text.signed?
    given.updateBatchSize 500 settings.updateBatchSize
  recordsPerTable : TakenFrom environment "LFK_RECORDS_PER_TABLE" Text.signed?
    given.recordsPerTable 500 settings.recordsPerTable
  skipLockedPass : TakenFrom environment "LFK_SKIP_LOCKED_PASS" Text.truth?
    given.skipLockedPass true settings.skipLockedPass
  maxPassesPerPhase : TakenFrom environment "LFK_MAX_PASSES_PER_PHASE"
    (fun chars => (Text.unsigned? Text.maxUnsigned32 chars).map some)
    given.maxPassesPerPhase none settings.maxPassesPerPhase
  definitionsPath : settings.definitionsPath =
    (line.definitions <|> environment "LFK_DEFINITIONS_PATH" <|> given.definitionsPath.join)
  accepted : settings.validate = .ok settings

/-- What the environment makes of a file is what each setting is taken from. -/
theorem effective_merged {line : CommandLine} {environment : Environment}
    (readable : environment.Readable) (given : Settings.Given)
    (accepted : (line.merged given.settings environment).validate =
      .ok (line.merged given.settings environment)) :
    line.Effective environment given (line.merged given.settings environment) where
  maxModifications := readable.maxModifications.takenFrom _ _
  maxRuntimeSecs := readable.maxRuntimeSecs.takenFrom _ _
  deleteBatchSize := readable.deleteBatchSize.takenFrom _ _
  updateBatchSize := readable.updateBatchSize.takenFrom _ _
  recordsPerTable := readable.recordsPerTable.takenFrom _ _
  skipLockedPass := readable.skipLockedPass.takenFrom _ _
  maxPassesPerPhase :=
    ((Environment.reads_map some).mpr readable.maxPassesPerPhase).takenFrom _ _
  definitionsPath := by
    have path : given.definitionsPath.getD none = given.definitionsPath.join := by
      cases given.definitionsPath with
      | none => rfl
      | some path => rfl
    rw [← path]
    rfl
  accepted := accepted

/-- Settings in force are valid, and each is taken from its variable, else from the file, else it
has its default; the option for the definitions counts more than all.  And two environments that
take the place of settings one after the other do so as one. -/
theorem settings_by_precedence (line : CommandLine) (reader : FileReader)
    (environment : Environment) :
    (∀ settings, line.settings reader environment = .ok settings →
      ∃ given, line.Gives reader given ∧ line.Effective environment given settings) ∧
    ∀ (start between result : Settings) (earlier later : Environment),
      start.withOverrides earlier = .ok between → between.withOverrides later = .ok result →
        start.withOverrides (fun name => later name <|> earlier name) = .ok result := by
  constructor
  · intro settings answered
    obtain ⟨fromFile, loaded, readable, rfl, accepted⟩ := settings_eq_ok_iff.mp answered
    obtain ⟨given, gives, rfl⟩ := gives_of_fileSettings loaded
    exact ⟨given, gives, effective_merged readable given accepted⟩
  · intro start between result earlier later first second
    exact Settings.withOverrides_shadowing first second

theorem settings_by_precedence_in_sample :
    let earlier : Environment := fun name =>
      if name = "LFK_UPDATE_BATCH_SIZE" then some "4"
      else if name = "LFK_DELETE_BATCH_SIZE" then some "5"
      else none
    configured.settings (fileAt "cleanup.yml" partlyGiven) partlySet = .ok inForce ∧
      (∃ given, configured.Gives (fileAt "cleanup.yml" partlyGiven) given ∧
        configured.Effective partlySet given inForce) ∧
      Settings.withOverrides {} earlier = .ok { updateBatchSize := 4, deleteBatchSize := 5 } ∧
      Settings.withOverrides {} (fun name => partlySet name <|> earlier name) = .ok
        { updateBatchSize := 4, deleteBatchSize := 3, definitionsPath := some "others.yml" } := by
  intro earlier
  have config : configured.config = some "cleanup.yml" := rfl
  have found : (fileAt "cleanup.yml" partlyGiven).text "cleanup.yml" = .ok partlyGiven := rfl
  have loaded := fileSettings_of_decode config found decode_partlyGiven
  have accepted : configured.settings (fileAt "cleanup.yml" partlyGiven) partlySet = .ok inForce :=
    settings_eq_ok_iff.mpr ⟨_, loaded, partlySet_readable, by decide, rfl⟩
  have first : Settings.withOverrides {} earlier =
      .ok { updateBatchSize := 4, deleteBatchSize := 5 } := by rfl
  have second : Settings.withOverrides { updateBatchSize := 4, deleteBatchSize := 5 } partlySet =
      .ok { updateBatchSize := 4, deleteBatchSize := 3,
            definitionsPath := some "others.yml" } := by rfl
  obtain ⟨taken, composed⟩ :=
    settings_by_precedence configured (fileAt "cleanup.yml" partlyGiven) partlySet
  exact ⟨accepted, taken inForce accepted, first, composed _ _ _ _ _ first second⟩

end CommandLine

end LooseKeys
