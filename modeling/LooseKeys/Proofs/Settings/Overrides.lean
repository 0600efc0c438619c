/-
Module: LooseKeys.Proofs.Settings.Overrides
Purpose: Which environments can take the place of settings, and what they make of them.
Main exports: Environment.Reads, Environment.value, Environment.shadowing, Environment.Readable,
  Settings.merged, Settings.override_eq_ok_iff, Settings.withOverrides_eq_ok_iff,
  Settings.withOverrides_shadowing
-/
import LooseKeys.Proofs.Settings
import LooseKeys.Settings.Overrides

/-!
Whether a variable reads does not depend on the settings whose place it takes, so overriding is
told in two parts: the environment is readable, and each setting has the value of its variable.
Two environments one after the other are then one environment, field by field.
-/

namespace LooseKeys

variable {α : Type}

/-! ### Results that may be errors -/

/-- What is done with a result is done after there is one. -/
theorem exists_of_bind_eq_ok {ε β : Type} {first : Except ε α} {next : α → Except ε β} {result : β}
    (ended : (first >>= next) = .ok result) :
    ∃ value, first = .ok value ∧ next value = .ok result := by
  cases first with
  | error error => cases ended
  | ok value => exact ⟨value, rfl, ended⟩

theorem mapError_eq_ok_iff {ε ε' : Type} {outcome : Except ε α} {rename : ε → ε'} {result : α} :
    outcome.mapError rename = .ok result ↔ outcome = .ok result := by
  cases outcome with
  | error error => exact ⟨fun ended => (by cases ended), fun ended => (by cases ended)⟩
  | ok value => exact ⟨fun ended => (by cases ended; rfl), fun ended => (by cases ended; rfl)⟩

/-! ### Variables -/

namespace Environment

/-- A variable that is set reads as a value. -/
def Reads (environment : Environment) (name : String) (read? : List Char → Option α) : Prop :=
  ∀ text, environment name = some text → (read? (Text.trim text.toList)).isSome

/-- What a variable reads as, or the present value if there is no reading of it. -/
def value (environment : Environment) (name : String) (read? : List Char → Option α)
    (present : α) : α :=
  ((environment name).bind (fun text => read? (Text.trim text.toList))).getD present

/-- One environment in front of another: where it sets a variable, that is the one that counts. -/
def shadowing (upper lower : Environment) : Environment := fun name => upper name <|> lower name

/-- Of the variables that are read, each one that is set reads as its setting does. -/
structure Readable (environment : Environment) : Prop where
  maxModifications : environment.Reads "LFK_MAX_MODIFICATIONS" (Text.unsigned? Text.maxUnsigned64)
  maxRuntimeSecs : environment.Reads "LFK_MAX_RUNTIME_SECS" (Text.unsigned? Text.maxUnsigned64)
  deleteBatchSize : environment.Reads "LFK_DELETE_BATCH_SIZE" Text.signed?
  updateBatchSize : environment.Reads "LFK_UPDATE_BATCH_SIZE" Text.signed?
  recordsPerTable : environment.Reads "LFK_RECORDS_PER_TABLE" Text.signed?
  skipLockedPass : environment.Reads "LFK_SKIP_LOCKED_PASS" Text.truth?
  maxPassesPerPhase :
    environment.Reads "LFK_MAX_PASSES_PER_PHASE" (Text.unsigned? Text.maxUnsigned32)

variable {environment upper lower : Environment} {name : String} {read? : List Char → Option α}

theorem value_of_unset (unset : environment name = none) (present : α) :
    environment.value name read? present = present := by
  unfold value
  rw [unset]
  rfl

theorem value_of_set {text : String} (isSet : environment name = some text) {read : α}
    (reads : read? (Text.trim text.toList) = some read) (present : α) :
    environment.value name read? present = read := by
  unfold value
  rw [isSet, Option.bind_some, reads]
  rfl

theorem reads_of_unset (unset : environment name = none) : environment.Reads name read? := by
  intro text isSet
  cases unset.symm.trans isSet

theorem reads_of_set {text : String} (isSet : environment name = some text) :
    environment.Reads name read? ↔ (read? (Text.trim text.toList)).isSome := by
  constructor
  · exact fun reads => reads text isSet
  · intro reads other again
    cases isSet.symm.trans again
    exact reads

/-- Reading does not depend on what is made of the value. -/
theorem reads_map {β : Type} (make : α → β) :
    environment.Reads name (fun chars => (read? chars).map make) ↔
      environment.Reads name read? := by
  unfold Reads
  simp only [Option.isSome_map]

theorem Reads.shadowing (first : upper.Reads name read?) (second : lower.Reads name read?) :
    (upper.shadowing lower).Reads name read? := by
  intro text isSet
  unfold Environment.shadowing at isSet
  cases here : upper name with
  | none =>
      rw [here] at isSet
      exact second text isSet
  | some other =>
      rw [here] at isSet
      exact first text (here.trans isSet)

/-- The value that one environment leaves is the present one of the next. -/
theorem value_shadowing (reads : upper.Reads name read?) (present : α) :
    (upper.shadowing lower).value name read? present =
      upper.value name read? (lower.value name read? present) := by
  cases isSet : upper name with
  | none =>
      rw [value_of_unset isSet]
      unfold value Environment.shadowing
      rw [isSet]
      rfl
  | some text =>
      obtain ⟨read, reading⟩ := Option.isSome_iff_exists.mp (reads text isSet)
      have inFront : upper.shadowing lower name = some text := by
        unfold Environment.shadowing
        rw [isSet]
        rfl
      rw [value_of_set isSet reading, value_of_set inFront reading]

theorem Readable.shadowing (first : upper.Readable) (second : lower.Readable) :
    (upper.shadowing lower).Readable where
  maxModifications := first.maxModifications.shadowing second.maxModifications
  maxRuntimeSecs := first.maxRuntimeSecs.shadowing second.maxRuntimeSecs
  deleteBatchSize := first.deleteBatchSize.shadowing second.deleteBatchSize
  updateBatchSize := first.updateBatchSize.shadowing second.updateBatchSize
  recordsPerTable := first.recordsPerTable.shadowing second.recordsPerTable
  skipLockedPass := first.skipLockedPass.shadowing second.skipLockedPass
  maxPassesPerPhase := first.maxPassesPerPhase.shadowing second.maxPassesPerPhase

end Environment

/-! ### Settings under an environment -/

namespace Settings

/-- The settings with the value of its variable for each of them. -/
def merged (settings : Settings) (environment : Environment) : Settings where
  maxModifications := environment.value "LFK_MAX_MODIFICATIONS"
    (Text.unsigned? Text.maxUnsigned64) settings.maxModifications
  maxRuntimeSecs := environment.value "LFK_MAX_RUNTIME_SECS"
    (Text.unsigned? Text.maxUnsigned64) settings.maxRuntimeSecs
  deleteBatchSize :=
    environment.value "LFK_DELETE_BATCH_SIZE" Text.signed? settings.deleteBatchSize
  updateBatchSize :=
    environment.value "LFK_UPDATE_BATCH_SIZE" Text.signed? settings.updateBatchSize
  recordsPerTable :=
    environment.value "LFK_RECORDS_PER_TABLE" Text.signed? settings.recordsPerTable
  skipLockedPass := environment.value "LFK_SKIP_LOCKED_PASS" Text.truth? settings.skipLockedPass
  maxPassesPerPhase := environment.value "LFK_MAX_PASSES_PER_PHASE"
    (fun chars => (Text.unsigned? Text.maxUnsigned32 chars).map some) settings.maxPassesPerPhase
  definitionsPath := environment "LFK_DEFINITIONS_PATH" <|> settings.definitionsPath

theorem overridden_eq_ok_iff {environment : Environment} {name : String}
    {read? : List Char → Option α} {present result : α} :
    overridden environment name read? present = .ok result ↔
      environment.Reads name read? ∧ result = environment.value name read? present := by
  cases isSet : environment name with
  | none =>
      have unset : overridden environment name read? present = .ok present := by
        unfold overridden
        rw [isSet]
      rw [unset, Environment.value_of_unset isSet, Except.ok.injEq, eq_comm,
        and_iff_right (Environment.reads_of_unset isSet)]
  | some text =>
      unfold overridden
      rw [isSet, Environment.reads_of_set isSet]
      cases reading : read? (Text.trim text.toList) with
      | none => simp [reading]
      | some read => simp [reading, Environment.value_of_set isSet reading, eq_comm]

/-- Overriding succeeds for readable environments, and each setting is overridden for itself. -/
theorem override_eq_ok_iff {settings result : Settings} {environment : Environment} :
    settings.override environment = .ok result ↔
      environment.Readable ∧ result = settings.merged environment := by
  constructor
  · intro ended
    obtain ⟨_, modifications, ended⟩ := exists_of_bind_eq_ok ended
    obtain ⟨_, runtime, ended⟩ := exists_of_bind_eq_ok ended
    obtain ⟨_, deleting, ended⟩ := exists_of_bind_eq_ok ended
    obtain ⟨_, updating, ended⟩ := exists_of_bind_eq_ok ended
    obtain ⟨_, loading, ended⟩ := exists_of_bind_eq_ok ended
    obtain ⟨_, skipping, ended⟩ := exists_of_bind_eq_ok ended
    obtain ⟨_, passes, ended⟩ := exists_of_bind_eq_ok ended
    cases ended
    rw [overridden_eq_ok_iff] at modifications runtime deleting updating loading skipping passes
    obtain ⟨modifications, rfl⟩ := modifications
    obtain ⟨runtime, rfl⟩ := runtime
    obtain ⟨deleting, rfl⟩ := deleting
    obtain ⟨updating, rfl⟩ := updating
    obtain ⟨loading, rfl⟩ := loading
    obtain ⟨skipping, rfl⟩ := skipping
    obtain ⟨passes, rfl⟩ := passes
    exact ⟨⟨modifications, runtime, deleting, updating, loading, skipping,
      (Environment.reads_map some).mp passes⟩, rfl⟩
  · rintro ⟨readable, rfl⟩
    have each {α : Type} {name : String} {read? : List Char → Option α}
        (reads : environment.Reads name read?) (present : α) :
        overridden environment name read? present = .ok (environment.value name read? present) :=
      overridden_eq_ok_iff.mpr ⟨reads, rfl⟩
    have passes := (Environment.reads_map some).mpr readable.maxPassesPerPhase
    simp only [override, each readable.maxModifications, each readable.maxRuntimeSecs,
      each readable.deleteBatchSize, each readable.updateBatchSize, each readable.recordsPerTable,
      each readable.skipLockedPass, each passes]
    rfl

theorem withOverrides_eq_ok_iff {settings result : Settings} {environment : Environment} :
    settings.withOverrides environment = .ok result ↔
      environment.Readable ∧ result = settings.merged environment ∧
        result.validate = .ok result := by
  constructor
  · intro ended
    obtain ⟨merged, overriding, accepted⟩ := exists_of_bind_eq_ok ended
    obtain ⟨readable, rfl⟩ := override_eq_ok_iff.mp overriding
    obtain rfl := eq_of_validate_eq_ok accepted
    exact ⟨readable, rfl, accepted⟩
  · rintro ⟨readable, rfl, accepted⟩
    unfold withOverrides
    rw [override_eq_ok_iff.mpr ⟨readable, rfl⟩]
    exact accepted

theorem merged_shadowing {upper : Environment} (readable : upper.Readable) (lower : Environment)
    (settings : Settings) :
    settings.merged (upper.shadowing lower) = (settings.merged lower).merged upper := by
  have path : (upper.shadowing lower "LFK_DEFINITIONS_PATH" <|> settings.definitionsPath) =
      (upper "LFK_DEFINITIONS_PATH" <|>
        lower "LFK_DEFINITIONS_PATH" <|> settings.definitionsPath) := by
    unfold Environment.shadowing
    cases upper "LFK_DEFINITIONS_PATH" with
    | none => rfl
    | some path => rfl
  have passes := (Environment.reads_map some).mpr readable.maxPassesPerPhase
  simp only [merged, path, Environment.value_shadowing readable.maxModifications,
    Environment.value_shadowing readable.maxRuntimeSecs,
    Environment.value_shadowing readable.deleteBatchSize,
    Environment.value_shadowing readable.updateBatchSize,
    Environment.value_shadowing readable.recordsPerTable,
    Environment.value_shadowing readable.skipLockedPass, Environment.value_shadowing passes]

/-- Overriding twice is overriding once, by the later environment in front of the earlier one. -/
theorem withOverrides_shadowing {settings between result : Settings} {lower upper : Environment}
    (first : settings.withOverrides lower = .ok between)
    (second : between.withOverrides upper = .ok result) :
    settings.withOverrides (upper.shadowing lower) = .ok result := by
  obtain ⟨below, rfl, _⟩ := withOverrides_eq_ok_iff.mp first
  obtain ⟨above, rfl, accepted⟩ := withOverrides_eq_ok_iff.mp second
  exact withOverrides_eq_ok_iff.mpr
    ⟨above.shadowing below, (merged_shadowing above lower settings).symm, accepted⟩

end Settings

end LooseKeys
