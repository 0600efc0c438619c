/-
Module: LooseKeys.Json.Records
Purpose: The values of a cleanup as JSON: settings, relations, records of the log and reports.
Main exports: readSettings, readRelation, readDeletedRecord, readPassResult, readBudgetStats,
  readRelationSummary, readBatchOutcome, readStampedReport, and a writer for each
-/
import LooseKeys.Json.Reading
import LooseKeys.Sweep
import LooseKeys.Timestamp.Written

/-!
Each record names its fields once, in `…Shape`, and is read and written by these names.
-/

namespace LooseKeys.Json

open LooseKeys.Reading

/-! ## Choices -/

def readStrategy : Reader Strategy := readVariant Strategy.names Strategy.ofName?

def readModificationKind : Reader ModificationKind :=
  readVariant [ModificationKind.deletion.name, ModificationKind.update.name] (fun name =>
    [ModificationKind.deletion, .update].find? (·.name = name))

def readRecordStatus : Reader RecordStatus :=
  readVariant [RecordStatus.pending.name, RecordStatus.processed.name] RecordStatus.ofName?

def readLockMode : Reader LockMode :=
  readVariant [LockMode.blocking.name, LockMode.skipLocked.name] (fun name =>
    [LockMode.blocking, .skipLocked].find? (·.name = name))

def readBatchState : Reader BatchState :=
  readVariant
    [BatchState.runningRelations.name, BatchState.finalizing.name, BatchState.done.name]
    (fun name => [BatchState.runningRelations, .finalizing, .done].find? (·.name = name))

/-! ## Settings -/

def settingsShape : Shape where
  name := "CleanupConfig"
  strict := true
  optional := true
  fields :=
    [.of "max_modifications" readUnsigned64, .of "max_runtime_secs" readUnsigned64,
      .of "delete_batch_size" readSigned64, .of "update_batch_size" readSigned64,
      .of "records_per_table" readSigned64, .of "skip_locked_pass" readBoolean,
      .of "max_passes_per_phase" (readOption readUnsigned32),
      .of "definitions_path" (readOption readPath)]

/-- Reads settings, without validating them; a field that is not given has its default. -/
def readSettings : Reader Settings := fun value => do
  let given ← readRecord settingsShape value
  let default : Settings := {}
  return {
    maxModifications :=
      ← given.optional "max_modifications" readUnsigned64 default.maxModifications
    maxRuntimeSecs := ← given.optional "max_runtime_secs" readUnsigned64 default.maxRuntimeSecs
    deleteBatchSize := ← given.optional "delete_batch_size" readSigned64 default.deleteBatchSize
    updateBatchSize := ← given.optional "update_batch_size" readSigned64 default.updateBatchSize
    recordsPerTable := ← given.optional "records_per_table" readSigned64 default.recordsPerTable
    skipLockedPass := ← given.optional "skip_locked_pass" readBoolean default.skipLockedPass
    maxPassesPerPhase :=
      ← given.optional "max_passes_per_phase" (readOption readUnsigned32)
        default.maxPassesPerPhase
    definitionsPath :=
      ← given.optional "definitions_path" (readOption readPath) default.definitionsPath }

def writeSettings (settings : Settings) : Value :=
  .object [
    ("definitions_path", .ofOption .text settings.definitionsPath),
    ("delete_batch_size", .integer settings.deleteBatchSize),
    ("max_modifications", .ofNat settings.maxModifications),
    ("max_passes_per_phase", .ofOption .ofNat settings.maxPassesPerPhase),
    ("max_runtime_secs", .ofNat settings.maxRuntimeSecs),
    ("records_per_table", .integer settings.recordsPerTable),
    ("skip_locked_pass", .boolean settings.skipLockedPass),
    ("update_batch_size", .integer settings.updateBatchSize)]

/-! ## Relations and the log -/

def relationShape : Shape where
  name := "RelationDefinition"
  fields :=
    [.of "parent_table" readText, .of "child_table" readText, .of "column" readText,
      .of "strategy" readStrategy, .of "primary_key" readText]

def readRelation : Reader Relation := fun value => do
  let given ← readRecord relationShape value
  return {
    parentTable := ← given.required "parent_table" readText
    childTable := ← given.required "child_table" readText
    column := ← given.required "column" readText
    strategy := ← given.required "strategy" readStrategy
    primaryKey := ← given.required "primary_key" readText }

def writeRelation (relation : Relation) : Value :=
  .object [
    ("child_table", .text relation.childTable),
    ("column", .text relation.column),
    ("parent_table", .text relation.parentTable),
    ("primary_key", .text relation.primaryKey),
    ("strategy", .text relation.strategy.name)]

/-- Reads a point in time. -/
def readTimestamp : Reader Timestamp
  | .text text =>
      match Timestamp.parse text with
      | .ok timestamp => .ok timestamp
      | .error fault => .error (.stated fault.text)
  | value => value.refuse "an RFC 3339 formatted date and time string"

def deletedRecordShape : Shape where
  name := "DeletedRecord"
  fields :=
    [.of "id" readSigned64, .of "fully_qualified_table_name" readText,
      .of "primary_key_value" readSigned64, .of "status" readRecordStatus,
      .of "created_at" readTimestamp]

def readDeletedRecord : Reader DeletedRecord := fun value => do
  let given ← readRecord deletedRecordShape value
  return {
    id := ← given.required "id" readSigned64
    table := ← given.required "fully_qualified_table_name" readText
    primaryKey := ← given.required "primary_key_value" readSigned64
    status := ← given.required "status" readRecordStatus
    createdAt := ← given.required "created_at" readTimestamp }

def writeDeletedRecord (record : DeletedRecord) : Value :=
  .object [
    ("created_at", .text record.createdAt.render),
    ("fully_qualified_table_name", .text record.table),
    ("id", .integer record.id),
    ("primary_key_value", .integer record.primaryKey),
    ("status", .text record.status.name)]

/-! ## Reports -/

def passResultShape : Shape where
  name := "CleanupResult"
  fields :=
    [.of "table" readText, .of "affected_rows" readUnsigned64,
      .of "kind" readModificationKind, .of "lock_mode" readLockMode]

def readPassResult : Reader PassResult := fun value => do
  let given ← readRecord passResultShape value
  return {
    table := ← given.required "table" readText
    affectedRows := ← given.required "affected_rows" readUnsigned64
    kind := ← given.required "kind" readModificationKind
    lockMode := ← given.required "lock_mode" readLockMode }

def writePassResult (result : PassResult) : Value :=
  .object [
    ("affected_rows", .ofNat result.affectedRows),
    ("kind", .text result.kind.name),
    ("lock_mode", .text result.lockMode.name),
    ("table", .text result.table)]

def readTally : Reader Tally := fun value =>
  (readMap readUnsigned64 value).map SortedMap.ofList

def writeTally (tally : Tally) : Value :=
  .object (tally.entries.map (fun entry => (entry.1, .ofNat entry.2)))

def budgetStatsShape : Shape where
  name := "TrackerStats"
  fields :=
    [.of "deletions" readTally, .of "updates" readTally, .of "total" readUnsigned64]

def readBudgetStats : Reader BudgetStats := fun value => do
  let given ← readRecord budgetStatsShape value
  return {
    deletions := ← given.required "deletions" readTally
    updates := ← given.required "updates" readTally
    total := ← given.required "total" readUnsigned64 }

def writeBudgetStats (stats : BudgetStats) : Value :=
  .object [
    ("deletions", writeTally stats.deletions),
    ("total", .ofNat stats.total),
    ("updates", writeTally stats.updates)]

def relationSummaryShape : Shape where
  name := "RelationSummary"
  fields :=
    [.of "child_table" readText, .of "column" readText, .of "strategy" readStrategy,
      .of "skip_locked_rows" readUnsigned64, .of "blocking_rows" readUnsigned64,
      .of "passes" readUnsigned32, .of "drained" readBoolean]

def readRelationSummary : Reader RelationSummary := fun value => do
  let given ← readRecord relationSummaryShape value
  return {
    childTable := ← given.required "child_table" readText
    column := ← given.required "column" readText
    strategy := ← given.required "strategy" readStrategy
    skipLockedRows := ← given.required "skip_locked_rows" readUnsigned64
    blockingRows := ← given.required "blocking_rows" readUnsigned64
    passes := ← given.required "passes" readUnsigned32
    drained := ← given.required "drained" readBoolean }

def writeRelationSummary (summary : RelationSummary) : Value :=
  .object [
    ("blocking_rows", .ofNat summary.blockingRows),
    ("child_table", .text summary.childTable),
    ("column", .text summary.column),
    ("drained", .boolean summary.drained),
    ("passes", .ofNat summary.passes),
    ("skip_locked_rows", .ofNat summary.skipLockedRows),
    ("strategy", .text summary.strategy.name)]

def batchOutcomeShape : Shape where
  name := "BatchOutcome"
  fields :=
    [.of "parent_table" readText, .of "state" readBatchState, .of "finalized" readBoolean,
      .of "marked_processed" readUnsigned64, .of "over_limit" readBoolean,
      .of "relations" (readList readRelationSummary)]

def readBatchOutcome : Reader BatchOutcome := fun value => do
  let given ← readRecord batchOutcomeShape value
  return {
    parentTable := ← given.required "parent_table" readText
    state := ← given.required "state" readBatchState
    finalized := ← given.required "finalized" readBoolean
    markedProcessed := ← given.required "marked_processed" readUnsigned64
    overLimit := ← given.required "over_limit" readBoolean
    relations := ← given.required "relations" (readList readRelationSummary) }

def writeBatchOutcome (outcome : BatchOutcome) : Value :=
  .object [
    ("finalized", .boolean outcome.finalized),
    ("marked_processed", .ofNat outcome.markedProcessed),
    ("over_limit", .boolean outcome.overLimit),
    ("parent_table", .text outcome.parentTable),
    ("relations", .ofList writeRelationSummary outcome.relations),
    ("state", .text outcome.state.name)]

def stampedReportShape : Shape where
  name := "ProcessReport"
  fields :=
    [.of "batches" (readList readBatchOutcome), .of "stats" readBudgetStats,
      .of "over_limit" readBoolean, .of "started_at" readTimestamp,
      .of "finished_at" readTimestamp]

def readStampedReport : Reader StampedReport := fun value => do
  let given ← readRecord stampedReportShape value
  let report : SweepReport := {
    batches := ← given.required "batches" (readList readBatchOutcome)
    stats := ← given.required "stats" readBudgetStats
    overLimit := ← given.required "over_limit" readBoolean }
  return {
    report
    startedAt := ← given.required "started_at" readTimestamp
    finishedAt := ← given.required "finished_at" readTimestamp }

def writeStampedReport (stamped : StampedReport) : Value :=
  .object [
    ("batches", .ofList writeBatchOutcome stamped.report.batches),
    ("finished_at", .text stamped.finishedAt.render),
    ("over_limit", .boolean stamped.report.overLimit),
    ("started_at", .text stamped.startedAt.render),
    ("stats", writeBudgetStats stamped.report.stats)]

end LooseKeys.Json
