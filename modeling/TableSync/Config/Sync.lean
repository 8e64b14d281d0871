/-
  TableSync/Config/Sync.lean
  ==========================
  **The configuration of a sync** — one target table and how rounds treat it.

  A configuration never changes.  What a round adjusts is derived from it:
  `effective` turns an upsert into an insert when duplicates are filtered
  within the batch, and the mode of compaction follows from the table type
  and from whether rounds run continuously.
-/
import TableSync.Timeline
import TableSync.Write.Outcome
import TableSync.Text.Split

namespace TableSync

/-- The largest number of things that is no limit in practice. -/
def unlimited : Int := 9223372036854775807

/-- The payload class of a table unless another one is named. -/
def defaultPayloadClass : String := "OverwriteWithLatestPayload"

/-- The configuration of a sync. -/
structure SyncConfig where
  targetTable : String
  targetBasePath : String
  tableType : TableType := .copyOnWrite
  payloadClass : String := defaultPayloadClass
  operation : WriteOperation := .upsert
  sourceLimit : Int := unlimited
  orderingField : String := "ts"
  recordKeyField : String := "id"
  partitionPathField : Option String := none
  filterDupes : Bool := false
  commitOnErrors : Bool := false
  checkpoint : Option String := none
  transformerClassNames : List String := []
  continuousMode : Bool := false
  forceDisableCompaction : Bool := false
  minIntervalSeconds : Int := 0
  enableCatalogSync : Bool := false
  props : Record := []
  writeProps : Record := []
deriving Inhabited

namespace SyncConfig

/-! ## 1. Reading -/

/-- Class names as a list, or as one comma separated text. -/
def readClassNames : Reader (List String)
  | .null => Checked.fits []
  | .text s => Checked.fits (Text.splitNonBlank ',' s)
  | v => Reader.list Reader.text v

/-- A configuration from its description. -/
def read (record : Record) : Checked SyncConfig :=
  .mk <$> Reader.required record "target_table" (Reader.textWithin 1 200)
    <*> Reader.required record "target_base_path" (Reader.textWithin 1 500)
    <*> Reader.optional record "table_type" .copyOnWrite (Reader.choice TableType.named)
    <*> Reader.optional record "payload_class" defaultPayloadClass Reader.text
    <*> Reader.optional record "operation" .upsert (Reader.choice WriteOperation.named)
    <*> Reader.optional record "source_limit" unlimited (Reader.wholeAbove 0)
    <*> Reader.optional record "source_ordering_field" "ts" Reader.text
    <*> Reader.optional record "record_key_field" "id" Reader.text
    <*> Reader.optional record "partition_path_field" none (Reader.orNull Reader.text)
    <*> Reader.optional record "filter_dupes" false Reader.truth
    <*> Reader.optional record "commit_on_errors" false Reader.truth
    <*> Reader.optional record "checkpoint" none (Reader.orNull Reader.text)
    <*> Reader.optional record "transformer_class_names" [] readClassNames
    <*> Reader.optional record "continuous_mode" false Reader.truth
    <*> Reader.optional record "force_disable_compaction" false Reader.truth
    <*> Reader.optional record "min_sync_interval_seconds" 0 (Reader.wholeFrom 0)
    <*> Reader.optional record "enable_catalog_sync" false Reader.truth
    <*> Reader.optional record "props" [] (Reader.object Reader.anything)
    <*> Reader.optional record "write_props" [] (Reader.object Reader.anything)

/-- A configuration from its description, or the failure that says what is wrong with it. -/
def ofRecord (record : Record) : Except Failure SyncConfig := (read record).toExcept "SyncConfig"

/-- A configuration as a value. -/
def toValue (config : SyncConfig) : Value :=
  .object [
    ("target_table", .text config.targetTable),
    ("target_base_path", .text config.targetBasePath),
    ("table_type", .text config.tableType.name),
    ("payload_class", .text config.payloadClass),
    ("operation", .text config.operation.name),
    ("source_limit", .int config.sourceLimit),
    ("source_ordering_field", .text config.orderingField),
    ("record_key_field", .text config.recordKeyField),
    ("partition_path_field", Value.ofText? config.partitionPathField),
    ("filter_dupes", .bool config.filterDupes),
    ("commit_on_errors", .bool config.commitOnErrors),
    ("checkpoint", Value.ofText? config.checkpoint),
    ("transformer_class_names", .list (config.transformerClassNames.map .text)),
    ("continuous_mode", .bool config.continuousMode),
    ("force_disable_compaction", .bool config.forceDisableCompaction),
    ("min_sync_interval_seconds", .int config.minIntervalSeconds),
    ("enable_catalog_sync", .bool config.enableCatalogSync),
    ("props", .object config.props),
    ("write_props", .object config.writeProps)]

/-! ## 2. What a round derives -/

/-- Filtering duplicates within the batch replaces the resolution of conflicts on write. -/
def dedupReplacesMerge (config : SyncConfig) : Bool := config.filterDupes && config.operation == .upsert

/-- The configuration that a round runs with. -/
def effective (config : SyncConfig) : SyncConfig :=
  if config.dedupReplacesMerge then { config with operation := .insert } else config

/-- The table is one that needs compaction and compaction is not switched off. -/
def compacts (config : SyncConfig) : Bool :=
  !config.forceDisableCompaction && config.tableType == .mergeOnRead

/-- Compaction is requested after a commit and runs elsewhere. -/
def asyncCompaction (config : SyncConfig) : Bool := config.continuousMode && config.compacts

/-- Compaction is part of the write. -/
def inlineCompaction (config : SyncConfig) : Bool := !config.continuousMode && config.compacts

/-- An effective configuration is its own effective configuration. -/
theorem effective_effective (config : SyncConfig) : config.effective.effective = config.effective := by
  cases h : config.dedupReplacesMerge with
  | false =>
    have same : config.effective = config := if_neg (by simp [h])
    rw [same, same]
  | true =>
    have changed : config.effective = { config with operation := .insert } := if_pos h
    rw [changed]
    exact if_neg (by simp [dedupReplacesMerge])

/-- At most one kind of compaction is in force. -/
theorem not_async_and_inline (config : SyncConfig) :
    ¬(config.asyncCompaction = true ∧ config.inlineCompaction = true) := by
  cases h : config.continuousMode <;> simp [asyncCompaction, inlineCompaction, h]

end SyncConfig

end TableSync
