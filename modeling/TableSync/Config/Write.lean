/-
  TableSync/Config/Write.lean
  ===========================
  **The configuration of a write client** — what the commit protocol relies on.

  A store has defaults of its own; a sync overrides those that it depends on,
  applies the user's write properties on top, and then refuses the result if a
  property broke what the commit protocol assumes: no automatic commit, records
  combined before an upsert, and compaction as the sync is configured.
-/
import TableSync.Config.Sync
import TableSync.Schema

namespace TableSync

/-- The configuration of a write client. -/
structure WriteConfig where
  basePath : String
  tableName : String
  tableType : TableType := .copyOnWrite
  payloadClass : String := defaultPayloadClass
  autoCommit : Bool := true
  combineBeforeInsert : Bool := false
  combineBeforeUpsert : Bool := true
  inlineCompaction : Bool := false
  writeSchema : Option TableSchema := none
deriving DecidableEq, Repr, Inhabited

namespace WriteConfig

/-- A configuration from its description. -/
def read (record : Record) : Checked WriteConfig :=
  .mk <$> Reader.required record "base_path" Reader.text
    <*> Reader.required record "table_name" Reader.text
    <*> Reader.optional record "table_type" .copyOnWrite (Reader.choice TableType.named)
    <*> Reader.optional record "payload_class" defaultPayloadClass Reader.text
    <*> Reader.optional record "auto_commit" true Reader.truth
    <*> Reader.optional record "combine_before_insert" false Reader.truth
    <*> Reader.optional record "combine_before_upsert" true Reader.truth
    <*> Reader.optional record "inline_compaction" false Reader.truth
    <*> Reader.optional record "write_schema" none (Reader.orNull (Reader.described TableSchema.read))

/-- A configuration as a value. -/
def toValue (config : WriteConfig) : Value :=
  .object [
    ("base_path", .text config.basePath),
    ("table_name", .text config.tableName),
    ("table_type", .text config.tableType.name),
    ("payload_class", .text config.payloadClass),
    ("auto_commit", .bool config.autoCommit),
    ("combine_before_insert", .bool config.combineBeforeInsert),
    ("combine_before_upsert", .bool config.combineBeforeUpsert),
    ("inline_compaction", .bool config.inlineCompaction),
    ("write_schema", TableSchema.toValue? config.writeSchema)]

/-- Records are combined before this operation. -/
def combinesBefore (config : WriteConfig) (operation : WriteOperation) : Bool :=
  if operation = .upsert then config.combineBeforeUpsert else config.combineBeforeInsert

/-- The columns in which every written row needs a value. -/
def requiredFields (config : WriteConfig) : List String :=
  match config.writeSchema with
  | some schema => schema.requiredFields
  | none => []

end WriteConfig

namespace SyncConfig

/-- The write configuration that a round depends on. -/
def baseWriteConfig (config : SyncConfig) (provider : Option SchemaProvider) : WriteConfig :=
  { basePath := config.targetBasePath
    tableName := config.targetTable
    tableType := config.tableType
    payloadClass := config.payloadClass
    autoCommit := false
    combineBeforeInsert := config.filterDupes
    combineBeforeUpsert := true
    inlineCompaction := config.inlineCompaction
    writeSchema := provider.map SchemaProvider.writeSchema }

/-- The settings that the commit protocol relies on: name, value needed, value found. -/
def writeSettings (config : SyncConfig) (found : WriteConfig) : List (String × Bool × Bool) :=
  [("inline_compaction", config.inlineCompaction, found.inlineCompaction),
   ("auto_commit", false, found.autoCommit),
   ("combine_before_insert", config.filterDupes, found.combineBeforeInsert),
   ("combine_before_upsert", true, found.combineBeforeUpsert)]

/-- Refuse a write configuration at the first setting that breaks the commit protocol. -/
def checkWriteConfig (config : SyncConfig) (found : WriteConfig) (now : Timestamp) : Except Failure Unit :=
  match (config.writeSettings found).find? fun (_, expected, actual) => expected != actual with
  | none => .ok ()
  | some (setting, expected, actual) =>
    .error (.report .writeConfig ("Write config " ++ setting ++ " must be " ++ boolText expected)
      [("setting", .text setting), ("expected", .bool expected), ("actual", .bool actual)] now none)

/-- The write configuration with the user's properties applied and checked. -/
def writeConfig (config : SyncConfig) (provider : Option SchemaProvider) (now : Timestamp) :
    Except Failure WriteConfig := do
  let described := match (config.baseWriteConfig provider).toValue with
    | .object fields => fields
    | _ => []
  let found ← (WriteConfig.read (Fields.putAll described config.writeProps)).toExcept "WriteConfig"
  config.checkWriteConfig found now
  return found

end SyncConfig

end TableSync
