/-
  TableSync/Store/Rows.lean
  =========================
  **Rows as values** — showing what a store holds, and filling one.

  Tables are shown by path, instants by table and time, visible records by
  table and key, and staged records in the order of staging.  A store is filled
  from lists of rows in which most parts may be left out.
-/
import TableSync.Store.Basic

namespace TableSync

/-- An optional map of texts. -/
def Reader.textMap : Reader (Option (Fields String)) := Reader.orNull (Reader.object Reader.text)

namespace TableShell

/-- A table from its description. -/
def read (record : Record) : Checked TableShell :=
  (fun basePath tableName tableType payloadClass => { basePath, tableName, tableType, payloadClass }) <$>
    Reader.required record "base_path" Reader.text
    <*> Reader.required record "table_name" Reader.text
    <*> Reader.optional record "table_type" .copyOnWrite (Reader.choice TableType.named)
    <*> Reader.optional record "payload_class" "P" Reader.text

/-- A table as a value. -/
def toValue (shell : TableShell) : Value :=
  .object [
    ("base_path", .text shell.basePath),
    ("table_name", .text shell.tableName),
    ("table_type", .text shell.tableType.name),
    ("payload_class", .text shell.payloadClass),
    ("archive_folder", .text shell.archiveFolder),
    ("table_schema", shell.schema.getD .null)]

end TableShell

namespace InstantRow

/-- An instant from its description. -/
def read (record : Record) : Checked InstantRow :=
  (fun basePath time action state extra => { basePath, time, action, state, extra }) <$>
    Reader.required record "base_path" Reader.text
    <*> Reader.required record "instant_time" Reader.text
    <*> Reader.optional record "action" .commit (Reader.choice InstantAction.named)
    <*> Reader.optional record "state" .completed (Reader.choice InstantState.named)
    <*> Reader.optional record "extra_metadata" none Reader.textMap

/-- An instant as a value. -/
def toValue (row : InstantRow) : Value :=
  .object [
    ("base_path", .text row.basePath),
    ("instant_time", .text row.time),
    ("action", .text row.action.name),
    ("state", .text row.state.name),
    ("extra_metadata", match row.extra with
      | some extra => .object (extra.map fun field => (field.1, .text field.2))
      | none => .null),
    ("total_records", .int row.totalRecords),
    ("total_error_records", .int row.totalErrorRecords),
    ("completed_at", Value.ofText? (row.completedAt.map Timestamp.iso))]

/-- By table, then by time. -/
def precedes (a b : InstantRow) : Bool :=
  a.basePath < b.basePath || (a.basePath == b.basePath && decide (a.time ≤ b.time))

end InstantRow

/-- A number in its simplest form: a double without a fraction is the whole number that it equals, and a
whole number beyond 64 bits the nearest double. All other values stand as they are. -/
def Value.simplestNumber : Value → Value
  | .int n => if n.natAbs < twoTo 63 || n == -(twoTo 63 : Int) then .int n else .float (Float.ofInt n)
  | .float x =>
    let whole := (Number.double x).truncate
    if (Binary64.decode x).isWhole && whole.natAbs < twoTo 63 then .int whole else .float x
  | value => value

namespace VisibleRow

/-- A visible record from its description, as of a moment. -/
def read (now : Timestamp) (record : Record) : Checked VisibleRow :=
  (fun basePath recordKey partitionPath ordering payload commitTime =>
    { basePath, recordKey, partitionPath, ordering, payload, commitTime, updatedAt := now }) <$>
    Reader.required record "base_path" Reader.text
    <*> Reader.required record "record_key" Reader.text
    <*> Reader.optional record "partition_path" "" Reader.text
    <*> Reader.optional record "ordering_value" .null Reader.anything
    <*> Reader.optional record "payload" [] (Reader.object Reader.anything)
    <*> Reader.optional record "commit_time" "0" Reader.text

/-- A visible record as a value. -/
def toValue (row : VisibleRow) : Value :=
  .object [
    ("base_path", .text row.basePath),
    ("record_key", .text row.recordKey),
    ("partition_path", .text row.partitionPath),
    ("ordering_value", row.ordering.simplestNumber),
    ("payload", .object row.payload),
    ("commit_time", .text row.commitTime),
    ("updated_at", .text row.updatedAt.iso)]

/-- By table, then by record key. -/
def precedes (a b : VisibleRow) : Bool :=
  a.basePath < b.basePath || (a.basePath == b.basePath && decide (a.recordKey ≤ b.recordKey))

end VisibleRow

/-- A staged record as a value. -/
def StagedRow.toValue (row : StagedRow) : Value :=
  .object [
    ("record_key", .text row.recordKey),
    ("partition_path", .text row.partitionPath),
    ("operation", .text row.operation.name),
    ("ordering_value", row.ordering.simplestNumber),
    ("payload", .object row.payload)]

namespace Store

/-- A store filled from descriptions of its rows, as of a moment. -/
def read (record : Record) (now : Timestamp) : Checked Store :=
  (fun tables instants records => { tables, instants, records }) <$>
    Reader.optional record "tables" [] (Reader.list (Reader.described TableShell.read))
    <*> Reader.optional record "instants" [] (Reader.list (Reader.described InstantRow.read))
    <*> Reader.optional record "records" [] (Reader.list (Reader.described (VisibleRow.read now)))

/-- The instants by table and time. -/
def orderedInstants (store : Store) : List InstantRow := store.instants.mergeSort InstantRow.precedes

/-- Everything that a store holds. -/
def toFields (store : Store) : Fields Value :=
  [("tables", .list ((store.tables.mergeSort fun a b => decide (a.basePath ≤ b.basePath)).map TableShell.toValue)),
   ("instants", .list (store.orderedInstants.map InstantRow.toValue)),
   ("records", .list ((store.records.mergeSort VisibleRow.precedes).map VisibleRow.toValue)),
   ("staged", .list (store.staged.map StagedRow.toValue))]

end Store

end TableSync
