/-
  TableSync/Timeline.lean
  =======================
  **Timelines** — the completed transactions of a table, oldest first.

  Every transaction of a table has an instant: a time that sorts, an action and
  a state.  A table's type decides which action its commits have.  A
  `Timeline` shows the completed commits of one table with their metadata, the
  map in which the checkpoint to resume from is kept.
-/
import TableSync.Validation
import TableSync.Json.Writer

namespace TableSync

/-! ## 1. Vocabulary -/

/-- How a table stores updates. -/
inductive TableType where
  | copyOnWrite
  | mergeOnRead
deriving DecidableEq, Repr, Inhabited

/-- What a transaction does. -/
inductive InstantAction where
  | commit
  | deltaCommit
  | compaction
deriving DecidableEq, Repr, Inhabited

/-- How far a transaction has come. -/
inductive InstantState where
  | requested
  | inflight
  | completed
  | rolledBack
deriving DecidableEq, Repr, Inhabited

namespace TableType

/-- The name of a table type. -/
def name : TableType → String
  | copyOnWrite => "COPY_ON_WRITE"
  | mergeOnRead => "MERGE_ON_READ"

/-- The table types by name. -/
def named : List (String × TableType) :=
  [(copyOnWrite.name, copyOnWrite), (mergeOnRead.name, mergeOnRead)]

/-- The action of a table's commits. -/
def commitAction : TableType → InstantAction
  | copyOnWrite => .commit
  | mergeOnRead => .deltaCommit

end TableType

namespace InstantAction

/-- The name of an action. -/
def name : InstantAction → String
  | commit => "commit"
  | deltaCommit => "deltacommit"
  | compaction => "compaction"

/-- The actions by name. -/
def named : List (String × InstantAction) :=
  [(commit.name, commit), (deltaCommit.name, deltaCommit), (compaction.name, compaction)]

/-- The action of the commits of a table type given by its name; no other name has one. -/
def ofTypeName (typeName : String) (now : Timestamp) : Except Failure InstantAction :=
  match Fields.get? TableType.named typeName with
  | some tableType => .ok tableType.commitAction
  | none => .error (.report .unsupportedTableType ("Unsupported table type :" ++ typeName)
      [("table_type", .text typeName)] now none)

end InstantAction

namespace InstantState

/-- The name of a state. -/
def name : InstantState → String
  | requested => "requested"
  | inflight => "inflight"
  | completed => "completed"
  | rolledBack => "rolled_back"

/-- The states by name. -/
def named : List (String × InstantState) :=
  [requested, inflight, completed, rolledBack].map fun state => (state.name, state)

end InstantState

/-! ## 2. Instants and their metadata -/

/-- A transaction on a timeline. -/
structure Instant where
  time : String
  action : InstantAction
  state : InstantState := .completed
deriving DecidableEq, Repr, Inhabited

/-- An instant from its description. -/
def Instant.read (record : Record) : Checked Instant :=
  .mk <$> Reader.required record "instant_time" Reader.text
    <*> Reader.required record "action" (Reader.choice InstantAction.named)
    <*> Reader.optional record "state" .completed (Reader.choice InstantState.named)

/-- An instant as a value. -/
def Instant.toValue (instant : Instant) : Value :=
  .object [("instant_time", .text instant.time), ("action", .text instant.action.name),
    ("state", .text instant.state.name)]

/-- An instant in a message. -/
def Instant.text (instant : Instant) : String :=
  "[" ++ instant.time ++ "__" ++ instant.action.name ++ "__" ++ Text.upper instant.state.name ++ "]"

/-- What is recorded with a completed commit. -/
structure CommitMetadata where
  extra : Fields String := []
  totalRecords : Int := 0
  totalErrorRecords : Int := 0
deriving DecidableEq, Repr, Inhabited

namespace CommitMetadata

/-- The text recorded under a name. -/
def get? (metadata : CommitMetadata) (name : String) : Option String := Fields.get? metadata.extra name

/-- The metadata as a value. -/
def toValue (metadata : CommitMetadata) : Value :=
  .object [
    ("extra_metadata", .object (metadata.extra.map fun field => (field.1, .text field.2))),
    ("total_records", .int metadata.totalRecords),
    ("total_error_records", .int metadata.totalErrorRecords)]

/-- The metadata as compact JSON. -/
def json (metadata : CommitMetadata) : String := Json.write Json.compact metadata.toValue

/-- Metadata from its description. -/
def read (record : Record) : Checked CommitMetadata :=
  .mk <$> Reader.optional record "extra_metadata" [] (Reader.object Reader.text)
    <*> Reader.optional record "total_records" 0 Reader.whole
    <*> Reader.optional record "total_error_records" 0 Reader.whole

end CommitMetadata

/-! ## 3. Timelines -/

/-- The completed commits of a table, oldest first, with their metadata by instant time. -/
structure Timeline where
  instants : List Instant := []
  details : Fields CommitMetadata := []
deriving DecidableEq, Repr, Inhabited

namespace Timeline

/-- A timeline from its description. -/
def read (record : Record) : Except Failure Timeline := do
  let instants ← match Fields.get? record "instants" with
    | some (.list items) => items.mapM fun item =>
      (Reader.described Instant.read item).toExcept "Instant"
    | _ => pure []
  let details ← match Fields.get? record "details" with
    | some (.object fields) => fields.mapM fun (time, metadata) => do
      return (time, ← (Reader.described CommitMetadata.read metadata).toExcept "CommitMetadata")
    | _ => pure []
  return { instants, details }

/-- A timeline as a value. -/
def toValue (timeline : Timeline) : Value :=
  .object [
    ("instants", .list (timeline.instants.map Instant.toValue)),
    ("details", .object (timeline.details.map fun (time, metadata) => (time, metadata.toValue)))]

/-- The latest completed commit. -/
def last? (timeline : Timeline) : Option Instant := timeline.instants.getLast?

/-- The metadata of an instant; without a record of it, the empty one. -/
def metadata (timeline : Timeline) (instant : Instant) : CommitMetadata :=
  (Fields.get? timeline.details instant.time).getD {}

/-- There is no completed commit. -/
def isEmpty (timeline : Timeline) : Bool := timeline.instants.isEmpty

/-- The number of completed commits. -/
def size (timeline : Timeline) : Nat := timeline.instants.length

end Timeline

/-- What a store reports about a table that exists. -/
structure TableMetadata where
  tableName : String
  tableType : TableType
  timeline : Timeline := {}
deriving DecidableEq, Repr, Inhabited

/-- What a store reports, as a value. -/
def TableMetadata.toValue (metadata : TableMetadata) : Value :=
  .object [("table_name", .text metadata.tableName), ("table_type", .text metadata.tableType.name),
    ("timeline", metadata.timeline.toValue)]

/-- What a catalog is told about a table. -/
structure TableDescription where
  tableName : String
  basePath : String
  schema : Option Value := none
  partitions : List String := []
deriving Inhabited

/-- What a catalog is told, as a value. -/
def TableDescription.toValue (description : TableDescription) : Value :=
  .object [("table_name", .text description.tableName), ("base_path", .text description.basePath),
    ("table_schema", description.schema.getD .null), ("partitions", .list (description.partitions.map .text))]

end TableSync
