/-
  TableSync/Store/Table.lean
  ==========================
  **Tables** — registering one, reading its timeline, describing it.

  A table is registered once; registering it again changes nothing.  Its
  timeline holds the completed instants of the commit action of its own type in
  the order of their times.  Its description lists the partitions that some
  visible record is in.
-/
import TableSync.Store.Basic

namespace TableSync.Store

/-- There is no table at a path. -/
def noTable (basePath : String) (now : Timestamp) : Failure :=
  .report .tableStore ("No table metadata at " ++ basePath) [("base_path", .text basePath)] now none

/-- Register a table unless its path is taken; its name must be new. -/
def initTable (store : Store) (shell : TableShell) : Except Failure Store :=
  if store.hasTable shell.basePath then .ok store
  else if store.tables.any fun other => other.tableName == shell.tableName then
    .error (.outside .integrity "the name of the table is taken" false)
  else .ok { store with tables := store.tables ++ [shell] }

/-- The completed commits of a table in the order of their times. -/
def completedCommits (store : Store) (basePath : String) (tableType : TableType) : List InstantRow :=
  ((store.instantsOf basePath).filter fun row =>
    row.action == tableType.commitAction && row.state == .completed).mergeSort
    fun a b => decide (a.time ≤ b.time)

/-- The timeline of a table of a type. -/
def timelineOf (store : Store) (basePath : String) (tableType : TableType) : Timeline :=
  let rows := store.completedCommits basePath tableType
  { instants := rows.map InstantRow.toInstant
    details := rows.map fun row => (row.time, row.metadata) }

/-- What is known about a table. -/
def openMetadata (store : Store) (basePath : String) (now : Timestamp) : Except Failure TableMetadata :=
  match store.table? basePath with
  | none => .error (noTable basePath now)
  | some shell => .ok ⟨shell.tableName, shell.tableType, store.timelineOf basePath shell.tableType⟩

/-- The partitions of a table that hold records, without the empty one, each once and in order. -/
def partitions (store : Store) (basePath : String) : List String :=
  (((store.recordsOf basePath).map (·.partitionPath)).filter fun path => !path.isEmpty).eraseDups.mergeSort
    fun a b => decide (a ≤ b)

/-- What a catalog is told about a table. -/
def describeTable (store : Store) (basePath : String) (now : Timestamp) : Except Failure TableDescription :=
  match store.table? basePath with
  | none => .error (noTable basePath now)
  | some shell => .ok ⟨shell.tableName, basePath, shell.schema, store.partitions basePath⟩

end TableSync.Store
