/-
  TableSync/Store/Basic.lean
  ==========================
  **The store** — tables, their instants, visible records and staged records.

  Four lists hold everything that readers and writers of the tables can see.
  An instant is identified by its table and its time; a staged record names the
  instant that it is staged under, and a visible record is identified by its
  table and its record key.  All operations are functions on a `Store`; an
  operation that fails answers no store, so nothing of it stays.
-/
import TableSync.Config.Write
import TableSync.Record.Dedup

namespace TableSync

/-! ## 1. Rows -/

/-- A registered table. The schema is the one of the last commit that had one. -/
structure TableShell where
  basePath : String
  tableName : String
  tableType : TableType
  payloadClass : String
  archiveFolder : String := "archived"
  schema : Option Value := none
deriving Inhabited

/-- A transaction on the timeline of a table. -/
structure InstantRow where
  basePath : String
  time : String
  action : InstantAction
  state : InstantState
  extra : Option (Fields String) := none
  totalRecords : Int := 0
  totalErrorRecords : Int := 0
  completedAt : Option Timestamp := none
deriving DecidableEq, Repr, Inhabited

/-- A record that readers see. -/
structure VisibleRow where
  basePath : String
  recordKey : String
  partitionPath : String
  ordering : Value
  payload : Record
  commitTime : String
  updatedAt : Timestamp
deriving Inhabited

/-- A record written under an instant and not yet visible. -/
structure StagedRow where
  basePath : String
  instantTime : String
  recordKey : String
  partitionPath : String
  operation : WriteOperation
  ordering : Value
  payload : Record
deriving Inhabited

/-- Everything that the tables hold. Instants and staged records stand in the order of their creation. -/
structure Store where
  tables : List TableShell := []
  instants : List InstantRow := []
  records : List VisibleRow := []
  staged : List StagedRow := []
deriving Inhabited

namespace InstantRow

/-- The row is the instant of a table at a time. -/
def isAt (basePath time : String) (row : InstantRow) : Bool := row.basePath == basePath && row.time == time

/-- The instant as a timeline shows it. -/
def toInstant (row : InstantRow) : Instant := ⟨row.time, row.action, row.state⟩

/-- What was recorded with the instant. -/
def metadata (row : InstantRow) : CommitMetadata :=
  ⟨row.extra.getD [], row.totalRecords, row.totalErrorRecords⟩

end InstantRow

/-- The row is staged under the instant of a table at a time. -/
def StagedRow.isUnder (basePath time : String) (row : StagedRow) : Bool :=
  row.basePath == basePath && row.instantTime == time

namespace Store

/-! ## 2. Views -/

/-- The table at a path. -/
def table? (store : Store) (basePath : String) : Option TableShell :=
  store.tables.find? fun shell => shell.basePath == basePath

/-- A table is registered at a path. -/
def hasTable (store : Store) (basePath : String) : Bool := (store.table? basePath).isSome

/-- The instants of a table in the order of their creation. -/
def instantsOf (store : Store) (basePath : String) : List InstantRow :=
  store.instants.filter fun row => row.basePath == basePath

/-- The instant of a table at a time, if a time is given at all. -/
def instant? (store : Store) (basePath : String) (time : Option String) : Option InstantRow :=
  time.bind fun time => store.instants.find? (InstantRow.isAt basePath time)

/-- The visible records of a table. -/
def recordsOf (store : Store) (basePath : String) : List VisibleRow :=
  store.records.filter fun row => row.basePath == basePath

/-- The record staged under an instant, in the order of staging. -/
def stagedUnder (store : Store) (basePath time : String) : List StagedRow :=
  store.staged.filter (StagedRow.isUnder basePath time)

/-- A record key is visible in a table. -/
def hasKey (store : Store) (basePath recordKey : String) : Bool :=
  store.records.any fun row => row.basePath == basePath && row.recordKey == recordKey

/-- The greatest of a list of times. -/
def greatest? : List String → Option String
  | [] => none
  | time :: rest =>
    match greatest? rest with
    | none => some time
    | some other => some (if time < other then other else time)

/-- The greatest instant time of a table, whatever the action and state. -/
def latestTime? (store : Store) (basePath : String) : Option String :=
  greatest? ((store.instantsOf basePath).map (·.time))

/-! ## 3. Changes -/

/-- Change the instant of a table at a time. -/
def updateInstant (store : Store) (basePath time : String) (change : InstantRow → InstantRow) : Store :=
  { store with instants := store.instants.map fun row => if row.isAt basePath time then change row else row }

/-- Drop what is staged under an instant. -/
def dropStaged (store : Store) (basePath time : String) : Store :=
  { store with staged := store.staged.filter fun row => !row.isUnder basePath time }

/-- Change the shell of a table. -/
def updateTable (store : Store) (basePath : String) (change : TableShell → TableShell) : Store :=
  { store with tables := store.tables.map fun shell => if shell.basePath == basePath then change shell else shell }

end Store

end TableSync
