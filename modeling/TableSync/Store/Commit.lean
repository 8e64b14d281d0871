/-
  TableSync/Store/Commit.lean
  ===========================
  **Commit** — what is staged becomes visible, all of it or nothing.

  Inserted rows are applied first, in the order of staging, and none of their
  keys may be visible; upserted rows follow and replace the row of their key.
  The instant completes in the same step, with the metadata and the counts that
  the commit was given.  A commit that cannot be applied or recorded is refused
  and leaves the store as it was.
-/
import TableSync.Store.Basic
import TableSync.Store.Column

namespace TableSync.Store

/-! ## 1. Applying rows -/

/-- The visible row that a staged one becomes. -/
def visibleRow (now : Timestamp) (row : StagedRow) : VisibleRow :=
  { basePath := row.basePath, recordKey := row.recordKey, partitionPath := row.partitionPath,
    ordering := row.ordering, payload := row.payload, commitTime := row.instantTime, updatedAt := now }

/-- Two rows are versions of one record. -/
def sameRecord (a b : VisibleRow) : Bool := a.basePath == b.basePath && a.recordKey == b.recordKey

/-- Add a row whose key must be new. -/
def insertRow (rows : List VisibleRow) (row : VisibleRow) : Option (List VisibleRow) :=
  if rows.any (sameRecord row) then none else some (rows ++ [row])

/-- Replace the row of a key, or add one. -/
def upsertRow : List VisibleRow → VisibleRow → List VisibleRow
  | [], row => [row]
  | old :: rest, row => if sameRecord old row then row :: rest else old :: upsertRow rest row

/-- Apply staged rows: the inserted ones, then the upserted ones. -/
def applyStaged (rows : List VisibleRow) (staged : List StagedRow) (now : Timestamp) :
    Option (List VisibleRow) := do
  let (upserts, inserts) := staged.partition fun row => row.operation == .upsert
  let inserted ← (inserts.map (visibleRow now)).foldlM insertRow rows
  return (upserts.map (visibleRow now)).foldl upsertRow inserted

/-! ## 2. The transaction -/

/-- Why a commit is refused. -/
inductive Refusal where
  | notInflight
  | keyTaken
  | unrecordable
deriving DecidableEq, Repr

/-- The columns take what a commit records: its metadata, its counts, and the schema that goes with its table. -/
def isRecordable (config : WriteConfig) (outcome : WriteOutcome) (extra : Fields String) : Bool :=
  Column.takesTexts extra && Column.takesCount outcome.totalRecords && Column.takesCount outcome.totalErrorRecords &&
    config.writeSchema.all fun schema => Column.takes schema.toValue

/-- Complete an instant. -/
def completed (outcome : WriteOutcome) (extra : Fields String) (now : Timestamp) (row : InstantRow) : InstantRow :=
  { row with
    state := .completed
    extra := some extra
    totalRecords := outcome.totalRecords
    totalErrorRecords := outcome.totalErrorRecords
    completedAt := some now }

/-- Record the schema of a commit with its table. -/
def recordSchema (store : Store) (config : WriteConfig) : Store :=
  match config.writeSchema with
  | none => store
  | some schema => store.updateTable config.basePath fun shell => { shell with schema := some schema.toValue }

/-- Commit an instant, or say why it is refused. -/
def commit (store : Store) (config : WriteConfig) (time : Option String) (outcome : WriteOutcome)
    (extra : Fields String) (now : Timestamp) : Except Refusal Store :=
  match store.instant? config.basePath time with
  | none => .error .notInflight
  | some instant =>
    if instant.state ≠ .inflight then .error .notInflight
    else
      match applyStaged store.records (store.stagedUnder config.basePath instant.time) now with
      | none => .error .keyTaken
      | some records =>
        if isRecordable config outcome extra then
          .ok ((({ store with records }.dropStaged config.basePath instant.time).updateInstant
            config.basePath instant.time (completed outcome extra now)).recordSchema config)
        else .error .unrecordable

end TableSync.Store
