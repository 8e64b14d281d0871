/-
  TableSync/Store/Instant.lean
  ============================
  **Instants** — starting one, rolling it back, asking for compaction.

  A new instant takes the time of the clock and must come after every instant
  of its table, whatever their action and state; otherwise the timeline has not
  settled and starting may be tried again.  A rollback drops what is staged
  and is refused only by a completed instant.  A compaction is asked for only
  where commits have completed since the last one.
-/
import TableSync.Store.Basic

namespace TableSync.Store

/-! ## 1. New instants -/

/-- The clock is not past the timeline. -/
def notSettled (time latest : String) (now : Timestamp) : Failure :=
  .report .instantState "Found an instant at or after the requested instant time"
    [("instant_time", .text time), ("latest_instant", .text latest)] now none

/-- A new instant of a table broke a constraint of the store. -/
def timeTaken (basePath : String) (now : Timestamp) : Failure :=
  .report .instantState "Instant time already taken" [("base_path", .text basePath)] now
    (some (.outside .integrity "the table of the instant is not registered" false))

/-- Add an instant at the time of the clock. -/
def newInstant (store : Store) (basePath : String) (action : InstantAction) (state : InstantState)
    (now : Timestamp) : Except Failure (String × Store) :=
  let time := now.instantTime
  let row : InstantRow := { basePath, time, action, state }
  let added : Store := { store with instants := store.instants ++ [row] }
  match store.latestTime? basePath with
  | some latest => if time ≤ latest then .error (notSettled time latest now) else .ok (time, added)
  | none => if store.hasTable basePath then .ok (time, added) else .error (timeTaken basePath now)

/-- Start a commit of the kind that the client's table type has. -/
def startCommit (store : Store) (config : WriteConfig) (now : Timestamp) : Except Failure (String × Store) :=
  store.newInstant config.basePath config.tableType.commitAction .inflight now

/-! ## 2. Rollback -/

/-- An instant that can be rolled back: any that has not completed. -/
def canRollBack (row : InstantRow) : Bool := row.state != .completed

/-- Roll an instant back: what is staged under it is dropped. The answer says whether there was one to
roll back. -/
def rollback (store : Store) (config : WriteConfig) (time : Option String) (now : Timestamp) : Bool × Store :=
  match store.instant? config.basePath time with
  | none => (false, store)
  | some row =>
    if canRollBack row then
      (true, (store.dropStaged config.basePath row.time).updateInstant config.basePath row.time fun row =>
        { row with state := .rolledBack, completedAt := some now })
    else (false, store)

/-! ## 3. Compaction -/

/-- The time of the latest compaction of a table. -/
def lastCompaction? (store : Store) (basePath : String) : Option String :=
  greatest? (((store.instantsOf basePath).filter fun row => row.action == .compaction).map (·.time))

/-- The completed delta commits of a table after the latest compaction. -/
def uncompacted (store : Store) (basePath : String) : List InstantRow :=
  (store.instantsOf basePath).filter fun row =>
    row.action == .deltaCommit && row.state == .completed &&
    match store.lastCompaction? basePath with
    | some last => last < row.time
    | none => true

/-- The client's table is compacted by requests. -/
def requestsCompaction (config : WriteConfig) : Bool :=
  config.tableType == .mergeOnRead && !config.inlineCompaction

/-- Ask for a compaction if there is something to compact. -/
def scheduleCompaction (store : Store) (config : WriteConfig) (now : Timestamp) :
    Except Failure (Option String × Store) :=
  if requestsCompaction config && !(store.uncompacted config.basePath).isEmpty then do
    let (time, store) ← store.newInstant config.basePath .compaction .requested now
    return (some time, store)
  else .ok (none, store)

end TableSync.Store
