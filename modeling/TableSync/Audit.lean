/-
  TableSync/Audit.lean
  ====================
  **The audit trail** — one entry per round, from its start to its outcome.

  An entry is written when a round starts and completed when it ends, with its
  duration and either the counts and checkpoints of its result or the failure.
  The entry of a round that nobody started is not invented: its outcome is
  only logged.
-/
import TableSync.Round.Result
import TableSync.World

namespace TableSync

/-! ## 1. Recorders -/

/-- Receives the start and the outcome of every round; the start answers a handle for the outcome. -/
structure RunRecorder (σ : Type) where
  start : String → Effect σ Nat
  complete : Nat → RoundResult → Effect σ Unit
  fail : Nat → Failure → Option String → Effect σ Unit

/-! ## 2. The trail -/

/-- The entry of a round. -/
structure SyncRun where
  tableName : String
  status : RoundStatus := .running
  startedAt : Timestamp
  completedAt : Option Timestamp := none
  durationSeconds : Option Float := none
  totalRecords : Int := 0
  totalErrorRecords : Int := 0
  checkpointBefore : Option String := none
  checkpointAfter : Option String := none
  instantTime : Option String := none
  scheduledCompaction : Option String := none
  failure : Option Failure := none
  catalogSyncError : Option String := none
deriving Inhabited

/-- The entries of all rounds in the order of their starts. -/
structure AuditTrail where
  runs : List SyncRun := []
deriving Inhabited

namespace SyncRun

/-- The entry ends at a moment. -/
def endedAt (run : SyncRun) (now : Timestamp) : SyncRun :=
  { run with completedAt := some now, durationSeconds := some (now.secondsSince run.startedAt) }

/-- The entry of a round with a result. -/
def withResult (result : RoundResult) (run : SyncRun) : SyncRun :=
  { run with
    status := result.status
    totalRecords := result.totalRecords
    totalErrorRecords := result.totalErrorRecords
    checkpointBefore := result.resumedFrom
    checkpointAfter := result.checkpoint
    instantTime := result.instantTime
    scheduledCompaction := result.scheduledCompaction
    catalogSyncError := result.catalogSyncError }

/-- The entry of a round that failed. -/
def withFailure (failure : Failure) (checkpointBefore : Option String) (run : SyncRun) : SyncRun :=
  { run with status := .failed, checkpointBefore, failure := some failure }

/-- The text of the failure. -/
def errorMessage (run : SyncRun) : Option String := run.failure.map Failure.text

/-- The failure in detail. -/
def errorDetails (run : SyncRun) : Option Value := run.failure.map Failure.toValue

/-- An entry as a value. -/
def toValue (run : SyncRun) : Value :=
  .object [
    ("table_name", .text run.tableName),
    ("status", .text run.status.name),
    ("started_at", .text run.startedAt.iso),
    ("completed_at", Value.ofText? (run.completedAt.map Timestamp.iso)),
    ("duration_seconds", match run.durationSeconds with
      | some seconds => .float seconds
      | none => .null),
    ("total_records", .int run.totalRecords),
    ("total_error_records", .int run.totalErrorRecords),
    ("checkpoint_before", Value.ofText? run.checkpointBefore),
    ("checkpoint_after", Value.ofText? run.checkpointAfter),
    ("instant_time", Value.ofText? run.instantTime),
    ("scheduled_compaction", Value.ofText? run.scheduledCompaction),
    ("error_message", Value.ofText? run.errorMessage),
    ("error_details", run.errorDetails.getD .null),
    ("catalog_sync_error", Value.ofText? run.catalogSyncError)]

end SyncRun

namespace AuditTrail

/-- Start the entry of a round; the handle is its place in the trail. -/
def start (tableName : String) : Effect AuditTrail Nat := do
  let trail ← Effect.state
  let startedAt ← Effect.now
  Effect.setState ⟨trail.runs ++ [{ tableName := tableName, startedAt := startedAt }]⟩
  return trail.runs.length

/-- End the entry of a handle. -/
def finish (handle : Nat) (change : SyncRun → SyncRun) : Effect AuditTrail Unit := do
  let trail ← Effect.state
  let now ← Effect.now
  if handle < trail.runs.length then
    Effect.setState ⟨trail.runs.modify handle fun run => change (run.endedAt now)⟩
  else
    Effect.log .warning .recorder ("Sync run " ++ toString handle ++ " not found, outcome not recorded")

/-- The trail as a recorder. -/
def recorder : RunRecorder AuditTrail where
  start := start
  complete handle result := finish handle (SyncRun.withResult result)
  fail handle failure checkpointBefore := finish handle (SyncRun.withFailure failure checkpointBefore)

end AuditTrail

end TableSync
