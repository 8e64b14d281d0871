/-
  TableSync/Round/Run.lean
  ========================
  **One round** — resume, read, write, commit.

  A round is all or nothing.  It finds out where to resume, reads what is new,
  and hands the records to the commit protocol together with the checkpoint
  that the next round resumes from.  A failure at any step is recorded and
  stays the outcome; a recorder that fails changes nothing.
-/
import TableSync.Record.Dedup
import TableSync.Round.Reading

namespace TableSync.Round

variable {σ : Type}

/-! ## 1. The table and its history -/

/-- The commits of the table; a table that is not there is made and has none. -/
def refreshTimeline (round : Round σ) : RoundStep σ (Option Timeline) := do
  let config := round.config
  if ← outside (round.store.metadataExists config.targetBasePath) then
    let metadata ← outside (round.store.openMetadata config.targetBasePath)
    if metadata.tableType ≠ config.tableType then
      say .warning ("Table " ++ config.targetBasePath ++ " is " ++ metadata.tableType.name ++
        " but sync configured for " ++ config.tableType.name)
    return some metadata.timeline
  else
    say .info ("Initializing table " ++ config.targetTable ++ " at " ++ config.targetBasePath)
    outside (round.store.initTable {
      basePath := config.targetBasePath
      tableName := config.targetTable
      tableType := config.tableType
      payloadClass := config.payloadClass })
    return none

/-- Where to resume. -/
def resumePoint (round : Round σ) : RoundStep σ ResumePoint := do
  ResumePoint.resolve (← round.refreshTimeline) round.config.checkpoint

/-! ## 2. From the source to the table -/

/-- Set the write client up if that has not happened yet. -/
def prepareClient (round : Round σ) (provider : Option SchemaProvider) : RoundStep σ Unit := do
  if (← Effect.state).client.isNone then
    if provider.isNone then
      say .warning ("No schema known for " ++ round.config.targetTable ++
        ", setting up write client without a write schema")
    discard (round.coordinator.ensureInitialized provider true)

/-- One record per key, if duplicates are to be filtered. -/
def withoutDuplicates (round : Round σ) (records : List PreparedRecord) : RoundStep σ (List PreparedRecord) :=
  if round.config.filterDupes && !records.isEmpty then Dedup.run records else pure records

/-- The result of a round without anything new. -/
def nothingNew (round : Round σ) (resume : ResumePoint) : RoundResult :=
  { status := .noNewData
    tableName := round.config.targetTable
    resumedFrom := resume.value
    checkpoint := resume.value
    checkpointReset := resume.resetMarker }

/-- The result of a round that committed. -/
def committedResult (round : Round σ) (resume : ResumePoint) (checkpoint : String) (commit : CommitResult) :
    RoundResult :=
  { status := .committed
    tableName := round.config.targetTable
    resumedFrom := resume.value
    checkpoint := some checkpoint
    checkpointReset := resume.resetMarker
    instantTime := some commit.instantTime
    totalRecords := commit.totalRecords
    totalErrorRecords := commit.totalErrorRecords
    scheduledCompaction := commit.scheduledCompaction
    catalogSyncError := commit.catalogSyncError }

/-- Write what was read and commit it with its checkpoint. -/
def write (round : Round σ) (resume : ResumePoint) (input : RoundInput) : RoundStep σ RoundResult := do
  round.prepareClient input.provider
  let records ← round.withoutDuplicates input.records
  if records.isEmpty then say .info "No new data, perform empty commit."
  let commit ← round.coordinator.write records input.checkpoint resume.resetMarker
    (some round.config.effective.operation.name)
  say .info ("Sync round committed " ++ commit.instantTime ++ " for " ++ round.config.targetTable ++ ": Records=" ++
    toString commit.totalRecords ++ ", Errors=" ++ toString commit.totalErrorRecords ++ ", Checkpoint=" ++
    input.checkpoint)
  return round.committedResult resume input.checkpoint commit

/-- Read what is new, and write it. -/
def sync (round : Round σ) (resume : ResumePoint) : RoundStep σ RoundResult := do
  match ← round.read resume with
  | none => return round.nothingNew resume
  | some input => round.write resume input

/-! ## 3. A round with its record -/

/-- Record the start of a round; the handle is needed for its outcome. -/
def recordStart (round : Round σ) : RoundStep σ (Option Nat) :=
  match round.recorder with
  | some recorder => do return some (← outside (recorder.start round.config.targetTable))
  | none => pure none

/-- Record an outcome; a failure to do so is only told in the log. -/
def recordOutcome (round : Round σ) (handle : Option Nat) (entry : RunRecorder σ → Nat → Effect σ Unit)
    (notice : String) : RoundStep σ Unit :=
  match round.recorder, handle with
  | some recorder, some handle => do
    match ← (outside (entry recorder handle)).attempt with
    | .ok () => pure ()
    | .error failure => say .error (notice ++ ": " ++ failure.text)
  | _, _ => pure ()

/-- Tell of a failure in the log. -/
def tellFailure (round : Round σ) (failure : Failure) : RoundStep σ Unit :=
  match failure with
  | .fault _ message .. =>
    Effect.logWith .error .round ("Sync round failed for " ++ round.config.targetTable ++ ": " ++ message) failure.toValue
  | _ => say .error ("Unexpected error in sync round for " ++ round.config.targetTable)

/-- End a round that failed; its failure is the outcome. -/
def failed (round : Round σ) (handle : Option Nat) (resumedFrom : Option String) (failure : Failure) :
    RoundStep σ RoundResult := do
  round.tellFailure failure
  round.recordOutcome handle (fun recorder handle => recorder.fail handle failure resumedFrom)
    "Failed to record sync round failure"
  Effect.fail failure

/-- End a round that has a result. -/
def succeeded (round : Round σ) (handle : Option Nat) (result : RoundResult) : RoundStep σ RoundResult := do
  round.recordOutcome handle (fun recorder handle => recorder.complete handle result)
    ("Failed to record sync round " ++ Value.optionText result.instantTime)
  return result

/-- Run one round. -/
def run (round : Round σ) : RoundStep σ RoundResult := do
  let handle ← round.recordStart
  match ← (round.resumePoint).attempt with
  | .error failure => round.failed handle none failure
  | .ok resume =>
    match ← (round.sync resume).attempt with
    | .error failure => round.failed handle resume.value failure
    | .ok result => round.succeeded handle result

end TableSync.Round
