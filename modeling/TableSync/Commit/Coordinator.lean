/-
  TableSync/Commit/Coordinator.lean
  =================================
  **The commit protocol** — write, then commit with the checkpoint or roll back.

  A coordinator owns the one write client of a sync.  A write starts an instant
  (again if the timeline has not settled), stages the batch, and decides by the
  count of refused records: the instant is committed together with the
  checkpoint to resume from, or rolled back.  What follows a commit (a request
  for compaction, publishing to the catalog) never undoes it.
-/
import TableSync.Catalog
import TableSync.Retry
import TableSync.Timeline.Resume

namespace TableSync

/-! ## 1. State -/

/-- How far the last write has come. -/
inductive CommitPhase where
  | idle
  | commitStarted
  | committed
  | rolledBack
deriving DecidableEq, Repr, Inhabited

/-- The name of a phase. -/
def CommitPhase.name : CommitPhase → String
  | idle => "idle"
  | commitStarted => "commit_started"
  | committed => "committed"
  | rolledBack => "rolled_back"

/-- The state of a coordinator beside the state of everything outside it. -/
structure CommitState (σ : Type) where
  outside : σ
  phase : CommitPhase := .idle
  client : Option (WriteClient σ) := none
  provider : Option SchemaProvider := none
  closed : Bool := false

/-- What a coordinator reports about a successful commit. -/
structure CommitResult where
  instantTime : String
  totalRecords : Int := 0
  totalErrorRecords : Int := 0
  scheduledCompaction : Option String := none
  catalogSyncError : Option String := none
deriving DecidableEq, Repr, Inhabited

/-- A report as a value. -/
def CommitResult.toValue (result : CommitResult) : Value :=
  .object [
    ("instant_time", .text result.instantTime),
    ("total_records", .int result.totalRecords),
    ("total_error_records", .int result.totalErrorRecords),
    ("scheduled_compaction", Value.ofText? result.scheduledCompaction),
    ("catalog_sync_error", Value.ofText? result.catalogSyncError)]

/-- What a coordinator works with. -/
structure Coordinator (σ : Type) where
  config : SyncConfig
  store : TableStore σ
  catalog : Option (CatalogTrigger σ) := none
  retry : RetryPolicy := RetryPolicy.commitStart
  onClientCreated : WriteClient σ → Effect σ Unit := fun _ => pure ()
  errorLogLimit : Int := 100

namespace Coordinator

variable {σ α : Type}

/-- A step outside the coordinator. -/
def outside (step : Effect σ α) : Effect (CommitState σ) α :=
  Effect.within (fun state => state.outside) (fun s state => { state with outside := s }) step

/-- Change the state of the coordinator. -/
def modify (change : CommitState σ → CommitState σ) : Effect (CommitState σ) Unit := do
  Effect.setState (change (← Effect.state))

/-- Enter a phase. -/
def enter (phase : CommitPhase) : Effect (CommitState σ) Unit := modify fun state => { state with phase }

/-- Log a line of the commit protocol. -/
def say (level : LogLevel) (message : String) : Effect (CommitState σ) Unit :=
  Effect.log level .coordinator message

/-! ## 2. The write client -/

/-- Fail with a failure of writing that names the table. -/
def refuse (coordinator : Coordinator σ) (message : String) : Effect (CommitState σ) α :=
  Effect.report .write message [("table_name", .text coordinator.config.targetTable)] none

/-- The write client, created at the first call that knows a schema provider or may do without. -/
def ensureInitialized (coordinator : Coordinator σ) (provider : Option SchemaProvider)
    (allowMissingSchema : Bool) : Effect (CommitState σ) (Option (WriteClient σ)) := do
  let state ← Effect.state
  if state.closed then
    coordinator.refuse "Write coordinator is closed"
  else if state.client.isSome then
    return state.client
  else if provider.isNone && !allowMissingSchema then
    return none
  else
    say .info "Setting up write client"
    let config ← Effect.ofExcept (coordinator.config.writeConfig provider (← Effect.now))
    modify fun state => { state with provider }
    let client ← outside (coordinator.store.createWriteClient config)
    modify fun state => { state with client := some client }
    outside (coordinator.onClientCreated client)
    return some client

/-- Release the write client; a second call changes nothing. -/
def close : Effect (CommitState σ) Unit := do
  match (← Effect.state).client with
  | some client =>
    say .info "Closing write client"
    modify fun state => { state with client := none }
    outside client.close
  | none => pure ()
  modify fun state => { state with closed := true }

/-- The write client, which must be there. -/
def requireClient (coordinator : Coordinator σ) : Effect (CommitState σ) (WriteClient σ) := do
  match (← Effect.state).client with
  | some client => return client
  | none => coordinator.refuse "Write client has not been set up, schema provider unknown"

/-! ## 3. The steps of a write -/

/-- Start an instant, again if the policy says so. -/
def startCommit (coordinator : Coordinator σ) : Effect (CommitState σ) String := do
  let client ← coordinator.requireClient
  coordinator.retry.run (outside client.startCommit) "start a new commit"

/-- Stage a batch by the operation of a name. -/
def dispatch (client : WriteClient σ) (operation : String) (records : List PreparedRecord) (instantTime : String) :
    Effect (CommitState σ) WriteOutcome :=
  match Fields.get? WriteOperation.named operation with
  | some known => outside (client.write known records instantTime)
  | none => Effect.report .write ("Unknown operation :" ++ operation) [("operation", .text operation)] none

/-- The facts of a rollback that did not happen. -/
def rollbackFacts (instantTime : String) (writeFailure : Failure) : Fields Value :=
  [("instant_time", .text instantTime), ("write_failure", .text writeFailure.text)]

/-- Roll an instant back because of a failure; not being able to is a failure that names the first. -/
def rollBack (coordinator : Coordinator σ) (instantTime : String) (writeFailure : Failure) :
    Effect (CommitState σ) Unit := do
  let client ← coordinator.requireClient
  match ← (outside (client.rollback instantTime)).attempt with
  | .error cause =>
    Effect.report .rollback ("Rollback of " ++ instantTime ++ " failed") (rollbackFacts instantTime writeFailure)
      (some cause)
  | .ok false =>
    Effect.report .rollback ("Rollback of " ++ instantTime ++ " was refused by the table store")
      (rollbackFacts instantTime writeFailure) none
  | .ok true =>
    enter .rolledBack
    say .info ("Rolled back instant " ++ instantTime)

/-- The lines that tell of refused records, at most `limit` of them about single keys. -/
def errorLines : Nat → List WriteStatus → List String
  | 0, _ => []
  | _, [] => []
  | limit, status :: rest =>
    let ofPartition := match status.globalError with
      | some error => if error.isEmpty then [] else ["Global error : " ++ error]
      | none => []
    let ofKeys := (status.errors.take limit).map fun entry =>
      "Error for key:" ++ entry.1 ++ " is " ++ entry.2
    ofPartition ++ ofKeys ++ errorLines (limit - ofKeys.length) rest

/-- Log the refused records of an outcome up to the limit. -/
def logErrors (coordinator : Coordinator σ) (outcome : WriteOutcome) : Effect (CommitState σ) Unit := do
  say .error ("Printing out the top " ++ toString coordinator.errorLogLimit ++ " errors")
  for line in errorLines coordinator.errorLogLimit.toNat outcome.errorStatuses do
    say .error line

/-- The metadata of a commit: the checkpoint, and the override that was in force. -/
def commitMetadata (checkpoint : String) (resetMarker : Option String) : Fields String :=
  (checkpointKey, checkpoint) :: (resetMarker.toList.map fun marker => (resetMarkerKey, marker))

/-- Ask for a compaction after a commit; a failure is logged and dropped. -/
def requestCompaction (coordinator : Coordinator σ) : Effect (CommitState σ) (Option String) := do
  let request : Effect (CommitState σ) (Option String) := do
    let client ← coordinator.requireClient
    outside client.scheduleCompaction
  match ← request.attempt with
  | .error failure =>
    say .warning ("Scheduling compaction failed after a successful commit: " ++ failure.text)
    return none
  | .ok none => return none
  | .ok (some instantTime) =>
    say .info ("Scheduled compaction at instant " ++ instantTime)
    return some instantTime

/-- Publish the table after a commit of records. -/
def publish (coordinator : Coordinator σ) (records : List PreparedRecord) :
    Effect (CommitState σ) (Option String) :=
  match coordinator.catalog with
  | some trigger => if records.isEmpty then pure none else outside trigger.sync
  | none => pure none

/-! ## 4. A write -/

/-- Refused records and their total in a message. -/
def countsText (outcome : WriteOutcome) : String :=
  "Errors/Total=" ++ toString outcome.totalErrorRecords ++ "/" ++ toString outcome.totalRecords

/-- Roll back because records were refused. -/
def rejectOutcome (coordinator : Coordinator σ) (instantTime : String) (outcome : WriteOutcome) :
    Effect (CommitState σ) α := do
  say .error ("Delta sync found errors when writing. " ++ countsText outcome)
  coordinator.logErrors outcome
  let failure := Failure.report .writeErrorsExceeded ("Commit " ++ instantTime ++ " failed and rolled-back !")
    [("instant_time", .text instantTime), ("total_records", .int outcome.totalRecords),
     ("total_error_records", .int outcome.totalErrorRecords)] (← Effect.now) none
  coordinator.rollBack instantTime failure
  Effect.fail failure

/-- Commit a staged batch, and do what follows a commit. -/
def finish (coordinator : Coordinator σ) (client : WriteClient σ) (records : List PreparedRecord)
    (checkpoint : String) (resetMarker : Option String) (instantTime : String) (outcome : WriteOutcome) :
    Effect (CommitState σ) CommitResult := do
  let committed ← outside (client.commit instantTime outcome (commitMetadata checkpoint resetMarker))
  if committed then
    enter .committed
    say .info ("Commit " ++ instantTime ++ " successful!")
    let scheduledCompaction ←
      if coordinator.config.asyncCompaction then coordinator.requestCompaction else pure none
    let catalogSyncError ← coordinator.publish records
    return { instantTime, totalRecords := outcome.totalRecords,
             totalErrorRecords := outcome.totalErrorRecords, scheduledCompaction, catalogSyncError }
  else
    say .info ("Commit " ++ instantTime ++ " failed!")
    Effect.report .commitFailed ("Commit " ++ instantTime ++ " failed!")
      [("instant_time", .text instantTime), ("checkpoint", .text checkpoint)] none

/-- The operation of a write: the one that is named, else the one of the configuration. -/
def operationName (coordinator : Coordinator σ) (operation : Option String) : String :=
  let configured := coordinator.config.effective.operation.name
  match operation with
  | some name => if name.isEmpty then configured else name
  | none => configured

/-- Write a batch and commit it together with its checkpoint, or roll it back and fail. -/
def write (coordinator : Coordinator σ) (records : List PreparedRecord) (checkpoint : String)
    (resetMarker : Option String) (operation : Option String) : Effect (CommitState σ) CommitResult := do
  let client ← coordinator.requireClient
  enter .idle
  let instantTime ← coordinator.startCommit
  enter .commitStarted
  say .info ("Starting commit  : " ++ instantTime)
  match ← (dispatch client (coordinator.operationName operation) records instantTime).attempt with
  | .error failure =>
    say .error ("Write for instant " ++ instantTime ++ " failed, rolling back: " ++ failure.text)
    coordinator.rollBack instantTime failure
    Effect.fail failure
  | .ok outcome =>
    if outcome.hasErrors then
      if coordinator.config.commitOnErrors then
        say .warning ("Some records failed to be merged but forcing commit since commit_on_errors set. " ++
          countsText outcome)
        coordinator.finish client records checkpoint resetMarker instantTime outcome
      else coordinator.rejectOutcome instantTime outcome
    else coordinator.finish client records checkpoint resetMarker instantTime outcome

end Coordinator

end TableSync
