/-
  TableSync/Round/Result.lean
  ===========================
  **What became of a round** — committed, or nothing new.

  A round that fails has no result; its failure is all there is.
-/
import TableSync.Validation

namespace TableSync

/-- What became of a round, as far as it is known. -/
inductive RoundStatus where
  | running
  | committed
  | noNewData
  | failed
deriving DecidableEq, Repr, Inhabited

/-- The name of a status. -/
def RoundStatus.name : RoundStatus → String
  | running => "running"
  | committed => "committed"
  | noNewData => "no_new_data"
  | failed => "failed"

/-- The statuses by name. -/
def RoundStatus.named : List (String × RoundStatus) :=
  [running, committed, noNewData, failed].map fun status => (status.name, status)

/-- The result of a round. -/
structure RoundResult where
  status : RoundStatus
  tableName : String
  resumedFrom : Option String := none
  checkpoint : Option String := none
  checkpointReset : Option String := none
  instantTime : Option String := none
  totalRecords : Int := 0
  totalErrorRecords : Int := 0
  scheduledCompaction : Option String := none
  catalogSyncError : Option String := none
deriving DecidableEq, Repr, Inhabited

namespace RoundResult

/-- A result from its description. -/
def read (record : Record) : Checked RoundResult :=
  let textOrNull (name : String) : Checked (Option String) :=
    Reader.optional record name none (Reader.orNull Reader.text)
  .mk <$> Reader.required record "status" (Reader.choice RoundStatus.named)
    <*> Reader.required record "table_name" Reader.text
    <*> textOrNull "resumed_from"
    <*> textOrNull "checkpoint"
    <*> textOrNull "checkpoint_reset"
    <*> textOrNull "instant_time"
    <*> Reader.optional record "total_records" 0 Reader.whole
    <*> Reader.optional record "total_error_records" 0 Reader.whole
    <*> textOrNull "scheduled_compaction"
    <*> textOrNull "catalog_sync_error"

/-- A result as a value. -/
def toValue (result : RoundResult) : Value :=
  .object [
    ("status", .text result.status.name),
    ("table_name", .text result.tableName),
    ("resumed_from", Value.ofText? result.resumedFrom),
    ("checkpoint", Value.ofText? result.checkpoint),
    ("checkpoint_reset", Value.ofText? result.checkpointReset),
    ("instant_time", Value.ofText? result.instantTime),
    ("total_records", .int result.totalRecords),
    ("total_error_records", .int result.totalErrorRecords),
    ("scheduled_compaction", Value.ofText? result.scheduledCompaction),
    ("catalog_sync_error", Value.ofText? result.catalogSyncError)]

/-- The round committed. -/
def committed (result : RoundResult) : Bool := result.status == .committed

end RoundResult

end TableSync
