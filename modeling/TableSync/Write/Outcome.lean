/-
  TableSync/Write/Outcome.lean
  ============================
  **What a write did** — per partition, how many records and which were refused.

  A write makes nothing visible; its outcome decides whether it is committed.
  The totals of an outcome are the sums over its partitions.
-/
import TableSync.Validation

namespace TableSync

/-- How records are written. -/
inductive WriteOperation where
  | insert
  | upsert
  | bulkInsert
deriving DecidableEq, Repr, Inhabited

namespace WriteOperation

/-- The name of an operation. -/
def name : WriteOperation → String
  | insert => "INSERT"
  | upsert => "UPSERT"
  | bulkInsert => "BULK_INSERT"

/-- The operations by name. -/
def named : List (String × WriteOperation) :=
  [insert, upsert, bulkInsert].map fun operation => (operation.name, operation)

end WriteOperation

/-- What a write did in one partition: the counts, and per refused key why. -/
structure WriteStatus where
  partitionPath : String := ""
  totalRecords : Int := 0
  totalErrorRecords : Int := 0
  globalError : Option String := none
  errors : Fields String := []
deriving DecidableEq, Repr, Inhabited

namespace WriteStatus

/-- Something went wrong in the partition. -/
def hasErrors (status : WriteStatus) : Bool := 0 < status.totalErrorRecords || status.globalError.isSome

/-- A status from its description. -/
def read (record : Record) : Checked WriteStatus :=
  .mk <$> Reader.optional record "partition_path" "" Reader.text
    <*> Reader.optional record "total_records" 0 Reader.whole
    <*> Reader.optional record "total_error_records" 0 Reader.whole
    <*> Reader.optional record "global_error" none (Reader.orNull Reader.text)
    <*> Reader.optional record "errors" [] (Reader.object Reader.text)

/-- A status as a value. -/
def toValue (status : WriteStatus) : Value :=
  .object [
    ("partition_path", .text status.partitionPath),
    ("total_records", .int status.totalRecords),
    ("total_error_records", .int status.totalErrorRecords),
    ("global_error", Value.ofText? status.globalError),
    ("errors", .object (status.errors.map fun field => (field.1, .text field.2)))]

end WriteStatus

/-- What a write did. -/
structure WriteOutcome where
  statuses : List WriteStatus := []
deriving DecidableEq, Repr, Inhabited

namespace WriteOutcome

/-- The records of the write. -/
def totalRecords (outcome : WriteOutcome) : Int := outcome.statuses.foldr (fun status n => status.totalRecords + n) 0

/-- The refused records of the write. -/
def totalErrorRecords (outcome : WriteOutcome) : Int := outcome.statuses.foldr (fun status n => status.totalErrorRecords + n) 0

/-- Some record was refused. -/
def hasErrors (outcome : WriteOutcome) : Bool := 0 < outcome.totalErrorRecords

/-- The partitions in which something went wrong. -/
def errorStatuses (outcome : WriteOutcome) : List WriteStatus := outcome.statuses.filter WriteStatus.hasErrors

/-- Of those the first `limit`; a negative limit leaves out as many at the end. -/
def errorStatusesWithin (outcome : WriteOutcome) (limit : Int) : List WriteStatus :=
  let failed := outcome.errorStatuses
  if limit < 0 then failed.take (failed.length - limit.natAbs) else failed.take limit.toNat

/-- An outcome from its description. -/
def read (record : Record) : Checked WriteOutcome :=
  .mk <$> Reader.optional record "statuses" [] (Reader.list (Reader.described WriteStatus.read))

/-- An outcome as a value. -/
def toValue (outcome : WriteOutcome) : Value :=
  .object [("statuses", .list (outcome.statuses.map WriteStatus.toValue))]

end WriteOutcome

end TableSync
