/-
  TableSync/Store/Staging.lean
  ============================
  **Staging** — a write that nobody sees yet.

  A write puts records under an inflight instant.  A record is refused if it
  lacks a value that the write schema needs and, unless it is an upsert, if its
  key is visible in the table or occurred before in the batch.  The outcome
  counts the records of every partition and names each refused key with the
  reason of its first refusal.  A write fails, and stages nothing, where a key
  cannot be looked up or a column does not take a record that is not refused.
-/
import TableSync.Store.Basic
import TableSync.Store.Column

namespace TableSync.Store

/-! ## 1. The batch that is written -/

/-- The order in which a bulk insert writes: by partition, then by key. -/
def bulkOrder (a b : PreparedRecord) : Bool :=
  a.key.partitionPath < b.key.partitionPath ||
  (a.key.partitionPath == b.key.partitionPath && decide (a.key.recordKey ≤ b.key.recordKey))

/-- The batch in the order of writing. -/
def arranged (operation : WriteOperation) (records : List PreparedRecord) : List PreparedRecord :=
  if operation = .bulkInsert then records.mergeSort bulkOrder else records

/-! ## 2. Refusals -/

/-- The needed columns in which a payload has no value. -/
def missingFields (required : List String) (payload : Record) : List String :=
  required.filter fun name => match Fields.get? payload name with
    | none | some .null => true
    | some _ => false

/-- Why a record is refused, if it is: `seen` are the keys before it in the batch. -/
def refusal? (required : List String) (operation : WriteOperation) (isVisible : String → Bool)
    (seen : List String) (record : PreparedRecord) : Option String :=
  let key := record.key.recordKey
  let missing := missingFields required record.payload
  if !missing.isEmpty then some ("Missing value for non-nullable fields " ++ Value.textsLiteral missing)
  else if operation ≠ .upsert ∧ isVisible key then some "Record key already exists in table"
  else if operation ≠ .upsert ∧ seen.contains key then some "Duplicate record key in batch"
  else none

/-- Each record of a batch with the reason of its refusal, if any. -/
def examine (required : List String) (operation : WriteOperation) (isVisible : String → Bool) :
    List String → List PreparedRecord → List (PreparedRecord × Option String)
  | _, [] => []
  | seen, record :: rest =>
    (record, refusal? required operation isVisible seen record) ::
      examine required operation isVisible (record.key.recordKey :: seen) rest

/-! ## 3. The outcome -/

/-- Count one record in the status of its partition. -/
def count (status : WriteStatus) (record : PreparedRecord) (refused : Option String) : WriteStatus :=
  match refused with
  | none => { status with totalRecords := status.totalRecords + 1 }
  | some reason =>
    { status with
      totalRecords := status.totalRecords + 1
      totalErrorRecords := status.totalErrorRecords + 1
      errors := if Fields.has status.errors record.key.recordKey then status.errors
        else status.errors ++ [(record.key.recordKey, reason)] }

/-- Count one record; a partition gets a status when its first record comes. -/
def tally : List WriteStatus → PreparedRecord × Option String → List WriteStatus
  | [], (record, refused) => [count { partitionPath := record.key.partitionPath } record refused]
  | status :: rest, (record, refused) =>
    if status.partitionPath = record.key.partitionPath then count status record refused :: rest
    else status :: tally rest (record, refused)

/-- The outcome of a batch. -/
def outcomeOf (examined : List (PreparedRecord × Option String)) : WriteOutcome :=
  ⟨examined.foldl tally []⟩

/-- The row that a record is staged as. -/
def stagedRow (basePath time : String) (operation : WriteOperation) (record : PreparedRecord) : StagedRow :=
  { basePath, instantTime := time, recordKey := record.key.recordKey,
    partitionPath := record.key.partitionPath, operation, ordering := record.ordering,
    payload := record.payload }

/-- The records of a batch that are not refused. -/
def accepted (examined : List (PreparedRecord × Option String)) : List PreparedRecord :=
  (examined.filter fun entry => entry.2.isNone).map Prod.fst

/-- The instant that a write names is not inflight. -/
def notInflight (basePath : String) (time : Option String) (now : Timestamp) : Failure :=
  .report .tableStore ("Instant " ++ Value.optionText time ++ " is not inflight")
    [("instant_time", Value.ofText? time), ("base_path", .text basePath)] now none

/-- The keys of a batch can be looked up among the visible ones; an upsert does not look them up. -/
def canLookUp (operation : WriteOperation) (records : List PreparedRecord) : Bool :=
  operation == .upsert || records.all fun record => Column.takesText record.key.recordKey

/-- The columns take a record. -/
def isStorable (record : PreparedRecord) : Bool :=
  Column.takesKey record.key.recordKey && Column.takesKey record.key.partitionPath &&
    Column.takes record.ordering && Column.takesFields record.payload

/-- Stage a batch under an inflight instant. -/
def stage (store : Store) (config : WriteConfig) (operation : WriteOperation) (records : List PreparedRecord)
    (time : Option String) (now : Timestamp) : Except Failure (WriteOutcome × Store) :=
  match store.instant? config.basePath time with
  | none => .error (notInflight config.basePath time now)
  | some instant =>
    if instant.state ≠ .inflight then .error (notInflight config.basePath time now)
    else
      let examined := examine config.requiredFields operation (store.hasKey config.basePath) [] records
      if canLookUp operation records && (accepted examined).all isStorable then
        let rows := (accepted examined).map (stagedRow config.basePath instant.time operation)
        .ok (outcomeOf examined, { store with staged := store.staged ++ rows })
      else .error Column.refused

end TableSync.Store
