/-
  TableSync/Record/Prepared.lean
  ==============================
  **Prepared records** — a raw record with its key and its ordering value.

  Of two records with one key the one with the larger ordering value is the
  newer.  The ordering field must be there in every record, though its value
  may be null; `prepareAll` gives every record or the failure of the first
  that cannot be prepared.
-/
import TableSync.Record.Key
import TableSync.World

namespace TableSync

/-- A record in the form in which a table takes it. -/
structure PreparedRecord where
  key : RecordKey
  ordering : Value := .null
  payload : Record := []
deriving Inhabited

namespace PreparedRecord

/-- A prepared record from the values of its parts. -/
def ofParts (key partition ordering : Value) (payload : Record) : Except Failure PreparedRecord := do
  let key ← (RecordKey.read [("record_key", key), ("partition_path", partition)]).toExcept "RecordKey"
  return { key, ordering, payload }

/-- A prepared record as a value. -/
def toValue (record : PreparedRecord) : Value :=
  .object [("record_key", .text record.key.recordKey), ("partition_path", .text record.key.partitionPath),
    ("ordering_value", record.ordering), ("payload", .object record.payload)]

end PreparedRecord

/-- How records are prepared: how their keys are taken, and which field orders them. -/
structure RecordPreparer where
  keyOf : Value → Timestamp → Except Failure RecordKey
  orderingField : String

namespace RecordPreparer

/-- Prepare one record. -/
def prepare (preparer : RecordPreparer) (record : Record) (now : Timestamp) : Except Failure PreparedRecord := do
  let key ← preparer.keyOf (.object record) now
  match Value.lookup (.object record) preparer.orderingField with
  | .ok ordering => return { key, ordering, payload := record }
  | .error cause =>
    throw (.report .recordPreparation ("Ordering field '" ++ preparer.orderingField ++ "' not found in record")
      [("ordering_field", .text preparer.orderingField), ("record_key", .text key.recordKey)] now (some cause))

/-- Prepare all records in order, up to the first failure. -/
def prepareAll (preparer : RecordPreparer) (records : List Record) (now : Timestamp) :
    Except Failure (List PreparedRecord) :=
  match records with
  | [] => .ok []
  | record :: rest => do
    let first ← preparer.prepare record now
    let others ← prepareAll preparer rest now
    return first :: others

end RecordPreparer

end TableSync
