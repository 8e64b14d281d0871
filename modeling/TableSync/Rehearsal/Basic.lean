/-
  TableSync/Rehearsal/Basic.lean
  ==============================
  **Rehearsals** — a sync against services that follow a script.

  A rehearsal holds the store and the audit trail of a sync beside scripts for
  everything that may answer or fail: a queue of responses for requests, and
  per operation a queue of faults.  An entry of a fault queue lets one call
  through (null), fails it, or answers in its place.  What was asked of the
  services stays on record.
-/
import TableSync.Audit
import TableSync.Csv.Directory
import TableSync.Commit.Coordinator
import TableSync.Failure.Reading
import TableSync.Store.Rows

namespace TableSync

/-! ## 1. Scripts -/

/-- The store and the audit trail of a sync, and the scripts of the services around it. -/
structure Rehearsal where
  warehouse : Warehouse := {}
  trail : AuditTrail := {}
  faults : Fields (List Value) := []
  responses : List Value := []
  requests : List Http.Request := []
  clientsAnnounced : Nat := 0
  directory : Option (List Csv.StoredFile) := some []
  feeds : List Value := []
  asked : Option (Option String × Int) := none
deriving Inhabited

/-- The value of a field of an object, if it is there. -/
def Value.part? (value : Value) (name : String) : Option Value :=
  match value with
  | .object fields => Fields.get? fields name
  | _ => none

namespace Rehearsal

variable {α : Type}

/-- Change a rehearsal. -/
def modify (change : Rehearsal → Rehearsal) : Effect Rehearsal Unit := do
  Effect.setState (change (← Effect.state))

/-- A step on the store. -/
def inWarehouse (step : Effect Warehouse α) : Effect Rehearsal α :=
  Effect.within (fun r => r.warehouse) (fun warehouse r => { r with warehouse }) step

/-- A step on the audit trail. -/
def inTrail (step : Effect AuditTrail α) : Effect Rehearsal α :=
  Effect.within (fun r => r.trail) (fun trail r => { r with trail }) step

/-- Add entries to the fault queue of an operation. -/
def addFaults (name : String) (entries : List Value) (rehearsal : Rehearsal) : Rehearsal :=
  { rehearsal with
    faults := Fields.put rehearsal.faults name ((Fields.get? rehearsal.faults name).getD [] ++ entries) }

/-- Take the next entry of the fault queue of an operation. -/
def takeFault (name : String) : Effect Rehearsal Value := do
  match Fields.get? (← Effect.state).faults name with
  | some (entry :: rest) =>
    modify fun r => { r with faults := Fields.put r.faults name rest }
    return entry
  | _ => return .null

/-- An operation as its fault queue has it: the real one, a failure, or an answer in its place. -/
def withFaults (name : String) (answer : Value → Effect Rehearsal α) (real : Effect Rehearsal α) :
    Effect Rehearsal α := do
  let entry ← takeFault name
  match entry.part? "raise", entry.part? "return" with
  | some failure, _ => Effect.fail (.ofValue (← Effect.now) failure)
  | none, some value => answer value
  | none, none => real

/-! ## 2. Scripted services -/

/-- The text that a value is. -/
def textOf? : Value → Option String
  | .text s => some s
  | _ => none

/-- The body that a response describes: its text, or a value as JSON. -/
def bodyOf (response : Value) : String :=
  match response.part? "text" with
  | some text => (textOf? text).getD ""
  | none => Json.write Json.compact ((response.part? "json").getD (.list []))

/-- The response that is described. -/
def responseOf (response : Value) : Http.Response :=
  { status := match response.part? "status" with
      | some (.int n) => n.toNat
      | _ => 200
    headers := match response.part? "headers" with
      | some (.object fields) => fields.map fun field => (field.1, (textOf? field.2).getD "")
      | _ => []
    body := bodyOf response }

/-- A transport that answers from the script; beyond its end with an empty list. -/
def transport : Http.Transport Rehearsal := fun request => do
  let script := (← Effect.state).responses
  modify fun r => { r with responses := script.drop 1, requests := r.requests ++ [request] }
  let next := script.head?.getD (.object [])
  match next.part? "raise" with
  | some failure => Effect.fail (.ofValue (← Effect.now) failure)
  | none => return responseOf next

/-- An outcome given in place of a write. -/
def outcomeOf (value : Value) : Effect Rehearsal WriteOutcome :=
  Effect.ofExcept ((Reader.described WriteOutcome.read value).toExcept "WriteOutcome")

/-- The truth value that is given in place of an answer. -/
def truthOf (value : Value) : Effect Rehearsal Bool := return !value.isBlank

/-- A write client under its fault queues. -/
def writeClient (inner : WriteClient Warehouse) : WriteClient Rehearsal where
  config := inner.config
  startCommit := withFaults "start_commit" (fun v => return v.display) (inWarehouse inner.startCommit)
  write operation records time :=
    withFaults "write" outcomeOf (inWarehouse (inner.write operation records time))
  commit time outcome extra := withFaults "commit" truthOf (inWarehouse (inner.commit time outcome extra))
  rollback time := withFaults "rollback" truthOf (inWarehouse (inner.rollback time))
  scheduleCompaction :=
    withFaults "schedule_compaction" (fun v => return textOf? v) (inWarehouse inner.scheduleCompaction)
  close := inWarehouse inner.close

/-- There is no answer that could be given in place of the real one. -/
def noStandIn (_ : Value) : Effect Rehearsal α :=
  Effect.fail (.outside .attribute "the stand-in has none of the parts that are needed" false)

/-- The store under its fault queues. -/
def tableStore : TableStore Rehearsal where
  metadataExists basePath := inWarehouse (Warehouse.metadataExists basePath)
  openMetadata basePath :=
    withFaults "open_metadata" noStandIn (inWarehouse (Warehouse.openMetadata basePath))
  initTable shell := withFaults "init_table" (fun _ => pure ()) (inWarehouse (Warehouse.initTable shell))
  describeTable basePath :=
    withFaults "describe_table" noStandIn (inWarehouse (Warehouse.describeTable basePath))
  createWriteClient config := do
    return writeClient (← inWarehouse (Warehouse.tableStore.createWriteClient config))

/-- The audit trail under its fault queues; a stand-in for a start answers a handle without an entry. -/
def recorder : RunRecorder Rehearsal where
  start tableName :=
    withFaults "recorder.start" (fun _ => return (← Effect.state).trail.runs.length + 1000000)
      (inTrail (AuditTrail.start tableName))
  complete handle result :=
    withFaults "recorder.complete" (fun _ => pure ()) (inTrail (AuditTrail.recorder.complete handle result))
  fail handle failure checkpointBefore :=
    withFaults "recorder.fail" (fun _ => pure ())
      (inTrail (AuditTrail.recorder.fail handle failure checkpointBefore))

/-- Count the write clients that were announced. -/
def announce (_ : WriteClient Rehearsal) : Effect Rehearsal Unit :=
  modify fun r => { r with clientsAnnounced := r.clientsAnnounced + 1 }

/-! ## 3. Single operations of a history -/

/-- The fault queue of an operation, if it has one. -/
def faultName? : Warehouse.Operation → Option String
  | .initTable .. => some "init_table"
  | .openMetadata .. => some "open_metadata"
  | .describeTable .. => some "describe_table"
  | .startCommit .. => some "start_commit"
  | .write .. => some "write"
  | .commit .. => some "commit"
  | .rollback .. => some "rollback"
  | .scheduleCompaction .. => some "schedule_compaction"
  | _ => none

/-- The reply that is given in place of the one of an operation. -/
def standIn (operation : Warehouse.Operation) (value : Value) : Effect Rehearsal Warehouse.Reply :=
  match operation with
  | .startCommit .. => return .instant value.display
  | .write .. => do return .outcome (← outcomeOf value)
  | .commit .. | .rollback .. => do return .truth (← truthOf value)
  | .scheduleCompaction .. => return .compaction (textOf? value)
  | .initTable .. => return .done
  | _ => noStandIn value

/-- Perform an operation under its fault queue. -/
def perform (operation : Warehouse.Operation) : Effect Rehearsal Warehouse.Reply :=
  let real := inWarehouse (Warehouse.perform operation)
  match faultName? operation with
  | some name => withFaults name (standIn operation) real
  | none => real

/-- Put the descriptions of a rehearsal together: the rows of its store and its fault queues. -/
def ofDescription (seed faults : Value) (now : Timestamp) : Except Failure Rehearsal := do
  let store ← match seed with
    | .object rows => (Store.read rows now).toExcept "Store"
    | _ => pure {}
  let faults := match faults with
    | .object fields => fields.map fun field => match field.2 with
      | .list entries => (field.1, entries)
      | _ => (field.1, [])
    | _ => []
  return { warehouse := { store }, faults }

end Rehearsal

end TableSync
