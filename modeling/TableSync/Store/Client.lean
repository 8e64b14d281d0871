/-
  TableSync/Store/Client.lean
  ===========================
  **Write clients** — who may write to a table, and how.

  `WriteClient` and `TableStore` say what a sync needs of a store: two-phase
  writing under an instant, and operations on whole tables.  `Warehouse` is the
  store of this library with the clients that it has handed out; each client
  keeps its configuration, and a closed one refuses every further call.
  `Warehouse.perform` runs one operation of a history, so that histories of any
  number of clients can be written down as lists.
-/
import TableSync.Store.Table
import TableSync.Store.Instant
import TableSync.Store.Staging
import TableSync.Store.Commit

namespace TableSync

/-! ## 1. What a sync needs -/

/-- A two-phase writer for one table. -/
structure WriteClient (σ : Type) where
  config : WriteConfig
  startCommit : Effect σ String
  write : WriteOperation → List PreparedRecord → String → Effect σ WriteOutcome
  commit : String → WriteOutcome → Fields String → Effect σ Bool
  rollback : String → Effect σ Bool
  scheduleCompaction : Effect σ (Option String)
  close : Effect σ Unit

/-- Operations on whole tables, and the making of write clients. -/
structure TableStore (σ : Type) where
  metadataExists : String → Effect σ Bool
  openMetadata : String → Effect σ TableMetadata
  initTable : TableShell → Effect σ Unit
  describeTable : String → Effect σ TableDescription
  createWriteClient : WriteConfig → Effect σ (WriteClient σ)

/-! ## 2. The store with its clients -/

/-- A client as the store knows it. -/
structure ClientRecord where
  config : WriteConfig
  closed : Bool := false
deriving DecidableEq, Inhabited

/-- The store and the clients that it has handed out, in order. -/
structure Warehouse where
  store : Store := {}
  clients : List ClientRecord := []
deriving Inhabited

namespace Warehouse

/-- The place of a client among those handed out. -/
abbrev ClientId := Nat

/-- A call on a client that is closed. -/
def clientClosed (tableName : String) (now : Timestamp) : Failure :=
  .report .tableStore "Write client is closed" [("table_name", .text tableName)] now none

/-- The store as it is now. -/
def stored : Effect Warehouse Store := do return (← Effect.state).store

/-- Replace the store. -/
def setStore (store : Store) : Effect Warehouse Unit := do
  Effect.setState { (← Effect.state) with store }

/-- Run a transaction: its store is kept if it succeeds. -/
def transact {α : Type} (transaction : Store → Timestamp → Except Failure (α × Store)) : Effect Warehouse α := do
  let (answer, changed) ← Effect.ofExcept (transaction (← stored) (← Effect.now))
  setStore changed
  return answer

/-- The configuration of an open client. -/
def openClient (client : ClientId) : Effect Warehouse WriteConfig := do
  match (← Effect.state).clients[client]? with
  | none => Effect.fail (.outside .attribute "there is no such client" false)
  | some known =>
    if known.closed then Effect.fail (clientClosed known.config.tableName (← Effect.now))
    else return known.config

/-! ## 3. Tables -/

/-- A table is registered at a path. -/
def metadataExists (basePath : String) : Effect Warehouse Bool := do return (← stored).hasTable basePath

/-- What is known about a table. -/
def openMetadata (basePath : String) : Effect Warehouse TableMetadata := do
  Effect.ofExcept ((← stored).openMetadata basePath (← Effect.now))

/-- Register a table. -/
def initTable (shell : TableShell) : Effect Warehouse Unit := do
  Effect.log .info .store ("Initializing " ++ shell.tableType.name ++ " table " ++ shell.tableName ++
    " at " ++ shell.basePath)
  setStore (← Effect.ofExcept ((← stored).initTable shell))

/-- What a catalog is told about a table. -/
def describeTable (basePath : String) : Effect Warehouse TableDescription := do
  Effect.ofExcept ((← stored).describeTable basePath (← Effect.now))

/-! ## 4. Clients -/

/-- Hand out a client. -/
def newClient (config : WriteConfig) : Effect Warehouse ClientId := do
  let warehouse ← Effect.state
  Effect.setState { warehouse with clients := warehouse.clients ++ [{ config }] }
  return warehouse.clients.length

/-- Start a commit. -/
def startCommit (client : ClientId) : Effect Warehouse String := do
  let config ← openClient client
  transact fun store now => store.startCommit config now

/-- Stage a batch under an instant, combined and arranged as the client and the operation ask for. -/
def write (client : ClientId) (operation : WriteOperation) (records : List PreparedRecord)
    (time : Option String) : Effect Warehouse WriteOutcome := do
  let config ← openClient client
  let combined ← if config.combinesBefore operation then Dedup.run records else pure records
  let batch := Store.arranged operation combined
  let outcome ← transact fun store now => store.stage config operation batch time now
  let staged := outcome.totalRecords - outcome.totalErrorRecords
  Effect.log .info .store (operation.name ++ " staged " ++ toString staged ++ " records for instant " ++
    Value.optionText time ++ ". Errors/Total=" ++ toString outcome.totalErrorRecords ++ "/" ++
    toString outcome.totalRecords)
  return outcome

/-- Commit an instant; the answer says whether it was. What the columns do not take is a failure. -/
def commit (client : ClientId) (time : Option String) (outcome : WriteOutcome) (extra : Fields String) :
    Effect Warehouse Bool := do
  let config ← openClient client
  match (← stored).commit config time outcome extra (← Effect.now) with
  | .ok changed =>
    setStore changed
    return true
  | .error .notInflight =>
    Effect.log .error .store ("Cannot commit " ++ Value.optionText time ++ ": instant is not inflight")
    return false
  | .error .keyTaken =>
    Effect.log .error .store ("Commit " ++ Value.optionText time ++
      " failed applying staged records: a record key is taken")
    return false
  | .error .unrecordable => Effect.fail Column.refused

/-- Roll an instant back; the answer says whether it was. -/
def rollback (client : ClientId) (time : Option String) : Effect Warehouse Bool := do
  let config ← openClient client
  let (done, changed) := (← stored).rollback config time (← Effect.now)
  if done then
    setStore changed
    Effect.log .info .store ("Rolled back instant " ++ Value.optionText time)
    return true
  else
    Effect.log .error .store ("Cannot roll back " ++ Value.optionText time ++
      ": instant missing or already completed")
    return false

/-- Ask for a compaction; the answer is its instant if there is one. -/
def scheduleCompaction (client : ClientId) : Effect Warehouse (Option String) := do
  let config ← openClient client
  transact fun store now => store.scheduleCompaction config now

/-- Close a client. -/
def close (client : ClientId) : Effect Warehouse Unit := do
  let warehouse ← Effect.state
  Effect.setState { warehouse with
    clients := warehouse.clients.modify client fun known => { known with closed := true } }

/-! ## 5. As a sync sees them -/

/-- A client that was handed out, as a two-phase writer. -/
def writer (client : ClientId) (config : WriteConfig) : WriteClient Warehouse where
  config := config
  startCommit := startCommit client
  write operation records time := write client operation records (some time)
  commit time outcome extra := commit client (some time) outcome extra
  rollback time := rollback client (some time)
  scheduleCompaction := scheduleCompaction client
  close := close client

/-- The warehouse as a table store. -/
def tableStore : TableStore Warehouse where
  metadataExists := metadataExists
  openMetadata := openMetadata
  initTable := initTable
  describeTable := describeTable
  createWriteClient config := do return writer (← newClient config) config

/-! ## 6. Histories -/

/-- One operation of a history. -/
inductive Operation where
  | initTable (shell : TableShell)
  | metadataExists (basePath : String)
  | openMetadata (basePath : String)
  | describeTable (basePath : String)
  | newClient (config : WriteConfig)
  | startCommit (client : ClientId)
  | write (client : ClientId) (operation : WriteOperation) (records : List PreparedRecord) (time : Option String)
  | commit (client : ClientId) (time : Option String) (outcome : WriteOutcome) (extra : Fields String)
  | rollback (client : ClientId) (time : Option String)
  | scheduleCompaction (client : ClientId)
  | close (client : ClientId)

/-- What an operation answers. -/
inductive Reply where
  | done
  | truth (b : Bool)
  | metadata (metadata : TableMetadata)
  | description (description : TableDescription)
  | client (client : ClientId)
  | instant (time : String)
  | outcome (outcome : WriteOutcome)
  | compaction (time : Option String)

/-- A reply as a value. -/
def Reply.toValue : Reply → Value
  | .done => .null
  | .truth b => .bool b
  | .metadata known => known.toValue
  | .description known => known.toValue
  | .client place => .int place
  | .instant time => .text time
  | .outcome counts => counts.toValue
  | .compaction time => Value.ofText? time

/-- Perform one operation. -/
def perform : Operation → Effect Warehouse Reply
  | .initTable shell => do
    initTable shell
    return .done
  | .metadataExists basePath => do return .truth (← metadataExists basePath)
  | .openMetadata basePath => do return .metadata (← openMetadata basePath)
  | .describeTable basePath => do return .description (← describeTable basePath)
  | .newClient config => do return .client (← newClient config)
  | .startCommit client => do return .instant (← startCommit client)
  | .write client operation records time => do return .outcome (← write client operation records time)
  | .commit client time outcome extra => do return .truth (← commit client time outcome extra)
  | .rollback client time => do return .truth (← rollback client time)
  | .scheduleCompaction client => do return .compaction (← scheduleCompaction client)
  | .close client => do
    close client
    return .done

end Warehouse

end TableSync
