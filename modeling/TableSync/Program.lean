/-
  TableSync/Program.lean
  ======================
  **The program** — a sync from process settings, and what becomes of it.

  The settings say which source is read, whether a catalog is told, and where
  the schema is.  `Program.run` opens the round that they ask for, runs it
  once or continuously, and ends with an exit code: zero, or one after a
  failure of any kind, which is told in the log.
-/
import TableSync.Csv.Directory
import TableSync.Http.Paged
import TableSync.Schedule
import TableSync.Settings

namespace TableSync

/-! ## 1. What settings ask for -/

/-- Where new data comes from. -/
inductive SourceSettings where
  /-- A directory of files. -/
  | directory (sourceName path : String)
  /-- A service of pages. -/
  | api (api : Http.PagedApi)
deriving Inhabited

namespace Settings

/-- The names of the kinds of sources. -/
def sourceTypes : List String := ["csv", "http"]

/-- The source that settings ask for. -/
def source (settings : Settings) (now : Timestamp) : Except Failure SourceSettings :=
  let kind := Text.lower settings.sourceType
  if kind = "csv" then .ok (.directory settings.targetTable (Text.Glob.tidy settings.csvSourceDir))
  else if kind = "http" then
    match settings.httpSourceUrl.filter fun url => !url.isEmpty with
    | none =>
      .error (.report .configuration "HTTP_SOURCE_URL is required for the http source" [("source_type", .text kind)] now none)
    | some url => .ok (.api {
        sourceName := settings.targetTable
        url
        apiKey := settings.httpSourceApiKey
        timestampField := settings.httpSourceTimestampField })
  else
    .error (.report .configuration ("Unknown source type: " ++ settings.sourceType)
      [("source_type", .text settings.sourceType), ("supported", .list (sourceTypes.map .text))] now none)

/-- The catalog that settings ask for; without an address there is none to tell. -/
def catalog (settings : Settings) (config : SyncConfig) (now : Timestamp) : Except Failure (Option HttpCatalog) :=
  if config.enableCatalogSync then
    match settings.catalogUrl.filter fun url => !url.isEmpty with
    | none =>
      .error (.report .configuration "CATALOG_URL is required when catalog sync is enabled"
        [("setting", .text "CATALOG_URL")] now none)
    | some url => .ok (some (.ofAddress url settings.catalogDatabase settings.catalogApiKey))
  else .ok none

/-- The path of the schema file, if one is named. -/
def schemaPath (settings : Settings) : Option String := settings.schemaFile.filter fun path => !path.isEmpty

/-- The policy for starting commits. -/
def commitRetry (settings : Settings) : Except Failure RetryPolicy :=
  RetryPolicy.ofSettings settings.commitStartMaxAttempts (.double settings.commitStartRetryDelay) [.fault .instantState]

end Settings

/-- Everything that settings ask for. -/
structure Wiring where
  config : SyncConfig
  catalog : Option HttpCatalog
  provider : Option SchemaProvider
  source : SourceSettings
  retry : RetryPolicy

/-- What settings ask for, with the content of the schema file if it is there. -/
def Wiring.ofSettings (settings : Settings) (schemaContent : Option String) (now : Timestamp) :
    Except Failure Wiring := do
  let config ← settings.config
  let catalog ← settings.catalog config now
  let provider ← match settings.schemaPath with
    | some path => some <$> SchemaProvider.ofFiles ⟨path, schemaContent⟩ none now
    | none => pure none
  let source ← settings.source now
  let retry ← settings.commitRetry
  return { config, catalog, provider, source, retry }

/-! ## 2. A round from settings -/

/-- The services that a program runs with. -/
structure Services (σ : Type) where
  store : TableStore σ
  recorder : RunRecorder σ
  transport : Http.Transport σ
  /-- What is in a directory, if it is there. -/
  listing : String → Effect σ (Option (List Csv.StoredFile))
  /-- The text of a file, if it is there. -/
  content : String → Effect σ (Option String)

namespace Wiring

variable {σ : Type}

/-- The source of a round. -/
def openSource (services : Services σ) : SourceSettings → Source σ
  | .directory sourceName path => Csv.Directory.source { sourceName, path, listing := services.listing path }
  | .api api => api.source services.transport

/-- The parts of the round that settings ask for. -/
def parts (wiring : Wiring) (services : Services σ) : RoundParts σ :=
  { config := wiring.config
    source := openSource services wiring.source
    store := services.store
    userProvider := wiring.provider
    catalog := wiring.catalog.map fun catalog => {
      tool := catalog.syncTable services.transport
      describe := services.store.describeTable
      basePath := wiring.config.targetBasePath }
    recorder := some services.recorder
    retry := wiring.retry }

end Wiring

/-! ## 3. Running -/

namespace Program

variable {σ : Type}

/-- Log a line of the program. -/
def say {ρ : Type} (level : LogLevel) (message : String) : Effect ρ Unit := Effect.log level .program message

/-- What settings ask for, the schema file being read where they name one. -/
def wire (services : Services σ) (settings : Settings) : RoundStep σ Wiring := do
  let content ← match settings.schemaPath with
    | some path => Round.outside (services.content path)
    | none => pure none
  Effect.ofExcept (Wiring.ofSettings settings content (← Effect.now))

/-- The round that settings ask for. -/
def openRound (services : Services σ) (settings : Settings) : RoundStep σ (Round σ) := do
  let wiring ← wire services settings
  Round.create (wiring.parts services)

/-- Tell what a round came to. -/
def tellResult (result : RoundResult) : RoundStep σ Unit := do
  say .info ("Sync completed for " ++ result.tableName ++ ": Status=" ++ result.status.name ++ ", Records=" ++
    toString result.totalRecords ++ ", Errors=" ++ toString result.totalErrorRecords ++ ", Checkpoint=" ++
    Value.optionText result.checkpoint)
  match result.catalogSyncError with
  | some text => if !text.isEmpty then say .warning ("Catalog sync failed: " ++ text)
  | none => pure ()

/-- Run a single round and close it. -/
def runOnce (round : Round σ) : RoundStep σ Unit := do
  let step : RoundStep σ Unit := do tellResult (← round.run)
  let outcome ← step.attempt
  Round.close
  Effect.ofExcept outcome

/-- Run rounds at the interval of the configuration; the timer fires up to a number of times. -/
def runContinuously (round : Round σ) (times : Nat) : RoundStep σ Unit := do
  say .info ("Running delta sync for " ++ round.config.targetTable ++ " in continuous mode")
  let schedule := Schedule.ofRound round none
  Effect.of fun world =>
    let (outcome, after) := (schedule.runUntilStopped times).runIn { world with state := { outside := world.state } }
    (outcome, { after with state := after.state.outside })

/-- Open a round and run it. -/
def sync (services : Services σ) (settings : Settings) (times : Nat) : RoundStep σ Unit := do
  let round ← openRound services settings
  if round.config.continuousMode then runContinuously round times else runOnce round

/-- Run the program; the answer is its exit code. -/
def run (services : Services σ) (settings : Settings) (times : Nat) : Effect σ Nat := do
  let step : RoundStep σ Nat := do
    match ← (sync services settings times).attempt with
    | .ok () => return 0
    | .error failure =>
      say .error ("Delta sync error: " ++ failure.text)
      return 1
  Effect.of fun world =>
    let (outcome, after) := step.runIn { world with state := { outside := world.state } }
    (outcome, { after with state := after.state.outside })

/-! ## 4. Setting the store up -/

/-- The tables of the store, by name. -/
def tableNames : List String := ["sync_instants", "sync_records", "sync_runs", "sync_staged_records", "sync_tables"]

/-- Set the store up. -/
def setUp : Effect σ Unit := do
  let tell (message : String) : Effect σ Unit := Effect.log .info .database message
  tell "Connecting to database..."
  tell "Creating tables..."
  tell ("Tables created successfully: " ++ ", ".intercalate tableNames)

end Program

end TableSync
