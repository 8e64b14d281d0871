/-
  TableSync/Rehearsal/Sources.lean
  ================================
  **Sources of a rehearsal** — a script of windows, or a service of pages.

  A scripted source hands out the next window that was fed to it, whatever it
  is asked for; with nothing fed it has no data and stays at the checkpoint
  that it was asked from.
-/
import TableSync.Http.Paged
import TableSync.Rehearsal.Files

namespace TableSync.Rehearsal

/-- The text under a name of a description, if there is one. -/
def textUnder? (value : Value) (name : String) : Option String := (value.part? name).bind textOf?

/-- The number under a name of a description, or another one. -/
def numberUnderD (value : Value) (name : String) (default : Number) : Number :=
  ((value.part? name).bind Number.ofValue?).getD default

/-- The service that is described. -/
def apiOf (value : Value) : Http.PagedApi :=
  { sourceName := (textUnder? value "source_name").getD "api"
    url := (textUnder? value "api_url").getD "https://api.example.com/items"
    apiKey := textUnder? value "api_key"
    timestampField := (textUnder? value "timestamp_field").getD "updated_at"
    pageSize := (numberUnderD value "page_size" (.whole 100)).truncate
    maxRetries := (numberUnderD value "max_retries" (.whole 3)).truncate
    retryDelay := numberUnderD value "retry_delay" (.double 1.0)
    timeout := numberUnderD value "timeout" (.double 30.0) }

/-- The records that are described. -/
def recordsOf : Value → List Record
  | .list items => items.map fun item => match item with
    | .object fields => fields
    | _ => []
  | _ => []

/-- The window that was fed, in one of the two shapes. -/
def windowOf {α : Type} (shape : List Record → α) (provider : Option SchemaProvider) (fed : Value) : Batch α :=
  { data := match fed.part? "records" with
      | none | some .null => none
      | some records => some (shape (recordsOf records))
    checkpoint := textUnder? fed "checkpoint"
    provider }

/-- Fetch the next window of the script. -/
def fetchFed {α : Type} (shape : List Record → α) (provider : Option SchemaProvider) : Fetch Rehearsal α :=
  fun checkpoint limit => do
    modify fun r => { r with asked := some (checkpoint, limit) }
    match (← Effect.state).feeds with
    | [] => return ⟨none, checkpoint, provider⟩
    | fed :: rest =>
      modify fun r => { r with feeds := rest }
      match fed.part? "raise" with
      | some failure => Effect.fail (.ofValue (← Effect.now) failure)
      | none => return windowOf shape provider fed

/-- A scripted source of rows or of records. -/
def scripted (format : String) (provider : Option SchemaProvider) : Source Rehearsal :=
  if format = "row" then .rows (fetchFed Frame.ofRecords provider) else .records (fetchFed id provider)

/-- Feed a window to the scripted source. -/
def feed (fed : Value) (rehearsal : Rehearsal) : Rehearsal := { rehearsal with feeds := rehearsal.feeds ++ [fed] }

/-- What the scripted source was last asked for. -/
def lastAsked (rehearsal : Rehearsal) : Value :=
  match rehearsal.asked with
  | some (checkpoint, limit) => .list [Value.ofText? checkpoint, .int limit]
  | none => .null

end TableSync.Rehearsal
