/-
  TableSync/Source.lean
  =====================
  **Sources** — where new data comes from, window by window.

  A source is asked for what is newer than a checkpoint, up to a limit, and
  answers one window: the data, if there is any, and the checkpoint at the end
  of it.  It hands out rows or records; `fetchRows` and `fetchRecords` give
  either shape of any source.
-/
import TableSync.Frame.Records

namespace TableSync

/-- One window of a source's data; the next one is read from its checkpoint. -/
structure Batch (α : Type) where
  data : Option α
  checkpoint : Option String
  provider : Option SchemaProvider := none

/-- The text of a window. -/
def Batch.text {α : Type} (batch : Batch α) : String :=
  "InputBatch(checkpoint_for_next_batch=" ++ (Value.ofText? batch.checkpoint).literal ++
    ", has_batch=" ++ boolText batch.data.isSome ++ ")"

/-- Fetch the window after a checkpoint, up to a limit. -/
abbrev Fetch (σ α : Type) := Option String → Int → Effect σ (Batch α)

/-- A source, by the shape of the data that it hands out. -/
inductive Source (σ : Type) where
  | rows (fetch : Fetch σ Frame)
  | records (fetch : Fetch σ (List Record))

namespace Source

variable {σ : Type}

/-- A window of records as rows. -/
def rowsOf (batch : Batch (List Record)) : Batch Frame :=
  { batch with data := batch.data.map Frame.ofRecords }

/-- The schema provider of a window of rows: its own, or the one of the rows. -/
def rowProvider (batch : Batch Frame) : Except Failure (Option SchemaProvider) :=
  match batch.provider, batch.data with
  | some provider, _ => .ok (some provider)
  | none, some frame => some <$> frame.provider Frame.derivedName
  | none, none => .ok none

/-- A window of rows as records, with the schema of the rows. -/
def recordsOf (batch : Batch Frame) : Except Failure (Batch (List Record)) := do
  let data ← match batch.data with
    | some frame => some <$> frame.toRecords
    | none => pure none
  return { data, checkpoint := batch.checkpoint, provider := ← rowProvider batch }

/-- A window of records with the schema of its rows, unless it has one or is empty. -/
def withSchema (batch : Batch (List Record)) : Except Failure (Batch (List Record)) := do
  match batch.provider, batch.data with
  | none, some (record :: rest) =>
    return { batch with provider := some (← (Frame.ofRecords (record :: rest)).provider Frame.derivedName) }
  | _, _ => return batch

/-- Fetch a window as rows. -/
def fetchRows (source : Source σ) : Fetch σ Frame := fun checkpoint limit => do
  match source with
  | rows fetch => fetch checkpoint limit
  | records fetch => return rowsOf (← fetch checkpoint limit)

/-- Fetch a window as records. -/
def fetchRecords (source : Source σ) : Fetch σ (List Record) := fun checkpoint limit => do
  match source with
  | rows fetch => Effect.ofExcept (recordsOf (← fetch checkpoint limit))
  | records fetch => Effect.ofExcept (withSchema (← fetch checkpoint limit))

end Source

end TableSync
