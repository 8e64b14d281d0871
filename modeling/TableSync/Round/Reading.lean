/-
  TableSync/Round/Reading.lean
  ============================
  **What a round reads** — a window of the source, ready to be written.

  A window whose checkpoint has not moved holds nothing new, whatever else is
  in it.  Otherwise its records are prepared, all or none, and come with the
  schema to write them with: that of the user, else that of what was read.
-/
import TableSync.Round.Basic

namespace TableSync

/-- A window of data, ready to be written. -/
structure RoundInput where
  provider : Option SchemaProvider
  checkpoint : String
  records : List PreparedRecord
deriving Inhabited

namespace Round

variable {σ : Type}

/-- The schema of the user goes before that of what was read. -/
def pickProvider (round : Round σ) (read : Option SchemaProvider) : Option SchemaProvider :=
  round.userProvider.orElse fun _ => read

/-- The schema that rows are cut to, if the user gave one. -/
def targetSchema (round : Round σ) : Option TableSchema := round.userProvider.bind fun provider => provider.target

/-- Rows with the columns of a schema, or with the schema that they have. -/
def shapeRows (round : Round σ) (frame : Frame) : Except Failure (Frame × Option SchemaProvider) :=
  match round.targetSchema with
  | some target => do return (← frame.reindex target.fieldNames, round.userProvider)
  | none => do return (frame, some (← frame.provider round.config.targetTable))

/-- A window of rows, transformed, as records. -/
def readRows (round : Round σ) (transformer : Transformer σ) (checkpoint : Option String) :
    RoundStep σ (Batch (List Record)) := do
  let batch ← outside (round.source.fetchRows checkpoint round.config.sourceLimit)
  match batch.data with
  | none => return ⟨none, batch.checkpoint, round.pickProvider batch.provider⟩
  | some frame =>
    let transformed ← outside (transformer frame round.config.props)
    let (shaped, provider) ← Effect.ofExcept (round.shapeRows transformed)
    let records ← Effect.ofExcept shaped.toRecords
    return ⟨some records, batch.checkpoint, round.pickProvider provider⟩

/-- A window of records. -/
def readRecords (round : Round σ) (checkpoint : Option String) : RoundStep σ (Batch (List Record)) := do
  let batch ← outside (round.source.fetchRecords checkpoint round.config.sourceLimit)
  return { batch with provider := round.pickProvider batch.provider }

/-- The next window of the source. -/
def readWindow (round : Round σ) (checkpoint : Option String) : RoundStep σ (Batch (List Record)) :=
  match round.transformer with
  | some transformer => round.readRows transformer checkpoint
  | none => round.readRecords checkpoint

/-- What is new at the source and has to be written; none if the checkpoint has not moved. -/
def read (round : Round σ) (resume : ResumePoint) : RoundStep σ (Option RoundInput) := do
  let batch ← round.readWindow resume.value
  if batch.checkpoint = resume.value then
    say .info ("No new data, source checkpoint has not changed. Nothing to commit. Old checkpoint=(" ++
      Value.optionText resume.value ++ ")")
    return none
  else match batch.checkpoint with
    | none =>
      Effect.report .checkpoint "Source returned no checkpoint after resuming from one"
        [("resumed_from", Value.ofText? resume.value), ("table_name", .text round.config.targetTable)] none
    | some checkpoint =>
      let records ← Effect.ofExcept (round.preparer.prepareAll (batch.data.getD []) (← Effect.now))
      return some ⟨batch.provider, checkpoint, records⟩

end Round

end TableSync
