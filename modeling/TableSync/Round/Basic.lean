/-
  TableSync/Round/Basic.lean
  ==========================
  **A round and its parts** — what one pass from source to table works with.

  Every part is given by what it does: the source by its windows, the store by
  its operations, transformation and keys as functions.  A round reads rows if
  it transforms them and records otherwise.  Its state is that of its
  coordinator: the write client outlives a single pass, nothing else does.
-/
import TableSync.Audit
import TableSync.Commit.Coordinator
import TableSync.Source
import TableSync.Transform

namespace TableSync

/-- The parts of a round. -/
structure Round (σ : Type) where
  config : SyncConfig
  source : Source σ
  store : TableStore σ
  userProvider : Option SchemaProvider := none
  transformer : Option (Transformer σ) := none
  preparer : RecordPreparer
  recorder : Option (RunRecorder σ) := none
  coordinator : Coordinator σ

/-- A step of a round. -/
abbrev RoundStep (σ α : Type) := Effect (CommitState σ) α

/-- What a round is made of; what is left out follows from the configuration. -/
structure RoundParts (σ : Type) where
  config : SyncConfig
  source : Source σ
  store : TableStore σ
  userProvider : Option SchemaProvider := none
  transformation : Option Transformation := none
  generator : Option KeyGenerator := none
  catalog : Option (CatalogTrigger σ) := none
  recorder : Option (RunRecorder σ) := none
  retry : RetryPolicy := RetryPolicy.commitStart
  onClientCreated : WriteClient σ → Effect σ Unit := fun _ => pure ()

namespace RoundParts

variable {σ : Type}

/-- The transformation that is given, else the one that the configuration names. -/
def chosenTransformation (parts : RoundParts σ) (now : Timestamp) : Except Failure (Option Transformation) :=
  match parts.transformation with
  | some step => .ok (some step)
  | none => Transformation.ofNames parts.config.transformerClassNames now

/-- The key generator that is given, else the one for the fields that the configuration names. -/
def chosenGenerator (parts : RoundParts σ) : Except Failure KeyGenerator :=
  match parts.generator with
  | some generator => .ok generator
  | none => KeyGenerator.ofSettings parts.config.recordKeyField parts.config.partitionPathField

/-- Put the parts of a round together. -/
def assemble (parts : RoundParts σ) (now : Timestamp) : Except Failure (Round σ) := do
  let transformation ← parts.chosenTransformation now
  let generator ← parts.chosenGenerator
  return {
    config := parts.config
    source := parts.source
    store := parts.store
    userProvider := parts.userProvider
    transformer := transformation.map Transformation.apply
    preparer := ⟨generator.key, parts.config.orderingField⟩
    recorder := parts.recorder
    coordinator := {
      config := parts.config
      store := parts.store
      catalog := if parts.config.enableCatalogSync then parts.catalog else none
      retry := parts.retry
      onClientCreated := parts.onClientCreated } }

end RoundParts

namespace Round

variable {σ α : Type}

/-- Log a line of a round. -/
def say (level : LogLevel) (message : String) : RoundStep σ Unit := Effect.log level .round message

/-- A step outside the coordinator. -/
def outside (step : Effect σ α) : RoundStep σ α := Coordinator.outside step

/-- The name of the shape that a round reads. -/
def readFormat (round : Round σ) : String := if round.transformer.isSome then "row" else "record"

/-- Open a round from its parts. With a schema from the user the write client need not wait for data. -/
def create (parts : RoundParts σ) : RoundStep σ (Round σ) := do
  let round ← Effect.ofExcept (parts.assemble (← Effect.now))
  if parts.catalog.isNone && parts.config.enableCatalogSync then
    say .warning "Catalog sync enabled but no catalog sync tool configured"
  say .info ("Creating delta sync for table " ++ parts.config.targetTable ++ " with read format " ++ round.readFormat)
  match parts.userProvider with
  | some provider =>
    discard (round.coordinator.ensureInitialized (some provider) false)
    return round
  | none => return round

/-- Release the write client; the round cannot be run afterwards. -/
def close : RoundStep σ Unit := Coordinator.close

end Round

end TableSync
