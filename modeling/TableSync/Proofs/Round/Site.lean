/-
  TableSync/Proofs/Round/Site.lean
  ================================
  **Where a round runs** — a store of tables with everything else around it.

  A `Site τ ρ` holds a store `τ` and the rest of the world `ρ`.  A `Plan ρ` says
  what a round is made of: its configuration, and a source, a transformer, a
  recorder, a catalog client and a callback that may do anything at all to the
  rest of the world, its clock and its log, but have no way to the tables.
  `Plan.round` puts the plan on a site: the tables are reached through the
  operations of a `TableStore τ` only, and each call of the source leaves a
  `SourceRead` on record.  The store is left open, so that one proof about
  rounds serves a warehouse that a round has to itself and one that it shares.
-/
import TableSync.Proofs.Effect
import TableSync.Round.Run
import Mathlib.Data.Set.Basic

namespace TableSync

/-! ## 1. Sites -/

/-- What a source handed out, in the shape in which it hands data out. -/
inductive Delivery where
  | rows (batch : Batch Frame)
  | records (batch : Batch (List Record))

/-- The checkpoint at the end of a delivery. -/
def Delivery.checkpoint : Delivery → Option String
  | rows batch => batch.checkpoint
  | records batch => batch.checkpoint

/-- One call of a source: the checkpoint it was asked from, and what it handed out unless it failed. -/
structure SourceRead where
  asked : Option String
  given : Option Delivery

/-- A store of tables, what was read from the source so far, and everything else. -/
structure Site (τ ρ : Type) where
  inner : τ
  reads : List SourceRead := []
  rest : ρ

namespace Site

variable {τ ρ α : Type}

/-- A step on the store. -/
def inInner (step : Effect τ α) : Effect (Site τ ρ) α :=
  Effect.within (fun site => site.inner) (fun inner site => { site with inner }) step

/-- A step on everything but the store. -/
def inRest (step : Effect ρ α) : Effect (Site τ ρ) α :=
  Effect.within (fun site => site.rest) (fun rest site => { site with rest }) step

/-- Put a call of the source on record. -/
def note (read : SourceRead) : Effect (Site τ ρ) Unit := do
  let site ← Effect.state
  Effect.setState { site with reads := site.reads ++ [read] }

/-- A source under observation. -/
def watched (form : Batch α → Delivery) (fetch : Fetch ρ α) : Fetch (Site τ ρ) α := fun asked limit => do
  let outcome ← (inRest (fetch asked limit)).attempt
  note ⟨asked, outcome.toOption.map form⟩
  Effect.ofExcept outcome

/-- The source of a site. -/
def source : Source ρ → Source (Site τ ρ)
  | .rows fetch => .rows (watched .rows fetch)
  | .records fetch => .records (watched .records fetch)

/-- A write client of the store. -/
def client (inner : WriteClient τ) : WriteClient (Site τ ρ) where
  config := inner.config
  startCommit := inInner inner.startCommit
  write operation records time := inInner (inner.write operation records time)
  commit time outcome extra := inInner (inner.commit time outcome extra)
  rollback time := inInner (inner.rollback time)
  scheduleCompaction := inInner inner.scheduleCompaction
  close := inInner inner.close

/-- The store of a site. -/
def store (inner : TableStore τ) : TableStore (Site τ ρ) where
  metadataExists basePath := inInner (inner.metadataExists basePath)
  openMetadata basePath := inInner (inner.openMetadata basePath)
  initTable shell := inInner (inner.initTable shell)
  describeTable basePath := inInner (inner.describeTable basePath)
  createWriteClient config := do return client (← inInner (inner.createWriteClient config))

/-- A recorder that keeps its trail outside the store. -/
def recorder (inner : RunRecorder ρ) : RunRecorder (Site τ ρ) where
  start tableName := inRest (inner.start tableName)
  complete handle result := inRest (inner.complete handle result)
  fail handle failure checkpointBefore := inRest (inner.fail handle failure checkpointBefore)

end Site

/-! ## 2. Plans -/

/-- A catalog that a round publishes to: its client, the table to publish, and a switch. -/
structure CatalogPlan (ρ : Type) where
  tool : CatalogTool ρ
  basePath : String
  enabled : Bool := true

/-- What a round is made of, the tables apart. -/
structure Plan (ρ : Type) where
  config : SyncConfig
  source : Source ρ
  userProvider : Option SchemaProvider := none
  transformer : Option (Transformer ρ) := none
  keyOf : Value → Timestamp → Except Failure RecordKey
  recorder : Option (RunRecorder ρ) := none
  catalog : Option (CatalogPlan ρ) := none
  retry : RetryPolicy := RetryPolicy.commitStart
  announce : WriteConfig → Effect ρ Unit := fun _ => pure ()
  errorLogLimit : Int := 100

namespace Plan

variable {τ ρ : Type}

/-- The catalog of a round: the table is described by the store and published by the client. -/
def trigger (inner : TableStore τ) (catalog : CatalogPlan ρ) : CatalogTrigger (Site τ ρ) where
  tool description := Site.inRest (catalog.tool description)
  describe basePath := Site.inInner (inner.describeTable basePath)
  basePath := catalog.basePath
  enabled := catalog.enabled

/-- The coordinator of a round over a store. -/
def coordinator (plan : Plan ρ) (inner : TableStore τ) : Coordinator (Site τ ρ) where
  config := plan.config
  store := Site.store inner
  catalog := if plan.config.enableCatalogSync then plan.catalog.map (trigger inner) else none
  retry := plan.retry
  onClientCreated client := Site.inRest (plan.announce client.config)
  errorLogLimit := plan.errorLogLimit

/-- The round of a plan over a store. -/
def round (plan : Plan ρ) (inner : TableStore τ) : Round (Site τ ρ) where
  config := plan.config
  source := Site.source plan.source
  store := Site.store inner
  userProvider := plan.userProvider
  transformer := plan.transformer.map fun transformer frame props => Site.inRest (transformer frame props)
  preparer := ⟨plan.keyOf, plan.config.orderingField⟩
  recorder := plan.recorder.map Site.recorder
  coordinator := plan.coordinator inner

/-- What opening a round does beside putting it together: with a schema from the user the write client
is made at once. -/
def setUp (plan : Plan ρ) (inner : TableStore τ) : RoundStep (Site τ ρ) Unit :=
  match plan.userProvider with
  | some provider => discard ((plan.coordinator inner).ensureInitialized (some provider) false)
  | none => pure ()

end Plan

/-! ## 3. What a source promises -/

/-- Whatever the source hands out when asked from a checkpoint satisfies `G`. -/
def Source.Gives {ρ : Type} (G : Option String → Delivery → Prop) : Source ρ → Prop
  | .rows fetch => ∀ asked limit,
    Effect.Leads (fun _ => True) (fetch asked limit) (fun batch _ => G asked (.rows batch)) fun _ _ => True
  | .records fetch => ∀ asked limit,
    Effect.Leads (fun _ => True) (fetch asked limit) (fun batch _ => G asked (.records batch)) fun _ _ => True

theorem Source.gives_anything {ρ : Type} (source : Source ρ) : source.Gives fun _ _ => True := by
  cases source with
  | rows fetch => exact fun asked limit => Effect.leads_trivial
  | records fetch => exact fun asked limit => Effect.leads_trivial

/-- The log behind a source: which of its records are at or before a checkpoint, and which a delivery
carries. -/
structure SourceLog (ι : Type) where
  upTo : String → Set ι
  carried : Delivery → Set ι

namespace SourceLog

variable {ι : Type}

/-- The records at or before a checkpoint; none before the first. -/
def before (log : SourceLog ι) : Option String → Set ι
  | none => ∅
  | some checkpoint => log.upTo checkpoint

theorem before_some (log : SourceLog ι) (checkpoint : String) :
    log.before (some checkpoint) = log.upTo checkpoint := rfl

/-- A delivery carries exactly the records after the checkpoint that was asked from, up to the checkpoint that
comes with it. -/
def Delivers (log : SourceLog ι) (asked : Option String) (delivery : Delivery) : Prop :=
  ∀ checkpoint, delivery.checkpoint = some checkpoint →
    log.carried delivery = log.upTo checkpoint \ log.before asked

end SourceLog

/-! ## 4. A small plan -/

/-- A plan whose source has one record, up to the checkpoint `1`. -/
def samplePlan : Plan Unit where
  config := { targetTable := "events", targetBasePath := "/t/events" }
  source := .records fun asked _ =>
    if asked = some "1" then pure ⟨none, asked, none⟩
    else pure ⟨some [[("id", .text "a"), ("ts", .int 1)]], some "1", none⟩
  keyOf _ _ := .ok ⟨"a", ""⟩

end TableSync
