/-
  TableSync/Proofs/Round/Aided.lean
  =================================
  **Helpers after a commit** — compaction and the catalog.

  An `Aided` store answers a request for compaction as its `Compactor` says: the
  request returns anything, fails in any way and changes the store in any way
  that readers do not see.  It keeps a list of what it was asked for on behalf
  of helpers.  `Plan.attempts` says what a round asks for, which depends on its
  result alone (`attempts_account`).
-/
import TableSync.Proofs.Record.Once
import TableSync.Proofs.Round.Sure

namespace TableSync

variable {ρ α : Type}

/-! ## 1. Aided stores -/

/-- What a store is asked for on behalf of a helper: a compaction, or the description of a table. -/
inductive Aid where
  | compaction
  | catalog
deriving DecidableEq, Repr

/-- How requests for compaction turn out: in any way that readers of the store do not see. -/
structure Compactor where
  ask : Warehouse.ClientId → Effect Exposed (Option String)
  unseen : ∀ id, Keeps (fun t => t) (ask id)

namespace Compactor

/-- The requests are those of the store itself. -/
def own : Compactor where
  ask id := Exposed.operate (Warehouse.scheduleCompaction id)
  unseen := scheduleCompaction_keeps

/-- Every request returns the same, or fails with the same. -/
def always (outcome : Except Failure (Option String)) : Compactor where
  ask _ := Effect.ofExcept outcome
  unseen _ _ := (Effect.leads_ofExcept outcome).weaken (fun _ ht => ht) (fun _ _ ht => ht.2) fun _ _ ht => ht.2

end Compactor

/-- An exposed store, how requests for compaction turn out, and what was asked for so far. -/
structure Aided where
  exposed : Exposed
  compactor : Compactor
  calls : List Aid := []

namespace Aided

def inExposed (step : Effect Exposed α) : Effect Aided α :=
  Effect.within (fun aided => aided.exposed) (fun exposed aided => { aided with exposed }) step

def note (aid : Aid) : Effect Aided Unit := do
  Effect.setState ((fun aided => { aided with calls := aided.calls ++ [aid] }) (← Effect.state))

/-- A client that was handed out, as a two-phase writer of the aided store. -/
def writer (id : Warehouse.ClientId) (config : WriteConfig) : WriteClient Aided where
  config := config
  startCommit := inExposed (Exposed.writer id config).startCommit
  write operation records time := inExposed ((Exposed.writer id config).write operation records time)
  commit time outcome extra := inExposed ((Exposed.writer id config).commit time outcome extra)
  rollback time := inExposed ((Exposed.writer id config).rollback time)
  scheduleCompaction := do
    note .compaction
    inExposed ((← Effect.state).compactor.ask id)
  close := inExposed (Exposed.writer id config).close

/-- The aided store as a table store. -/
def tableStore : TableStore Aided where
  metadataExists basePath := inExposed (Exposed.tableStore.metadataExists basePath)
  openMetadata basePath := inExposed (Exposed.tableStore.openMetadata basePath)
  initTable shell := inExposed (Exposed.tableStore.initTable shell)
  describeTable basePath := do
    note .catalog
    inExposed (Exposed.tableStore.describeTable basePath)
  createWriteClient config := do
    return writer (← inExposed (Exposed.inWarehouse (Warehouse.newClient config))) config

def store (aided : Aided) : Store := aided.exposed.warehouse.store

theorem note_leads {P Q : Aided → Prop} {E : Failure → Aided → Prop} {aid : Aid}
    (h : ∀ t, P t → Q { t with calls := t.calls ++ [aid] }) : Effect.Leads P (note aid) (fun _ => Q) E :=
  fun w hw => .inl ⟨(), { w with state := { w.state with calls := w.state.calls ++ [aid] } }, rfl, h _ hw⟩

theorem inExposed_leads {P : Exposed → Prop} {Q : α → Exposed → Prop} {E : Failure → Exposed → Prop}
    {step : Effect Exposed α} {calls : List Aid} (h : Effect.Leads P step Q E) :
    Effect.Leads (fun t => P t.exposed ∧ t.calls = calls) (inExposed step)
      (fun a t => Q a t.exposed ∧ t.calls = calls) fun failure t => E failure t.exposed ∧ t.calls = calls := by
  refine Effect.Leads.within fun aided hs => ?_
  exact h.weaken (fun _ ht => ht ▸ hs.1) (fun _ _ ht => ⟨ht, hs.2⟩) fun _ _ ht => ⟨ht, hs.2⟩

theorem inExposed_carried (step : Effect Exposed α) : Carried Aided.exposed (inExposed step) step := by
  intro P Q E h
  refine Effect.Leads.within fun aided hs => ?_
  exact h.weaken (fun _ ht => ht ▸ hs) (fun _ _ ht => ht) fun _ _ ht => ht

/-- A request for compaction is noted, and turns out as the compactor says. -/
theorem scheduleCompaction_leads (id : Warehouse.ClientId) (config : WriteConfig) (seen : List VisibleRow × List InstantRow)
    (calls : List Aid) :
    Effect.Leads (fun t => t.store.look = seen ∧ t.calls = calls) (writer id config).scheduleCompaction
      (fun _ t => t.store.look = seen ∧ t.calls = calls ++ [Aid.compaction])
      (fun _ t => t.store.look = seen ∧ t.calls = calls ++ [Aid.compaction]) := by
  refine (note_leads (Q := fun t => t.store.look = seen ∧ t.calls = calls ++ [Aid.compaction]) ?_).bind fun _ =>
    Effect.Leads.ofState fun aided hs => ?_
  · rintro t ⟨hseen, rfl⟩
    exact ⟨hseen, rfl⟩
  · exact (inExposed_leads (aided.compactor.unseen id seen)).weaken (fun _ ht => ht ▸ hs) (fun _ _ ht => ht)
      fun _ _ ht => ht

theorem describeTable_leads (basePath : String) (seen : List VisibleRow × List InstantRow) (calls : List Aid) :
    Effect.Leads (fun t => t.store.look = seen ∧ t.calls = calls) (tableStore.describeTable basePath)
      (fun _ t => t.store.look = seen ∧ t.calls = calls ++ [Aid.catalog])
      (fun _ t => t.store.look = seen ∧ t.calls = calls ++ [Aid.catalog]) := by
  refine (note_leads (Q := fun t => t.store.look = seen ∧ t.calls = calls ++ [Aid.catalog]) ?_).bind fun _ =>
    inExposed_leads (describeTable_keeps basePath seen)
  rintro t ⟨hseen, rfl⟩
  exact ⟨hseen, rfl⟩

end Aided

theorem aided_houses : Houses Aided.exposed Aided.tableStore Aided.writer where
  start _ _ := Aided.inExposed_carried _
  write _ _ _ _ _ := Aided.inExposed_carried _
  commit _ _ _ _ _ := Aided.inExposed_carried _
  compaction id config seen := by
    intro w hw
    have hleads := Aided.scheduleCompaction_leads id config seen w.state.calls
    exact (hleads.weaken (fun _ ht => ht) (fun _ _ ht => ht.1) fun _ _ ht => ht.1) w ⟨hw, rfl⟩
  describe basePath seen := by
    intro w hw
    have hleads := Aided.describeTable_leads basePath seen w.state.calls
    exact (hleads.weaken (fun _ ht => ht) (fun _ _ ht => ht.1) fun _ _ ht => ht.1) w ⟨hw, rfl⟩
  create config clean clients ledger P := by
    have hnew : Effect.Leads (Exposed.Holds clean clients ledger P) (Exposed.inWarehouse (Warehouse.newClient config))
        (fun id t => id = clients.length ∧ t.Holds clean (clients ++ [{ config := config }]) ledger P)
        fun _ _ => False := Exposed.newClient_leads config
    refine (Aided.inExposed_carried _ _ _ _ hnew).bind fun id => Effect.leads_pure ?_
    rintro t ⟨rfl, ht⟩
    exact ⟨rfl, ht⟩

/-! ## 2. Up to the write -/

abbrev AidedWorld (ρ : Type) := World (CommitState (Site Aided ρ))

def AidedWorld.store (w : AidedWorld ρ) : Store := w.state.outside.inner.store

/-- What was asked for so far on behalf of helpers. -/
def AidedWorld.calls (w : AidedWorld ρ) : List Aid := w.state.outside.inner.calls

/-- A write client of the scene was handed out by an aided store, as it is after `Plan.setUp` and after every run. -/
def HandedOut (s : Scene Aided ρ) : Prop :=
  ∀ client, s.client = some client → ∃ id config, client = Site.client (Aided.writer id config)

/-- The write client was handed out, and `K` holds of the store. -/
def Keeping (K : Aided → Prop) (s : Scene Aided ρ) : Prop := HandedOut s ∧ K s.inner

/-- What a round does to the store before it writes keeps `K`. -/
structure Aided.Opens (K : Aided → Prop) : Prop where
  metadataExists : ∀ basePath, Effect.Leads K (tableStore.metadataExists basePath) (fun _ => K) fun _ => K
  openMetadata : ∀ basePath, Effect.Leads K (tableStore.openMetadata basePath) (fun _ => K) fun _ => K
  initTable : ∀ shell, Effect.Leads K (tableStore.initTable shell) (fun _ => K) fun _ => K
  newClient : ∀ config,
    Effect.Leads K (Aided.inExposed (Exposed.inWarehouse (Warehouse.newClient config))) (fun _ => K) fun _ => K

section Opens

variable {plan : Plan ρ} {K : Aided → Prop}

theorem Keeping.ofInner {step : Effect Aided α} (h : Effect.Leads K step (fun _ => K) fun _ => K) :
    Stage (Keeping (ρ := ρ) K) (Coordinator.outside (Site.inInner step)) (fun _ => Keeping K) (Keeping K) := by
  refine Stage.ofInner ?_
  rintro s ⟨hhanded, hs⟩
  exact h.weaken (fun _ ht => ht ▸ hs) (fun _ _ ht => ⟨hhanded, ht⟩) fun _ _ ht => ⟨hhanded, ht⟩

theorem resume_keeping (hK : Aided.Opens K) :
    Stage (Keeping K) (plan.round Aided.tableStore).resumePoint (fun _ => Keeping K) (Keeping K) := by
  have hrefresh : Stage (Keeping K) (plan.round Aided.tableStore).refreshTimeline (fun _ => Keeping K) (Keeping K) :=
    refreshTimeline_stage plan Aided.tableStore (Keeping.ofInner (hK.metadataExists _))
      (Keeping.ofInner (hK.openMetadata _)) (Keeping.ofInner (hK.initTable _))
  refine (resumePoint_stage plan Aided.tableStore hrefresh fun _ _ hs => hs).weaken (fun _ hs => hs) ?_ fun _ hs => hs
  rintro point s ⟨_, _, -, hs⟩
  exact hs

theorem read_keeping (point : ResumePoint) :
    Stage (Keeping K) ((plan.round Aided.tableStore).read point) (fun _ => Keeping K) (Keeping K) := by
  refine (read_stage (A := Keeping K) (R := fun _ => Keeping K) plan Aided.tableStore plan.source.gives_anything
    fun _ _ hs _ => hs).weaken (fun _ hs => hs) ?_ fun s ⟨_, hs⟩ => hs
  rintro input s ⟨_, -, hs⟩
  exact hs

theorem createClient_keeping (hK : Aided.Opens K) (config : WriteConfig) {s : Scene Aided ρ} (hs : Keeping K s) :
    Effect.Leads (fun t => t = s.inner) (Aided.tableStore.createWriteClient config)
      (fun client t => Keeping K (⟨t, s.reads, some (Site.client client), s.closed⟩ : Scene Aided ρ))
      fun _ t => Keeping K { s with inner := t } := by
  obtain ⟨hhanded, hs⟩ := hs
  refine Effect.Leads.bind ((hK.newClient config).weaken (fun _ ht => ht ▸ hs) (fun _ _ ht => ht)
    fun _ _ ht => ⟨hhanded, ht⟩) fun id => Effect.leads_pure fun t ht => ⟨?_, ht⟩
  rintro _ ⟨⟩
  exact ⟨id, config, rfl⟩

theorem prepare_keeping (hK : Aided.Opens K) (provider : Option SchemaProvider) :
    Stage (Keeping K) ((plan.round Aided.tableStore).prepareClient provider)
      (fun _ s => s.client.isSome = true ∧ Keeping K s) (Keeping K) := by
  refine prepareClient_stage plan Aided.tableStore provider (fun _ hs hsome => ⟨hsome, hs⟩) ?_ (fun _ hs => hs)
    fun _ hs => hs.2
  intro config now s _ hs _ _
  exact (createClient_keeping hK config hs).weaken (fun _ ht => ht) (fun _ _ ht => ⟨rfl, ht⟩) fun _ _ ht => ht

theorem Round.Reaches.keeping (hK : Aided.Opens K) {w ready : AidedWorld ρ} {point : ResumePoint} {input : RoundInput}
    (hreaches : (plan.round Aided.tableStore).Reaches w point input ready)
    (hw : Keeping K w.state.scene) : Keeping K ready.state.scene := by
  obtain ⟨handle, started, resumed, read, hstart, hresume, hread, hprepare⟩ := hreaches
  have hstarted : Keeping K started.state.scene :=
    Effect.Leads.of_ok (recordStart_stage (E := Keeping K) fun _ hs => hs) hw hstart
  have hresumed : Keeping K resumed.state.scene := Effect.Leads.of_ok (resume_keeping hK) hstarted hresume
  have hgave : Keeping K read.state.scene := Effect.Leads.of_ok (read_keeping point) hresumed hread
  exact (Effect.Leads.of_ok (prepare_keeping hK input.provider) hgave hprepare).2

end Opens

/-! ## 3. What a round asks for -/

/-- The outcome of a write counts no records only if it was asked to write none. -/
theorem write_counts (id : Warehouse.ClientId) (config : WriteConfig) (operation : WriteOperation)
    (records : List PreparedRecord) (time : String) :
    Effect.Leads (fun _ => True) ((Exposed.writer id config).write operation records time)
      (fun outcome _ => outcome.totalRecords = 0 ↔ records = []) (fun _ _ => True) := by
  have hstage : Effect.Leads (fun _ => True) (Warehouse.write id operation records (some time))
      (fun outcome _ => outcome.totalRecords = 0 ↔ records = []) fun _ _ => True := by
    refine Effect.leads_of_each fun warehouse _ => ?_
    have hwrite : Effect.Leads (Warehouse.Holds warehouse.clients fun _ => True)
        (Warehouse.write id operation records (some time))
        (fun outcome => Warehouse.Holds warehouse.clients fun _ => outcome.totalRecords = 0 ↔ records = [])
        fun _ => Warehouse.Holds warehouse.clients fun _ => True := by
      refine Warehouse.write_leads (fun _ _ => trivial) ?_
      rintro known s _ now outcome changed - - ⟨combined, rfl, hcombined⟩ - hdone
      have htotal : outcome.totalRecords = combined.length := by
        rw [(Store.stage_outcome hdone).2, Store.stagedOutcome, Store.totalRecords_outcomeOf]
        exact congrArg Nat.cast (length_examined s known.config)
      -- Combining leaves none of a batch only if there was none.
      have hempty : combined = [] ↔ records = [] := by
        split at hcombined
        next =>
          obtain ⟨_, hkept⟩ := hcombined
          exact Dedup.keep_eq_nil_iff hkept
        next => rw [hcombined]
      rw [htotal, ← hempty]
      simp
    exact hwrite.weaken (fun _ hw => hw ▸ ⟨rfl, trivial⟩) (fun _ _ hw => hw.2) fun _ _ _ => trivial
  have hoperate : Effect.Leads (fun _ => True) (Exposed.operate (Warehouse.write id operation records (some time)))
      (fun outcome _ => outcome.totalRecords = 0 ↔ records = []) fun _ _ => True := by
    refine Effect.leads_trivial.bind fun _ => Effect.Leads.within fun exposed _ => ?_
    exact hstage.weaken (fun _ _ => trivial) (fun _ _ ht => ht) fun _ _ _ => trivial
  refine Effect.leads_state.bind fun before => ?_
  refine (hoperate.weaken (fun _ _ => trivial) (fun _ _ ht => ht) fun _ _ _ => trivial).bind fun outcome => ?_
  refine (Effect.leads_state.weaken (fun _ ht => ht) (fun _ _ ht => ht.2) fun _ _ ht => ht).bind fun after => ?_
  have hend : ∀ exposed : Exposed, Effect.Leads (fun _ => outcome.totalRecords = 0 ↔ records = [])
      (Effect.setState exposed) (fun _ _ => outcome.totalRecords = 0 ↔ records = []) fun _ _ => True :=
    fun exposed w hw => .inl ⟨(), { w with state := exposed }, rfl, hw⟩
  exact (hend _).bind fun _ => Effect.leads_pure fun _ ht => ht

/-- The request for a compaction that a plan makes after a commit. -/
def Plan.compactions (plan : Plan ρ) : List Aid := if plan.config.asyncCompaction then [.compaction] else []

/-- What a plan asks for on behalf of helpers after a commit of that many records. -/
def Plan.asks (plan : Plan ρ) (total : Int) : List Aid :=
  plan.compactions ++
    if total ≠ 0 ∧ plan.config.enableCatalogSync = true ∧ (plan.catalog.any fun catalog => catalog.enabled) = true then
      [.catalog]
    else []

/-- What a run asks for, by its outcome: nothing if it did not commit. -/
def Plan.attempts (plan : Plan ρ) : Except Failure RoundResult → List Aid
  | .ok result => if result.committed then plan.asks result.totalRecords else []
  | .error _ => []

section Attempts

variable {plan : Plan ρ} {total : Int} {records : List PreparedRecord} {calls : List Aid}

theorem Plan.syncsCatalog_iff (htotal : total = 0 ↔ records = []) : plan.SyncsCatalog records ↔
    total ≠ 0 ∧ plan.config.enableCatalogSync = true ∧ (plan.catalog.any fun catalog => catalog.enabled) = true := by
  rw [Plan.SyncsCatalog, ne_eq, ← htotal]
  simp [Option.any_eq_true]

theorem Plan.asks_of_syncs (htotal : total = 0 ↔ records = []) (hsyncs : plan.SyncsCatalog records) :
    plan.asks total = plan.compactions ++ [.catalog] := by
  rw [Plan.asks, if_pos ((Plan.syncsCatalog_iff htotal).mp hsyncs)]

theorem Plan.asks_of_quiet (htotal : total = 0 ↔ records = []) (hquiet : ¬plan.SyncsCatalog records) :
    plan.asks total = plan.compactions := by
  rw [Plan.asks, if_neg fun hsyncs => hquiet ((Plan.syncsCatalog_iff htotal).mpr hsyncs), List.append_nil]

theorem inExposed_quiet {step : Effect Exposed α} {V : α → Prop}
    (h : Effect.Leads (fun _ => True) step (fun a _ => V a) fun _ _ => True) :
    Effect.Leads (fun t => t.calls = calls) (Aided.inExposed step) (fun a t => V a ∧ t.calls = calls)
      fun _ t => t.calls = calls :=
  (Aided.inExposed_leads h).weaken (fun _ ht => ⟨trivial, ht⟩) (fun _ _ ht => ht) fun _ _ ht => ht.2

theorem inExposed_silent (step : Effect Exposed α) :
    Effect.Leads (fun t => t.calls = calls) (Aided.inExposed step) (fun _ t => t.calls = calls)
      fun _ t => t.calls = calls :=
  (inExposed_quiet (V := fun _ => True) Effect.leads_trivial).weaken (fun _ ht => ht) (fun _ _ ht => ht.2)
    fun _ _ ht => ht

/-- A write asks for what its report says, and for nothing if it fails. -/
theorem write_attempts {base : Scene Aided ρ} {id : Warehouse.ClientId} {config : WriteConfig}
    (hbase : base.client = some (Site.client (Aided.writer id config))) (operation : WriteOperation)
    (checkpoint : String) (marker : Option String) :
    Stage (At base fun t => t.calls = calls)
      ((plan.coordinator Aided.tableStore).write records checkpoint marker (some operation.name))
      (fun report => At base fun t => t.calls = calls ++ plan.asks report.totalRecords)
      (At base fun t => t.calls = calls) := by
  have hwrite : ∀ time, Effect.Leads (fun t => t.calls = calls) ((Aided.writer id config).write operation records time)
      (fun outcome t => (outcome.totalRecords = 0 ↔ records = []) ∧ t.calls = calls) fun _ t => t.calls = calls :=
    fun time => inExposed_quiet (write_counts id config operation records time)
  have hrefuse : ∀ time (outcome : WriteOutcome),
      Effect.Leads (fun t => (outcome.totalRecords = 0 ↔ records = []) ∧ t.calls = calls)
        ((Aided.writer id config).rollback time) (fun _ t => t.calls = calls) fun _ t => t.calls = calls :=
    fun time outcome => (inExposed_silent _).weaken (fun _ ht => ht.2) (fun _ _ ht => ht) fun _ _ ht => ht
  refine batch_stage hbase (inExposed_silent _) (fun _ ht => ⟨ht, ht⟩) hwrite (fun _ => inExposed_silent _)
    (fun time outcome _ => hrefuse time outcome) fun time outcome => Stage.of_each ?_
  rintro _ ⟨t, rfl, htotal, ht⟩
  have hcommit : Effect.Leads (fun t => t.calls = calls)
      ((Aided.writer id config).commit time outcome (Coordinator.commitMetadata checkpoint marker))
      (fun done t => if done then t.calls = calls else t.calls = calls) fun _ t => t.calls = calls :=
    (inExposed_silent _).weaken (fun _ ht => ht) (fun _ _ ht => by split <;> exact ht) fun _ _ ht => ht
  -- A request is noted before it is made, so it is on record however it turns out.
  have hcompact : plan.config.asyncCompaction = true →
      Effect.Leads (fun t => t.calls = calls) (Aided.writer id config).scheduleCompaction
        (fun _ t => t.calls = calls ++ plan.compactions) fun _ t => t.calls = calls ++ plan.compactions := by
    rintro hasync w rfl
    have hnoted := Aided.scheduleCompaction_leads id config w.state.store.look w.state.calls
    rw [Plan.compactions, if_pos hasync]
    exact (hnoted.weaken (fun _ ht => ht) (fun _ _ ht => ht.2) fun _ _ ht => ht.2) w ⟨rfl, rfl⟩
  have hskip : plan.config.asyncCompaction = false → ∀ t : Aided, t.calls = calls → t.calls = calls ++ plan.compactions := by
    intro hsync t ht
    rw [Plan.compactions, if_neg (by simp [hsync]), List.append_nil]
    exact ht
  have hdescribe : plan.SyncsCatalog records → ∀ basePath,
      Effect.Leads (fun t => t.calls = calls ++ plan.compactions) (Aided.tableStore.describeTable basePath)
        (fun _ t => t.calls = calls ++ plan.asks outcome.totalRecords)
        fun _ t => t.calls = calls ++ plan.asks outcome.totalRecords := by
    rintro hsyncs basePath w hw
    have hnoted := Aided.describeTable_leads basePath w.state.store.look w.state.calls
    rw [Plan.asks_of_syncs htotal hsyncs, ← List.append_assoc, ← hw]
    exact (hnoted.weaken (fun _ ht => ht) (fun _ _ ht => ht.2) fun _ _ ht => ht.2) w ⟨rfl, rfl⟩
  have hquiet : ¬plan.SyncsCatalog records → ∀ t : Aided, t.calls = calls ++ plan.compactions →
      t.calls = calls ++ plan.asks outcome.totalRecords := by
    intro hquiet t ht
    rw [Plan.asks_of_quiet htotal hquiet, ht]
  refine (finish_stage hbase hcommit hcompact hskip hdescribe hquiet).weaken ?_ ?_ fun _ hs => hs
  · rintro _ rfl
    exact ⟨t, rfl, ht⟩
  · rintro report s ⟨hreports, hs⟩
    rw [hreports.totalRecords]
    exact hs

theorem opens_calls : Aided.Opens fun t => t.calls = calls where
  metadataExists _ := inExposed_silent _
  openMetadata _ := inExposed_silent _
  initTable _ := inExposed_silent _
  newClient _ := inExposed_silent _

/-- A round asks for what its result says, and for nothing if it has none. -/
theorem run_attempts : Stage (Keeping fun t => t.calls = calls) (plan.round Aided.tableStore).run
    (fun result => Keeping fun t => t.calls = calls ++ plan.attempts (.ok result)) (Keeping fun t => t.calls = calls) := by
  refine run_stage (fun _ hs => hs) (resume_keeping opens_calls) fun point => ?_
  refine (read_keeping point).bind ?_
  rintro (_ | input)
  · refine Stage.ofPure fun s hs => ?_
    have hnothing : plan.attempts (.ok ((plan.round Aided.tableStore).nothingNew point)) = [] := rfl
    rw [hnothing, List.append_nil]
    exact hs
  · refine roundWrite_stage point input (prepare_keeping opens_calls input.provider)
      (withoutDuplicates_stage input.records fun _ hs => hs.2) fun records => Stage.of_each ?_
    rintro base ⟨hsome, hhanded, hcalls⟩
    obtain ⟨client, hclient⟩ := Option.isSome_iff_exists.mp hsome
    obtain ⟨id, config, rfl⟩ := hhanded client hclient
    have hwrite : Stage (At base fun t => t.calls = calls)
        ((plan.coordinator Aided.tableStore).write records input.checkpoint point.resetMarker
          (some plan.config.effective.operation.name))
        (fun report => At base fun t => t.calls = calls ++ plan.asks report.totalRecords)
        (At base fun t => t.calls = calls) := write_attempts hclient _ _ _
    refine hwrite.weaken ?_ ?_ ?_
    · rintro _ rfl
      exact ⟨_, rfl, hcalls⟩
    · rintro report _ ⟨t, rfl, ht⟩
      exact ⟨hhanded, ht⟩
    · rintro _ ⟨t, rfl, ht⟩
      exact ⟨hhanded, ht⟩

end Attempts

end TableSync
