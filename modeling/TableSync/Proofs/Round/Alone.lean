/-
  TableSync/Proofs/Round/Alone.lean
  =================================
  **A round that has the store to itself** — what it leaves, step by step.

  Nobody else uses the store while the round runs, but the clock moves as it
  likes and, unless the store is calm, any operation may break.  A committed
  write leaves `Store.Ended`, a failed one `Store.Abandoned`; a commit fails on
  a calm store only where the columns do not take the checkpoint or what else it
  records.  The round adds at most the registration of its table before the
  write.  `Plan.run_account` is
  the account of the whole round on which every statement about serial rounds
  rests.
-/
import TableSync.Proofs.Round.Protocol
import TableSync.Proofs.Store.Exposed
import TableSync.Proofs.Store.Written

namespace TableSync

variable {ρ : Type} {clean : Prop} {tried : Fields String → Prop} {clients : List ClientRecord}
variable {ledger : List StagedRow} {before : Store}

/-! ## 1. A write -/

/-- The checkpoint of a commit is under its key in the metadata. -/
theorem checkpoint?_completed (outcome : WriteOutcome) (checkpoint : String) (marker : Option String)
    (now : Timestamp) (row : InstantRow) :
    (Store.completed outcome (Coordinator.commitMetadata checkpoint marker) now row).checkpoint? = some checkpoint := by
  simp [InstantRow.checkpoint?, InstantRow.metadata, Store.completed, CommitMetadata.get?,
    Coordinator.commitMetadata, Fields.get?]

theorem alone_rollback {id : Warehouse.ClientId} {known : ClientRecord} (hknown : clients[id]? = some known)
    {time : String} {rows : List StagedRow} :
    Effect.Leads (Exposed.Holds clean clients ledger fun s =>
        known.closed = false ∧ before.Pending known.config (known.config.newInstant time) rows s)
      ((Exposed.writer id known.config).rollback time)
      (fun _ => Exposed.Holds clean clients ledger (before.Abandoned clean tried known.config))
      (fun _ => Exposed.Holds clean clients ledger (before.Abandoned clean tried known.config)) := by
  refine Exposed.operate_leads (Warehouse.rollback_leads ?_ ?_) fun hbroken s hs => .stuck hbroken hs.2
  · intro hnot s hs
    have hclosed := hnot known hknown
    rw [hs.1] at hclosed
    cases hclosed
  · intro found s now hfound _ hs
    obtain rfl : known = found := Option.some.inj (hknown.symm.trans hfound)
    exact hs.2.abandoned

/-- Committing what a write has staged: it is not refused. Only a store that breaks can fail it, or columns that do
not take what it records. -/
theorem alone_commit {id : Warehouse.ClientId} {known : ClientRecord} (hknown : clients[id]? = some known)
    {operation : WriteOperation} {records : List PreparedRecord} {extra : Fields String} {time : String}
    {outcome : WriteOutcome} {E : Store → Prop}
    (hbreak : ¬clean → ∀ s, before.Pending known.config (known.config.newInstant time)
      (before.stagedRows known.config operation records time) s → E s)
    (huntaken : Store.isRecordable known.config outcome extra = false →
      ∀ s, before.Pending known.config (known.config.newInstant time)
        (before.stagedRows known.config operation records time) s → E s) :
    Effect.Leads (Exposed.Holds clean clients ledger fun s => known.closed = false ∧
        before.Pending known.config (known.config.newInstant time)
          (before.stagedRows known.config operation records time) s)
      ((Exposed.writer id known.config).commit time outcome extra)
      (fun done => Exposed.Holds clean clients ledger fun s => done = true ∧
        before.Committed known.config (before.stagedRows known.config operation records time) extra time outcome s)
      (fun _ => Exposed.Holds clean clients ledger E) := by
  refine Exposed.operate_leads (Warehouse.commit_leads ?_ ?_ ?_ ?_) fun hbroken s hs => hbreak hbroken s hs.2
  · intro hnot s hs
    have hclosed := hnot known hknown
    rw [hs.1] at hclosed
    cases hclosed
  · intro found s now changed hfound _ hs hcommit
    obtain rfl : known = found := Option.some.inj (hknown.symm.trans hfound)
    exact ⟨rfl, hs.2.committed hcommit⟩
  · intro found s now refusal hfound _ hs hne hrefused
    obtain rfl : known = found := Option.some.inj (hknown.symm.trans hfound)
    exact absurd (hs.2.refused hrefused).1 hne
  · intro found s now hfound _ hs hrefused
    obtain rfl : known = found := Option.some.inj (hknown.symm.trans hfound)
    exact huntaken (hs.2.refused hrefused).2 s hs.2

/-- Staging a batch: the rows that it is staged as are put on record, and the outcome is that of the batch. -/
theorem alone_write {id : Warehouse.ClientId} {known : ClientRecord} (hknown : clients[id]? = some known)
    {operation : WriteOperation} {records : List PreparedRecord} {time : String} :
    Effect.Leads (Exposed.Holds clean clients ledger fun s =>
        known.closed = false ∧ before.Pending known.config (known.config.newInstant time) [] s)
      ((Exposed.writer id known.config).write operation records time)
      (fun outcome t => ∃ batch, outcome = before.stagedOutcome known.config operation batch ∧
        t.Holds clean clients (ledger ++ before.stagedRows known.config operation batch time)
          fun s => known.closed = false ∧ before.Pending known.config (known.config.newInstant time)
            (before.stagedRows known.config operation batch time) s)
      (fun _ => Exposed.Holds clean clients ledger fun s =>
        known.closed = false ∧ before.Pending known.config (known.config.newInstant time) [] s) := by
  have hstage : Effect.Leads
      (Exposed.Holds clean clients ledger fun s =>
        known.closed = false ∧ before.Pending known.config (known.config.newInstant time) [] s)
      (Exposed.operate (Warehouse.write id operation records (some time)))
      (fun outcome => Exposed.Holds clean clients ledger fun s => ∃ rows, s.staged = before.staged ++ rows ∧
        ∃ batch, (rows = before.stagedRows known.config operation batch time ∧
          outcome = before.stagedOutcome known.config operation batch) ∧ known.closed = false ∧
            before.Pending known.config (known.config.newInstant time) rows s)
      (fun _ => Exposed.Holds clean clients ledger fun s =>
        known.closed = false ∧ before.Pending known.config (known.config.newInstant time) [] s) := by
    refine Exposed.operate_leads (Warehouse.write_leads (fun _ hs => hs) ?_) fun _ _ hs => hs
    intro found s batch now outcome changed hfound hopen _ hs hstage
    obtain rfl : known = found := Option.some.inj (hknown.symm.trans hfound)
    have hpending := hs.2.staged hstage
    exact ⟨_, by rw [hpending.eq], batch, ⟨rfl, hs.2.outcome_eq hstage⟩, hopen, hpending⟩
  have hnothing : ∀ s, known.closed = false ∧ before.Pending known.config (known.config.newInstant time) [] s →
      s.staged = before.staged := by
    rintro s ⟨-, hs⟩
    rw [hs.eq]
    exact List.append_nil _
  refine (Exposed.recorded_leads hnothing hstage).weaken (fun _ ht => ht) ?_ fun _ _ ht => ht
  rintro outcome t ⟨rows, ht⟩
  obtain ⟨batch, ⟨rfl, houtcome⟩, -⟩ := ht.warehouse.2
  refine ⟨batch, houtcome, ht.mono ?_⟩
  rintro s ⟨other, -, hs⟩
  exact hs

/-- Starting a commit: if the client does, the instant is pending and the client is open. -/
theorem alone_start (hlawful : before.Lawful) {id : Warehouse.ClientId} {known : ClientRecord}
    (hknown : clients[id]? = some known) :
    Effect.Leads (Exposed.Holds clean clients ledger fun s => s = before)
      (Exposed.writer id known.config).startCommit
      (fun time => Exposed.Holds clean clients ledger fun s =>
        known.closed = false ∧ before.Pending known.config (known.config.newInstant time) [] s)
      (fun _ => Exposed.Holds clean clients ledger fun s => s = before) := by
  refine Exposed.operate_leads (Warehouse.startCommit_leads (fun _ hs => hs) ?_) fun _ _ hs => hs
  intro found s now time changed hfound hopen hs hstart
  obtain rfl : known = found := Option.some.inj (hknown.symm.trans hfound)
  subst hs
  exact ⟨hopen, hlawful.startCommit_pending hstart⟩

theorem alone_compact (hlawful : before.Lawful) {id : Warehouse.ClientId} {known : ClientRecord}
    (hknown : clients[id]? = some known) {rows : List StagedRow} {extra : Fields String} {time : String}
    {outcome : WriteOutcome} :
    Effect.Leads (Exposed.Holds clean clients ledger (before.Committed known.config rows extra time outcome))
      (Exposed.writer id known.config).scheduleCompaction
      (fun _ => Exposed.Holds clean clients ledger (before.Ended known.config rows extra time outcome))
      (fun _ => Exposed.Holds clean clients ledger (before.Ended known.config rows extra time outcome)) := by
  refine Exposed.operate_leads (Warehouse.scheduleCompaction_leads (fun s hs => ⟨s, hs, .inl rfl⟩) ?_)
    fun _ s hs => ⟨s, hs, .inl rfl⟩
  intro found s now asked changed hfound _ hs hschedule
  obtain rfl : known = found := Option.some.inj (hknown.symm.trans hfound)
  rcases Store.scheduleCompaction_eq_ok (hs.lawful hlawful) hschedule with ⟨-, hsame⟩ | ⟨time, -, hrequested⟩
  · exact ⟨s, hs, .inl hsame⟩
  · exact ⟨s, hs, .inr ⟨time, hrequested⟩⟩

theorem alone_describe {P : Store → Prop} (basePath : String) :
    Effect.Leads (Exposed.Holds clean clients ledger P) (Exposed.tableStore.describeTable basePath)
      (fun _ => Exposed.Holds clean clients ledger P) (fun _ => Exposed.Holds clean clients ledger P) :=
  Exposed.operate_leads (Warehouse.describeTable_leads basePath fun _ hs => hs) fun _ _ hs => hs

/-- The course of a write on a store that is left alone. -/
def aloneOutline (clean : Prop) (ledger : List StagedRow) (hlawful : before.Lawful) (id : Warehouse.ClientId)
    (known : ClientRecord) (hknown : clients[id]? = some known) (operation : WriteOperation) (extra : Fields String) :
    WriteOutline Exposed.tableStore (Exposed.writer id known.config) operation extra where
  ready := Exposed.Holds clean clients ledger fun s => s = before
  started time := Exposed.Holds clean clients ledger fun s =>
    known.closed = false ∧ before.Pending known.config (known.config.newInstant time) [] s
  staged time outcome t := ∃ batch, outcome = before.stagedOutcome known.config operation batch ∧
    t.Holds clean clients (ledger ++ before.stagedRows known.config operation batch time)
      fun s => known.closed = false ∧ before.Pending known.config (known.config.newInstant time)
        (before.stagedRows known.config operation batch time) s
  unstaged time := Exposed.Holds clean clients ledger fun s =>
    known.closed = false ∧ before.Pending known.config (known.config.newInstant time) [] s
  committed time outcome t := ∃ rows,
    t.Holds clean clients (ledger ++ rows) (before.Committed known.config rows extra time outcome)
  ended time outcome t := ∃ rows,
    t.Holds clean clients (ledger ++ rows) (before.Ended known.config rows extra time outcome)
  failed t := ∃ ledger, t.Holds clean clients ledger (before.Abandoned clean (fun other => other = extra) known.config)
  ready_failed _ ht := ⟨ledger, ht.mono fun _ hs => hs ▸ .untouched⟩
  start := alone_start hlawful hknown
  write time records := alone_write hknown
  undo time := (alone_rollback hknown).weaken (fun _ ht => ht) (fun _ _ ht => ⟨_, ht⟩) fun _ _ ht => ⟨_, ht⟩
  refuse time outcome _ := by
    apply Effect.leads_of_exists
    intro batch
    exact (alone_rollback hknown).weaken (fun _ ht => ht.2) (fun _ _ ht => ⟨_, ht⟩) fun _ _ ht => ⟨_, ht⟩
  commit time outcome := by
    apply Effect.leads_of_exists
    intro batch
    refine Effect.leads_of_fact fun houtcome => ?_
    refine (alone_commit hknown (fun hbroken _ hs => .stuck hbroken hs) fun huntaken _ hs => ?_).weaken (fun _ ht => ht)
      ?_ fun _ _ ht => ⟨_, ht⟩
    · exact .unrecorded rfl ⟨hs, houtcome ▸ huntaken⟩
    rintro done t ht
    obtain ⟨rfl, -⟩ := ht.warehouse.2
    exact ⟨_, ht.mono fun _ hs => hs.2⟩
  compact time outcome := by
    apply Effect.leads_of_exists
    intro rows
    exact (alone_compact hlawful hknown).weaken (fun _ ht => ht) (fun _ _ ht => ⟨rows, ht⟩) fun _ _ ht => ⟨rows, ht⟩
  committed_ended time outcome t ht := by
    obtain ⟨rows, ht⟩ := ht
    exact ⟨rows, ht.mono fun s hs => ⟨s, hs, .inl rfl⟩⟩
  describe time outcome basePath := by
    apply Effect.leads_of_exists
    intro rows
    exact (alone_describe basePath).weaken (fun _ ht => ht) (fun _ _ ht => ⟨rows, ht⟩) fun _ _ ht => ⟨rows, ht⟩

/-! ## 2. What a round finds -/

/-- The store with one more table. -/
def Store.withTable (store : Store) (shell : TableShell) : Store := { store with tables := store.tables ++ [shell] }

/-- The timeline that a round finds, and the store from which it goes on: a table that is not there is
registered. -/
inductive FindsTimeline (config : SyncConfig) (found : Store) : Option Timeline → Store → Prop where
  | known {shell : TableShell} : found.table? config.targetBasePath = some shell →
      FindsTimeline config found (some (found.timelineOf config.targetBasePath shell.tableType)) found
  | fresh : found.table? config.targetBasePath = none →
      FindsTimeline config found none (found.withTable config.newShell)

theorem FindsTimeline.of_initTable {config : SyncConfig} {found changed : Store}
    (habsent : found.hasTable config.targetBasePath = false) (hinit : found.initTable config.newShell = .ok changed) :
    FindsTimeline config found none changed := by
  have hnone : found.table? config.targetBasePath = none := by simpa [Store.hasTable] using habsent
  have hpath : found.hasTable config.newShell.basePath = false := habsent
  unfold Store.initTable at hinit
  rw [hpath] at hinit
  simp only [Bool.false_eq_true, if_false] at hinit
  split at hinit
  · cases hinit
  · cases hinit
    exact .fresh hnone

/-- A round resumes at a point, and goes on from a store. -/
def Resumes (config : SyncConfig) (found : Store) (point : ResumePoint) (opened : Store) : Prop :=
  ∃ timeline now, ResumePoint.ofTimeline timeline config.checkpoint now = .ok point ∧
    FindsTimeline config found timeline opened

/-- A round has registered its table at most. -/
def Opened (config : SyncConfig) (found opened : Store) : Prop :=
  opened = found ∨ (found.table? config.targetBasePath = none ∧ opened = found.withTable config.newShell)

theorem FindsTimeline.opened {config : SyncConfig} {found opened : Store} {timeline : Option Timeline}
    (h : FindsTimeline config found timeline opened) : Opened config found opened := by
  cases h with
  | known htable => exact .inl rfl
  | fresh htable => exact .inr ⟨htable, rfl⟩

theorem Resumes.opened {config : SyncConfig} {found opened : Store} {point : ResumePoint}
    (h : Resumes config found point opened) : Opened config found opened := by
  obtain ⟨timeline, now, -, hfinds⟩ := h
  exact hfinds.opened

theorem Opened.same {config : SyncConfig} {found opened : Store} (h : Opened config found opened) :
    opened.records = found.records ∧ opened.staged = found.staged ∧ opened.instants = found.instants := by
  rcases h with rfl | ⟨-, rfl⟩
  · exact ⟨rfl, rfl, rfl⟩
  · exact ⟨rfl, rfl, rfl⟩

theorem Opened.lawful {config : SyncConfig} {found opened : Store} (h : Opened config found opened)
    (hfound : found.Lawful) : opened.Lawful := by
  rcases h with rfl | ⟨-, rfl⟩
  · exact hfound
  · refine hfound.withTables fun path hpath => ?_
    obtain ⟨shell, hmem, hshell⟩ := Store.hasTable_iff.mp hpath
    exact Store.hasTable_iff.mpr ⟨shell, List.mem_append_left _ hmem, hshell⟩

/-- A table that is registered has the type that the round is configured for. -/
theorem Opened.typed {config : SyncConfig} {found opened : Store} (h : Opened config found opened)
    (hfound : ∀ shell, found.table? config.targetBasePath = some shell → shell.tableType = config.tableType) :
    ∀ shell, opened.table? config.targetBasePath = some shell → shell.tableType = config.tableType := by
  intro shell hshell
  rcases h with rfl | ⟨habsent, rfl⟩
  · exact hfound shell hshell
  · rw [Store.table?, Store.withTable, List.find?_append] at hshell
    rw [Store.table?] at habsent
    rw [habsent, Option.none_or] at hshell
    have hnew := List.mem_of_find?_eq_some hshell
    rw [List.mem_singleton.mp hnew]
    rfl

/-- Registering a table completes nothing. -/
theorem Opened.completedInstants {config : SyncConfig} {found opened : Store} (h : Opened config found opened) :
    opened.completedInstants = found.completedInstants := by
  rcases h with rfl | ⟨-, rfl⟩
  · rfl
  · rfl

theorem Opened.hasTable {config : SyncConfig} {found opened : Store} (h : Opened config found opened) {path : String}
    (hpath : opened.hasTable path = true) : found.hasTable path = true ∨ path = config.targetBasePath := by
  rcases h with rfl | ⟨-, rfl⟩
  · exact .inl hpath
  · obtain ⟨shell, hmem, rfl⟩ := Store.hasTable_iff.mp hpath
    rcases List.mem_append.mp hmem with hold | hnew
    · exact .inl (Store.hasTable_iff.mpr ⟨shell, hold, rfl⟩)
    · rw [List.mem_singleton.mp hnew]
      exact .inr rfl

/-! ## 3. A round -/

/-- A configuration that a plan can make for its write client. -/
def Plan.Configures (plan : Plan ρ) (config : WriteConfig) : Prop :=
  ∃ provider now, plan.config.writeConfig provider now = .ok config

/-- The write client of a round, if there is one, was handed out by the store for the round. -/
def Plan.Attached (plan : Plan ρ) (s : Scene Exposed ρ) : Prop :=
  ∀ client, s.client = some client → ∃ id known,
    client = Site.client (Exposed.writer id known.config) ∧
    s.inner.warehouse.clients[id]? = some known ∧ plan.Configures known.config

/-- The store of a scene. -/
def Scene.store (s : Scene Exposed ρ) : Store := s.inner.warehouse.store

/-- A round that ended without anything new: it read once, and the checkpoint had not moved. -/
structure Plan.Idles (plan : Plan ρ) (G : Option String → Delivery → Prop) (before : Scene Exposed ρ)
    (result : RoundResult) (after : Scene Exposed ρ) (point : ResumePoint) (delivery : Delivery) : Prop where
  resumes : Resumes plan.config before.store point after.store
  given : G point.value delivery
  reads : after.reads = before.reads ++ [⟨point.value, some delivery⟩]
  unmoved : delivery.checkpoint = point.value
  status : result.status = .noNewData

/-- The result counts what a write counted. -/
def RoundResult.Counts (result : RoundResult) (outcome : WriteOutcome) : Prop :=
  result.totalRecords = outcome.totalRecords ∧ result.totalErrorRecords = outcome.totalErrorRecords

/-- A round that committed: it read once, and committed what it read with its checkpoint. -/
structure Plan.Commits (plan : Plan ρ) (G : Option String → Delivery → Prop) (before : Scene Exposed ρ)
    (result : RoundResult) (after : Scene Exposed ρ) (point : ResumePoint) (delivery : Delivery)
    (opened : Store) (config : WriteConfig) (checkpoint time : String) : Prop where
  resumes : Resumes plan.config before.store point opened
  given : G point.value delivery
  reads : after.reads = before.reads ++ [⟨point.value, some delivery⟩]
  read : delivery.checkpoint = some checkpoint
  moved : some checkpoint ≠ point.value
  configures : plan.Configures config
  client : ∃ id, after.client = some (Site.client (Exposed.writer id config))
  ended : ∃ outcome rows, after.inner.stagings = before.inner.stagings ++ rows ∧ opened.Ended config rows
    (Coordinator.commitMetadata checkpoint point.resetMarker) time outcome after.store
  status : result.status = .committed
  returned : result.checkpoint = some checkpoint
  instant : result.instantTime = some time
  counted : ∃ outcome rows, opened.Ended config rows (Coordinator.commitMetadata checkpoint point.resetMarker) time
    outcome after.store ∧ result.Counts outcome

/-- What a round tries to record with its commit: the checkpoint that it read, and the override that was in force. -/
def Plan.Tries (plan : Plan ρ) (before after : Scene Exposed ρ) (opened : Store) (config : WriteConfig)
    (extra : Fields String) : Prop :=
  plan.Configures config ∧ ∃ point delivery checkpoint, Resumes plan.config before.store point opened ∧
    after.reads = before.reads ++ [⟨point.value, some delivery⟩] ∧ delivery.checkpoint = some checkpoint ∧
    extra = Coordinator.commitMetadata checkpoint point.resetMarker

/-- A round that failed: it read once at most, from the point where it resumed. -/
structure Plan.Stops (plan : Plan ρ) (clean : Prop) (before after : Scene Exposed ρ) (opened : Store)
    (config : WriteConfig) : Prop where
  start : Opened plan.config before.store opened
  abandoned : opened.Abandoned clean (plan.Tries before after opened config) config after.store
  reads : after.reads = before.reads ∨ ∃ point given, Resumes plan.config before.store point opened ∧
    after.reads = before.reads ++ [⟨point.value, given⟩]

section Round

variable {plan : Plan ρ} {before : Scene Exposed ρ} {G : Option String → Delivery → Prop}

theorem resume_account (hcalm : clean → before.inner.Calm) :
    Stage (fun s => s = before) (plan.round Exposed.tableStore).resumePoint
      (fun point => At before (before.inner.Still clean (Resumes plan.config before.store point)))
      (At before (before.inner.Still clean (Opened plan.config before.store))) := by
  have hrefresh : Stage (At before (before.inner.Still clean fun s => s = before.store))
      (plan.round Exposed.tableStore).refreshTimeline
      (fun timeline => At before (before.inner.Still clean (FindsTimeline plan.config before.store timeline)))
      (At before (before.inner.Still clean (Opened plan.config before.store))) := by
    refine refreshTimeline_stage plan Exposed.tableStore
      (Stage.ofStore (Exposed.operate_leads (Warehouse.metadataExists_leads _) fun _ s hs => .inl hs))
      (Stage.ofStore ?_) (Stage.ofStore ?_)
    · refine (Exposed.operate_leads (Warehouse.openMetadata_leads _ fun s hs => .inl hs.2)
        fun _ s hs => .inl hs.2).weaken (fun _ ht => ht) (fun metadata _ ht => ht.mono fun s hs => ?_) fun _ _ ht => ht
      obtain ⟨⟨-, rfl⟩, shell, htable, htimeline⟩ := hs
      rw [htimeline]
      exact .known htable
    · refine Exposed.operate_leads (Warehouse.initTable_leads ?_ fun s hs => .inl hs.2) fun _ s hs => .inl hs.2
      rintro s changed ⟨habsent, rfl⟩ hinit
      exact .of_initTable habsent.symm hinit
  have hresume := resumePoint_stage plan Exposed.tableStore hrefresh
    fun timeline s hs => hs.mono fun t ht => ht.mono fun _ hfinds => hfinds.opened
  refine hresume.weaken ?_ ?_ fun _ hs => hs
  · intro s hs
    exact ⟨before.inner, hs, hcalm, rfl, rfl, rfl⟩
  · rintro point s ⟨timeline, now, hpoint, t, rfl, ht⟩
    exact ⟨t, rfl, ht.mono fun _ hfinds => ⟨timeline, now, hpoint, hfinds⟩⟩

/-- After the read: the round resumed at `point`, and read once. -/
def AfterRead (plan : Plan ρ) (G : Option String → Delivery → Prop) (clean : Prop) (before : Scene Exposed ρ)
    (point : ResumePoint) (given : Option Delivery) (s : Scene Exposed ρ) : Prop :=
  (∀ delivery, given = some delivery → G point.value delivery) ∧
    At { before with reads := before.reads ++ [⟨point.value, given⟩] }
      (before.inner.Still clean (Resumes plan.config before.store point)) s

/-- Before the write: the round goes on from the store `opened`, with a client of its own. -/
structure ReadyToWrite (plan : Plan ρ) (clean : Prop) (before : Scene Exposed ρ) (point : ResumePoint)
    (delivery : Delivery) (opened : Store) (id : Warehouse.ClientId) (known : ClientRecord)
    (clients : List ClientRecord) (s : Scene Exposed ρ) : Prop where
  resumes : Resumes plan.config before.store point opened
  reads : s.reads = before.reads ++ [⟨point.value, some delivery⟩]
  client : s.client = some (Site.client (Exposed.writer id known.config))
  handed : clients[id]? = some known
  configures : plan.Configures known.config
  inner : s.inner.Holds clean clients before.inner.stagings fun store => store = opened

/-- How a round that fails leaves the scene. -/
def StopsFrom (plan : Plan ρ) (clean : Prop) (before after : Scene Exposed ρ) : Prop :=
  plan.Attached after ∧ (clean → after.inner.Calm) ∧ ∃ opened config, plan.Stops clean before after opened config

/-- How a round that has a result leaves the scene. -/
def EndsFrom (plan : Plan ρ) (G : Option String → Delivery → Prop) (clean : Prop) (before : Scene Exposed ρ)
    (result : RoundResult) (after : Scene Exposed ρ) : Prop :=
  plan.Attached after ∧ (clean → after.inner.Calm) ∧
    ((∃ point delivery, plan.Idles G before result after point delivery) ∨
      ∃ point delivery opened config checkpoint time,
        plan.Commits G before result after point delivery opened config checkpoint time)

theorem Plan.Attached.of_stay {s : Scene Exposed ρ} (h : plan.Attached before) (hclient : s.client = before.client)
    (hclients : Warehouse.ClientsStay before.inner.warehouse.clients s.inner.warehouse.clients) : plan.Attached s := by
  intro client hsome
  obtain ⟨id, known, rfl, hknown, hconfigures⟩ := h client (hclient ▸ hsome)
  obtain ⟨known', hknown', hconfig⟩ := hclients id known hknown
  exact ⟨id, known', by rw [hconfig], hknown', hconfig ▸ hconfigures⟩

theorem Plan.Attached.of_same {s : Scene Exposed ρ} (h : plan.Attached before) (hclient : s.client = before.client)
    (hclients : s.inner.warehouse.clients = before.inner.warehouse.clients) : plan.Attached s :=
  h.of_stay hclient (hclients ▸ Warehouse.ClientsStay.refl _)

theorem AfterRead.stops (hattached : plan.Attached before) {point : ResumePoint} {given : Option Delivery}
    {s : Scene Exposed ρ} (h : AfterRead plan G clean before point given s) : StopsFrom plan clean before s := by
  obtain ⟨-, t, rfl, hcalm, -, hclients, hresumes⟩ := h
  refine ⟨hattached.of_same rfl hclients, hcalm, _, default, hresumes.opened, .untouched, .inr ?_⟩
  exact ⟨point, given, hresumes, rfl⟩

variable {point : ResumePoint} {delivery : Delivery} {opened : Store} {id : Warehouse.ClientId} {known : ClientRecord}

theorem ReadyToWrite.attached {s : Scene Exposed ρ}
    (h : ReadyToWrite plan clean before point delivery opened id known clients s) {t : Exposed}
    (hclients : t.warehouse.clients = clients) : plan.Attached { s with inner := t } := by
  intro client hsome
  rw [h.client] at hsome
  cases hsome
  exact ⟨id, known, rfl, hclients ▸ h.handed, h.configures⟩

theorem ReadyToWrite.stops {s : Scene Exposed ρ}
    (h : ReadyToWrite plan clean before point delivery opened id known clients s) {t : Exposed} {checkpoint : String}
    (hread : delivery.checkpoint = some checkpoint)
    (ht : t.Holds clean clients ledger (opened.Abandoned clean
      (fun extra => extra = Coordinator.commitMetadata checkpoint point.resetMarker) known.config)) :
    StopsFrom plan clean before { s with inner := t } :=
  ⟨h.attached ht.warehouse.1, ht.calm, opened, known.config, h.resumes.opened,
    ht.warehouse.2.mono fun _ hextra => ⟨h.configures, point, delivery, checkpoint, h.resumes, h.reads, hread, hextra⟩,
    .inr ⟨point, some delivery, h.resumes, h.reads⟩⟩

/-- Nothing was done with the client that the round has. -/
theorem ReadyToWrite.idle {s : Scene Exposed ρ}
    (h : ReadyToWrite plan clean before point delivery opened id known clients s) : StopsFrom plan clean before s :=
  ⟨h.attached h.inner.warehouse.1, h.inner.calm, opened, known.config, h.resumes.opened,
    (show s.store = opened from h.inner.warehouse.2) ▸ .untouched, .inr ⟨point, some delivery, h.resumes, h.reads⟩⟩

/-- The account of the write client: kept if there is one, else handed out by the store. -/
theorem prepare_account (hattached : plan.Attached before) (provider : Option SchemaProvider) :
    Stage (AfterRead plan G clean before point (some delivery)) ((plan.round Exposed.tableStore).prepareClient provider)
      (fun _ s => ∃ opened id known clients, ReadyToWrite plan clean before point delivery opened id known clients s)
      (StopsFrom plan clean before) := by
  refine prepareClient_stage plan Exposed.tableStore provider ?_ ?_ ?_ ?_
  · rintro s ⟨-, t, rfl, hcalm, hstagings, hclients, hresumes⟩ hsome
    obtain ⟨client, hclient⟩ := Option.isSome_iff_exists.mp hsome
    obtain ⟨id, known, rfl, hknown, hconfigures⟩ := hattached client hclient
    exact ⟨_, id, known, _, hresumes, rfl, hclient, hknown, hconfigures, hcalm, hstagings, hclients, rfl⟩
  · rintro config now s hconfig ⟨-, t, rfl, hcalm, hstagings, hclients, hresumes⟩ - -
    have hstart : ∀ u, u = t → before.inner.Still clean (fun store => store = t.warehouse.store) u := by
      rintro _ rfl
      exact ⟨hcalm, hstagings, hclients, rfl⟩
    refine (Exposed.createWriteClient_leads config).weaken hstart ?_ fun _ _ hu => hu
    rintro client u ⟨rfl, hu⟩
    exact ⟨_, _, { config := config }, _, hresumes, rfl, rfl, by simp, ⟨provider, now, hconfig⟩, hu⟩
  · exact fun s hs => hs.stops hattached
  · rintro s ⟨opened, id, known, clients, hready⟩
    exact hready.idle

/-- The account of the commit protocol, run on what was read. -/
theorem commit_account (hlawful : before.store.Lawful) {checkpoint : String}
    (hread : delivery.checkpoint = some checkpoint) (hmoved : some checkpoint ≠ point.value)
    (hgiven : G point.value delivery) (records : List PreparedRecord) :
    Stage (fun s => ∃ opened id known clients, ReadyToWrite plan clean before point delivery opened id known clients s)
      ((plan.coordinator Exposed.tableStore).write records checkpoint point.resetMarker
        (some plan.config.effective.operation.name))
      (fun commit => EndsFrom plan G clean before
        ((plan.round Exposed.tableStore).committedResult point checkpoint commit))
      (StopsFrom plan clean before) := by
  refine Stage.of_each ?_
  rintro base ⟨opened, id, known, clients, hready⟩
  have hopened : opened.Lawful := hready.resumes.opened.lawful hlawful
  let outline := aloneOutline clean before.inner.stagings hopened id known hready.handed plan.config.effective.operation
    (Coordinator.commitMetadata checkpoint point.resetMarker)
  have hwrite : Stage (At base outline.ready)
      ((plan.coordinator Exposed.tableStore).write records checkpoint point.resetMarker
        (some plan.config.effective.operation.name))
      (fun commit s => ∃ outcome, commit.Reports commit.instantTime outcome ∧
        At base (outline.ended commit.instantTime outcome) s) (At base outline.failed) :=
    write_stage outline hready.client records
  refine hwrite.weaken ?_ ?_ ?_
  · intro s hs
    exact ⟨base.inner, hs, hready.inner⟩
  · rintro commit s ⟨outcome, hreports, t, rfl, rows, ht⟩
    refine ⟨hready.attached ht.warehouse.1, ht.calm, .inr ⟨point, delivery, opened, known.config, checkpoint,
      commit.instantTime, ?_⟩⟩
    exact ⟨hready.resumes, hgiven, hready.reads, hread, hmoved, hready.configures, ⟨id, hready.client⟩,
      ⟨outcome, rows, ht.stagings, ht.warehouse.2⟩, rfl, rfl, rfl,
      ⟨outcome, rows, ht.warehouse.2, hreports.totalRecords, hreports.totalErrorRecords⟩⟩
  · rintro s ⟨t, rfl, _, ht⟩
    exact hready.stops hread ht

/-- The account of a round that has the store to itself. -/
theorem run_account (hlawful : before.store.Lawful) (hattached : plan.Attached before)
    (hcalm : clean → before.inner.Calm) (hsource : plan.source.Gives G) :
    Stage (fun s => s = before) (plan.round Exposed.tableStore).run (EndsFrom plan G clean before)
      (StopsFrom plan clean before) := by
  have huntouched : ∀ s, s = before → StopsFrom plan clean before s := by
    rintro _ rfl
    exact ⟨hattached, hcalm, _, default, .inl rfl, .untouched, .inl rfl⟩
  have hresume : Stage (fun s => s = before) (plan.round Exposed.tableStore).resumePoint
      (fun point => At before (before.inner.Still clean (Resumes plan.config before.store point)))
      (StopsFrom plan clean before) := by
    refine (resume_account hcalm).weaken (fun _ hs => hs) (fun _ _ hs => hs) ?_
    rintro s ⟨t, rfl, ht⟩
    exact ⟨hattached.of_same rfl ht.warehouse.1, ht.calm, _, default, ht.warehouse.2, .untouched, .inl rfl⟩
  refine run_stage huntouched hresume fun point => ?_
  refine sync_stage (R := AfterRead plan G clean before point) point hsource ?_ ?_ ?_ ?_
  · rintro s given ⟨t, rfl, ht⟩ hgiven
    exact ⟨hgiven, t, rfl, ht⟩
  · exact fun given s hs => hs.stops hattached
  · rintro delivery s hunmoved ⟨hgiven, t, rfl, ht⟩
    refine ⟨hattached.of_same rfl ht.warehouse.1, ht.calm, .inl ⟨point, delivery, ?_⟩⟩
    exact ⟨ht.warehouse.2, hgiven delivery rfl, rfl, hunmoved, rfl⟩
  · rintro delivery input ⟨hread, hmoved⟩
    refine Stage.of_fact fun hgiven => ?_
    have hprepare : Stage (AfterRead plan G clean before point (some delivery))
        ((plan.round Exposed.tableStore).prepareClient input.provider)
        (fun _ s => ∃ opened id known clients, ReadyToWrite plan clean before point delivery opened id known clients s)
        (StopsFrom plan clean before) := prepare_account hattached input.provider
    refine (roundWrite_stage point input hprepare (withoutDuplicates_stage input.records ?_) fun records => ?_).weaken
      (fun s hs => ⟨hgiven, hs⟩) (fun _ _ hs => hs) fun _ hs => hs
    · rintro s ⟨opened, id, known, clients, hready⟩
      exact hready.idle
    · exact commit_account hlawful hread (hread ▸ hmoved) (hgiven delivery rfl) records

end Round

end TableSync
