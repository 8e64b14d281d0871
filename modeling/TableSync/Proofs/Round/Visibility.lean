/-
  TableSync/Proofs/Round/Visibility.lean
  ======================================
  **Visibility** — what the next round sees of a commit.

  The timeline that a round reads is that of the type on the shell of its
  table.  The instant that it writes has the path and the action that the
  configuration of its write client says.  A round that finds another type than
  its own warns and goes on, and a write property may name the path or the type,
  so the two need not agree.  Where they do, a commit is the last instant of the
  next reader, and the next round resumes from it; where they do not, the
  timeline of the table stays as it was (`Course.commit_visible`).
-/
import TableSync.Proofs.Config.Target
import TableSync.Proofs.Round.Course

namespace TableSync

variable {ρ : Type}

/-! ## 1. Writing where readers look -/

/-- A write client writes to the timeline that readers of a table see. -/
def WriteConfig.WritesTo (config : WriteConfig) (path : String) (tableType : TableType) : Prop :=
  config.basePath = path ∧ config.tableType = tableType

theorem TableType.commitAction_inj {a b : TableType} : a.commitAction = b.commitAction ↔ a = b := by
  cases a <;> cases b <;> decide

namespace Store

variable {before after : Store} {config : WriteConfig} {rows : List StagedRow} {time path : String}
variable {outcome : WriteOutcome} {tableType : TableType}

theorem timelineOf_congr (h : after.completedCommits path tableType = before.completedCommits path tableType) :
    after.timelineOf path tableType = before.timelineOf path tableType := by
  simp only [timelineOf, h]

/-- A write to another path or of another type leaves the timeline of a table as it is. -/
theorem Ended.timelineOf {extra : Fields String} (h : before.Ended config rows extra time outcome after)
    (hbefore : before.Lawful) (hother : ¬config.WritesTo path tableType) :
    after.timelineOf path tableType = before.timelineOf path tableType := by
  obtain ⟨now, hcommits⟩ := h.completedCommits hbefore path tableType
  apply timelineOf_congr
  rw [hcommits, if_neg, List.append_nil]
  intro hsame
  exact hother ⟨hsame.1, TableType.commitAction_inj.mp hsame.2⟩

/-- A write to the path and of the type of a table comes last in its timeline. -/
theorem Ended.lastCommit? {extra : Fields String} (h : before.Ended config rows extra time outcome after)
    (hbefore : before.Lawful) (hwrites : config.WritesTo path tableType) :
    ∃ now, after.lastCommit? path tableType = some (completed outcome extra now (config.newInstant time)) := by
  obtain ⟨now, hcommits⟩ := h.completedCommits hbefore path tableType
  refine ⟨now, ?_⟩
  rw [Store.lastCommit?, hcommits, if_pos, List.getLast?_concat]
  constructor
  · exact hwrites.1
  · exact congrArg TableType.commitAction hwrites.2

theorem Ended.typed {extra : Fields String} (h : before.Ended config rows extra time outcome after)
    {old : TableShell} (hold : before.table? path = some old) :
    ∃ shell, after.table? path = some shell ∧ shell.tableType = old.tableType := by
  have hthere : after.hasTable path = true := by
    obtain ⟨committed, hcommitted, hafter⟩ := h
    have hsame : committed.hasTable path = true := by
      rw [hcommitted.hasTable, hasTable, hold]
      rfl
    rcases hafter with rfl | ⟨later, -, -, rfl⟩
    · exact hsame
    · exact hsame
  obtain ⟨shell, hshell⟩ := Option.isSome_iff_exists.mp hthere
  obtain ⟨other, hother, htype⟩ := h.table? hshell
  rw [hold] at hother
  cases hother
  exact ⟨shell, hshell, htype⟩

/-- Whoever opens a table finds an instant last, and a checkpoint in its metadata. -/
def ShowsLast (store : Store) (path time checkpoint : String) : Prop :=
  ∀ now, ∃ metadata last, store.openMetadata path now = .ok metadata ∧ metadata.timeline.last? = some last ∧
    last.time = time ∧ (metadata.timeline.metadata last).get? checkpointKey = some checkpoint

theorem Lawful.showsLast {store : Store} (h : store.Lawful) {shell : TableShell} {row : InstantRow}
    {checkpoint : String} (hshell : store.table? path = some shell)
    (hlast : store.lastCommit? path shell.tableType = some row) (hcheckpoint : row.checkpoint? = some checkpoint) :
    store.ShowsLast path row.time checkpoint := by
  intro now
  refine ⟨⟨shell.tableName, shell.tableType, store.timelineOf path shell.tableType⟩, row.toInstant, ?_, ?_, rfl, ?_⟩
  · rw [openMetadata, hshell]
  · rw [timelineOf_last?, hlast]
    rfl
  · rw [h.timelineOf_metadata (List.mem_of_getLast? hlast)]
    exact hcheckpoint

end Store

/-! ## 2. Resuming from a commit -/

/-- The override of a round goes with its resume point. -/
theorem ResumePoint.ofTimeline_resetMarker {timeline : Option Timeline} {override : Option String} {now : Timestamp}
    {point : ResumePoint} (h : ResumePoint.ofTimeline timeline override now = .ok point) :
    point.resetMarker = override := by
  unfold ResumePoint.ofTimeline at h
  split at h
  · cases h
    rfl
  · split at h
    · cases h
      rfl
    · cases h

theorem resetMarker_completed (outcome : WriteOutcome) (checkpoint marker : String) (now : Timestamp)
    (row : InstantRow) :
    (Store.completed outcome (Coordinator.commitMetadata checkpoint (some marker)) now row).metadata.get?
      resetMarkerKey = some marker := by
  simp [InstantRow.metadata, Store.completed, CommitMetadata.get?, Coordinator.commitMetadata, Fields.get?,
    checkpointKey, resetMarkerKey]

/-- The table that a round goes on with: of the type that was registered, else of its own. -/
theorem FindsTimeline.table? {config : SyncConfig} {found opened : Store} {timeline : Option Timeline}
    (h : FindsTimeline config found timeline opened) : ∃ shell, opened.table? config.targetBasePath = some shell ∧
      shell.tableType = ((found.table? config.targetBasePath).map (·.tableType)).getD config.tableType := by
  cases h with
  | @known shell htable =>
    refine ⟨shell, htable, ?_⟩
    rw [htable]
    rfl
  | fresh htable =>
    refine ⟨config.newShell, ?_, ?_⟩
    · rw [Store.table?] at htable
      rw [Store.table?, Store.withTable, List.find?_append, htable, Option.none_or]
      simp [SyncConfig.newShell]
    · rw [htable]
      rfl

theorem Resumes.of_lastCommit {config : SyncConfig} {found opened : Store} {point : ResumePoint} {shell : TableShell}
    {row : InstantRow} {checkpoint : String} (h : Resumes config found point opened) (hfound : found.Lawful)
    (hshell : found.table? config.targetBasePath = some shell)
    (hlast : found.lastCommit? config.targetBasePath shell.tableType = some row)
    (hcheckpoint : row.checkpoint? = some checkpoint)
    (hmarker : ∀ marker, config.checkpoint = some marker → row.metadata.get? resetMarkerKey = some marker) :
    point.value = some checkpoint := by
  obtain ⟨timeline, now, hpoint, hfinds⟩ := h
  cases hfinds with
  | @known other hother =>
    rw [hshell] at hother
    cases hother
    rw [hfound.resume_eq now hlast hcheckpoint hmarker] at hpoint
    cases hpoint
    rfl
  | fresh htable =>
    rw [hshell] at htable
    cases htable

/-! ## 3. A round after a commit -/

/-- The next round of a plan asks its source from a checkpoint, if it asks at all. -/
def Plan.ResumesFrom (plan : Plan ρ) (w : RoundWorld ρ) (checkpoint : String) : Prop :=
  ∀ (outcome : Except Failure RoundResult) (w' : RoundWorld ρ),
    (plan.round Exposed.tableStore).run.runIn w = (outcome, w') →
    ∀ read ∈ w'.reads.drop w.reads.length, read.asked = some checkpoint

/-- What becomes of a commit at an instant with a checkpoint: readers of the table see it last if the client
writes where they look, and nothing of it otherwise. -/
structure Plan.Publishes (plan : Plan ρ) (w w' : RoundWorld ρ) (config : WriteConfig) (tableType : TableType)
    (time checkpoint : String) : Prop where
  type : tableType = ((w.store.table? plan.config.targetBasePath).map (·.tableType)).getD plan.config.tableType
  table : ∃ shell, w'.store.table? plan.config.targetBasePath = some shell ∧ shell.tableType = tableType
  shown : config.WritesTo plan.config.targetBasePath tableType →
    w'.store.ShowsLast plan.config.targetBasePath time checkpoint ∧ plan.ResumesFrom w' checkpoint
  hidden : ¬config.WritesTo plan.config.targetBasePath tableType →
    w'.store.timelineOf plan.config.targetBasePath tableType = w.store.timelineOf plan.config.targetBasePath tableType
  agrees : plan.config.KeepsTarget → tableType = plan.config.tableType →
    config.WritesTo plan.config.targetBasePath tableType

/-- A committed round writes with one client, and its commit is visible exactly where that client writes. -/
theorem Course.commit_visible {plan : Plan ρ} {history : List RoundRecord} {w w' : RoundWorld ρ} {result : RoundResult}
    (hcourse : Course (fun _ => True) True history plan w)
    (hrun : (plan.round Exposed.tableStore).run.runIn w = (.ok result, w')) (hcommitted : result.status = .committed) :
    ∃ client tableType time checkpoint, w'.state.client = some client ∧ result.instantTime = some time ∧
      result.checkpoint = some checkpoint ∧ plan.Publishes w w' client.config tableType time checkpoint := by
  obtain ⟨hlawful, hattached⟩ := hcourse.sound
  obtain ⟨hafter, hattached'⟩ := (hcourse.ran hrun).sound
  have haccount := run_account_of_run hlawful hattached False.elim plan.source.gives_anything hrun
  obtain ⟨-, -, ⟨point, delivery, hidles⟩ | ⟨point, delivery, opened, config, checkpoint, time, hcommits⟩⟩ := haccount
  · rw [hidles.status] at hcommitted
    cases hcommitted
  obtain ⟨id, hclient⟩ := hcommits.client
  obtain ⟨outcome, rows, -, hended⟩ := hcommits.ended
  have hopened : opened.Lawful := hcommits.resumes.opened.lawful hlawful
  obtain ⟨timeline, now, hpoint, hfinds⟩ := hcommits.resumes
  obtain ⟨old, hold, htype⟩ := hfinds.table?
  obtain ⟨shell, hshell, hkept⟩ := hended.typed hold
  refine ⟨_, old.tableType, time, checkpoint, hclient, hcommits.instant, hcommits.returned, htype,
    ⟨shell, hshell, hkept⟩, ?_, ?_, ?_⟩
  · intro hwrites
    obtain ⟨moment, hlast⟩ := hended.lastCommit? hopened hwrites
    rw [← hkept] at hlast
    have hcheckpoint := checkpoint?_completed outcome checkpoint point.resetMarker moment (config.newInstant time)
    constructor
    · exact hafter.showsLast hshell hlast hcheckpoint
    · intro next w'' hnext read hread
      have hleaves := run_account_of_run hafter hattached' False.elim plan.source.gives_anything hnext
      obtain ⟨later, reopened, hresumes, hasked⟩ := hleaves.asked read hread
      rw [hasked]
      apply hresumes.of_lastCommit hafter hshell hlast hcheckpoint
      intro marker hmarker
      rw [ResumePoint.ofTimeline_resetMarker hpoint, hmarker]
      exact resetMarker_completed outcome checkpoint marker moment _
  · intro hother
    have hfound : opened.timelineOf plan.config.targetBasePath old.tableType =
        w.store.timelineOf plan.config.targetBasePath old.tableType := by
      rcases hfinds.opened with rfl | ⟨-, rfl⟩
      · rfl
      · rfl
    rw [← hfound]
    exact hended.timelineOf hopened hother
  · intro hkeeps hsame
    obtain ⟨provider, moment, hconfig⟩ := hcommits.configures
    obtain ⟨hpath, hconfigured⟩ := SyncConfig.writeConfig_target hkeeps hconfig
    exact ⟨hpath, hconfigured.trans hsame.symm⟩

/-- The first round of the sample plan commits, and readers of its table see the commit. -/
theorem sampleRun_visible : ∃ (result : RoundResult) (w' : RoundWorld Unit) (time : String),
    (samplePlan.round Exposed.tableStore).run.runIn sampleWorld = (.ok result, w') ∧ result.status = .committed ∧
    result.instantTime = some time ∧ w'.store.ShowsLast "/t/events" time "1" ∧ samplePlan.ResumesFrom w' "1" := by
  obtain ⟨outcome, w', hrun, hcheckpoint, -⟩ := sampleRun
  obtain ⟨result, rfl, hcommitted, hone⟩ := RoundRecord.checkpoint?_eq_some.mp hcheckpoint
  obtain ⟨client, tableType, time, checkpoint, -, htime, hreturned, hpublishes⟩ :=
    Course.commit_visible (sampleCourse trivial) hrun hcommitted
  rw [hone] at hreturned
  cases hreturned
  obtain ⟨hshows, hresumes⟩ := hpublishes.shown (hpublishes.agrees ⟨rfl, rfl⟩ hpublishes.type)
  exact ⟨result, w', time, hrun, hcommitted, htime, hshows, hresumes⟩

/-! ## 4. A table of another type -/

/-- The sample world with the table registered as another type than the sample plan has. -/
def mergeWorld : RoundWorld Unit :=
  sampleWorld.withWarehouse { store := { tables := [{ samplePlan.config.newShell with tableType := .mergeOnRead }] } }

theorem mergeWorld_course : Course (fun _ => True) True [] samplePlan mergeWorld := by
  have hstart : Course (fun _ => True) True [] samplePlan sampleWorld := sampleCourse trivial
  have hperform : ∃ reply log, (Warehouse.perform (.initTable { samplePlan.config.newShell with
      tableType := .mergeOnRead })).runIn { now := sampleWorld.now, state := {} } =
        (reply, { now := sampleWorld.now, log, state := mergeWorld.state.outside.inner.warehouse }) := ⟨_, _, rfl⟩
  obtain ⟨reply, log, hperform⟩ := hperform
  exact hstart.visited trivial rfl hperform

/-- The round commits in that world, and nobody who opens the table sees it. -/
theorem mergeRun : ∃ outcome w', (samplePlan.round Exposed.tableStore).run.runIn mergeWorld = (outcome, w') ∧
    (RoundRecord.mk [] outcome).checkpoint? = some "1" ∧
    ((RoundWorld.store w').openMetadata "/t/events" w'.now).toOption.bind (·.timeline.last?) = none :=
  ⟨_, _, Prod.mk.eta.symm, by decide +kernel, by decide +kernel⟩

/-- So not every commit is visible to the next round. -/
theorem not_always_visible : ¬∀ (history : List RoundRecord) (plan : Plan Unit) (w w' : RoundWorld Unit)
    (result : RoundResult), Course (fun _ => True) True history plan w →
    (plan.round Exposed.tableStore).run.runIn w = (.ok result, w') → result.status = .committed →
    ∃ time checkpoint, result.instantTime = some time ∧ result.checkpoint = some checkpoint ∧
      w'.store.ShowsLast plan.config.targetBasePath time checkpoint := by
  intro hclaim
  obtain ⟨outcome, w', hrun, hcheckpoint, hnone⟩ := mergeRun
  obtain ⟨result, rfl, hcommitted, -⟩ := RoundRecord.checkpoint?_eq_some.mp hcheckpoint
  obtain ⟨time, checkpoint, -, -, hshows⟩ := hclaim [] samplePlan mergeWorld w' result mergeWorld_course hrun hcommitted
  obtain ⟨metadata, last, hopen, hlast, -, -⟩ := hshows w'.now
  have hpath : samplePlan.config.targetBasePath = "/t/events" := rfl
  rw [hpath] at hopen
  rw [hopen] at hnone
  simp [Except.toOption, hlast] at hnone

end TableSync
