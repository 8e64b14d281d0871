/-
  TableSync/Proofs/Round/Trail.lean
  =================================
  **The audit trail** — what it says of the rounds, and of the timeline.

  A `Trailed` world holds an audit trail beside everything else that is outside
  the store.  `Plan.audited` records the rounds of a plan in it, and no other
  part of the plan has a way to it.  One round leaves one entry, which tells how
  the round ended (`run_recorded`), and completes an instant exactly if it
  commits (`run_completes`).  Over any number of rounds for one table the
  entries of the rounds that committed are the completed instants, one by one.
-/
import TableSync.Proofs.Round.AllOrNothing
import TableSync.Proofs.Round.Rest
import Mathlib.Data.List.Forall2

namespace TableSync

open Effect

variable {τ ρ α : Type}

/-! ## 1. Recorded plans -/

/-- An audit trail, and the rest of the world. -/
structure Trailed (ρ : Type) where
  trail : AuditTrail
  rest : ρ

namespace Trailed

def inTrail (step : Effect AuditTrail α) : Effect (Trailed ρ) α :=
  Effect.within (fun world => world.trail) (fun trail world => { world with trail }) step

def inRest (step : Effect ρ α) : Effect (Trailed ρ) α :=
  Effect.within (fun world => world.rest) (fun rest world => { world with rest }) step

def source : Source ρ → Source (Trailed ρ)
  | .rows fetch => .rows fun asked limit => inRest (fetch asked limit)
  | .records fetch => .records fun asked limit => inRest (fetch asked limit)

def recorder : RunRecorder (Trailed ρ) where
  start tableName := inTrail (AuditTrail.recorder.start tableName)
  complete handle result := inTrail (AuditTrail.recorder.complete handle result)
  fail handle failure checkpointBefore := inTrail (AuditTrail.recorder.fail handle failure checkpointBefore)

end Trailed

/-- The plan with its rounds recorded in the trail. -/
def Plan.audited (plan : Plan ρ) : Plan (Trailed ρ) where
  config := plan.config
  source := Trailed.source plan.source
  userProvider := plan.userProvider
  transformer := plan.transformer.map fun transformer frame props => Trailed.inRest (transformer frame props)
  keyOf := plan.keyOf
  recorder := some Trailed.recorder
  catalog := plan.catalog.map fun catalog =>
    { tool := fun description => Trailed.inRest (catalog.tool description)
      basePath := catalog.basePath
      enabled := catalog.enabled }
  retry := plan.retry
  announce config := Trailed.inRest (plan.announce config)
  errorLogLimit := plan.errorLogLimit

theorem Plan.audited_spares (plan : Plan ρ) (K : AuditTrail → Prop) :
    plan.audited.Spares fun world => K world.trail := by
  have hrest : ∀ {β : Type} (step : Effect ρ β), Maintains (fun world => K world.trail) (Trailed.inRest step) :=
    fun step => Maintains.within_other step fun _ _ hs => hs
  constructor
  · show (Trailed.source plan.source).Spares _
    cases plan.source with
    | rows fetch => exact fun asked limit => hrest _
    | records fetch => exact fun asked limit => hrest _
  · intro transformer htransformer frame props
    obtain ⟨own, -, rfl⟩ := Option.map_eq_some_iff.mp htransformer
    exact hrest _
  · intro catalog hcatalog description
    obtain ⟨own, -, rfl⟩ := Option.map_eq_some_iff.mp hcatalog
    exact hrest _
  · exact fun config => hrest _

/-! ## 2. The results of a round -/

/-- The result is that of a round which resumed at a point: nothing new, or a commit. -/
def RoundResult.IsOf {σ : Type} (result : RoundResult) (round : Round σ) (point : ResumePoint) : Prop :=
  result = round.nothingNew point ∨ ∃ checkpoint commit, result = round.committedResult point checkpoint commit

theorem sync_result {σ : Type} (round : Round σ) (point : ResumePoint) :
    Leads (fun _ => True) (round.sync point) (fun result _ => result.IsOf round point) fun _ _ => True := by
  have hwrite : ∀ input, Leads (fun _ => True) (round.write point input) (fun result _ => result.IsOf round point)
      fun _ _ => True := by
    intro input
    have hcommit : ∀ records, Leads (fun _ => True) (do
        let commit ← round.coordinator.write records input.checkpoint point.resetMarker
          (some round.config.effective.operation.name)
        Round.say .info ("Sync round committed " ++ commit.instantTime ++ " for " ++ round.config.targetTable ++
          ": Records=" ++ toString commit.totalRecords ++ ", Errors=" ++ toString commit.totalErrorRecords ++
          ", Checkpoint=" ++ input.checkpoint)
        return round.committedResult point input.checkpoint commit)
        (fun result _ => result.IsOf round point) fun _ _ => True := by
      intro records
      apply leads_trivial.bind
      intro commit
      apply (leads_log _ _ _).bind
      intro _
      apply leads_pure
      exact fun _ _ => .inr ⟨input.checkpoint, commit, rfl⟩
    apply leads_trivial.bind
    intro _
    apply leads_trivial.bind
    intro records
    dsimp only
    split
    · exact (leads_log _ _ _).bind fun _ => hcommit records
    · exact hcommit records
  apply leads_trivial.bind
  rintro (_ | input)
  · exact leads_pure fun _ _ => .inl rfl
  · exact hwrite input

/-! ## 3. The entry of a round -/

/-- The point at which a round resumes, if it gets so far. -/
def Round.resolved {σ : Type} (round : Round σ) (w : World (CommitState σ)) : Option ResumePoint :=
  ((do let _ ← round.recordStart; round.resumePoint).runIn w).1.toOption

theorem Round.resolved_eq {σ : Type} {round : Round σ} {w started : World (CommitState σ)} {handle : Option Nat}
    (hstart : round.recordStart.runIn w = (.ok handle, started)) :
    round.resolved w = (round.resumePoint.runIn started).1.toOption := by
  rw [resolved, runIn_bind_ok hstart]

/-- A round that was run: where it resumed, and its outcome. -/
structure AuditedRound where
  resolved : Option ResumePoint
  outcome : Except Failure RoundResult

/-- Until its round has a result an entry has no instant and no checkpoint to go on from. -/
def SyncRun.IsOpen (entry : SyncRun) : Prop := entry.checkpointAfter = none ∧ entry.instantTime = none

/-- The entry tells how the round ended. -/
structure SyncRun.Tells (entry : SyncRun) (round : AuditedRound) : Prop where
  ended : entry.status ≠ .running
  checkpointBefore : entry.checkpointBefore = round.resolved.bind ResumePoint.value
  returned : ∀ result, round.outcome = .ok result → entry.status = result.status ∧
    entry.checkpointAfter = result.checkpoint ∧ entry.instantTime = result.instantTime ∧
    entry.totalRecords = result.totalRecords ∧ entry.totalErrorRecords = result.totalErrorRecords
  noNewData : entry.status = .noNewData →
    entry.checkpointAfter = entry.checkpointBefore ∧ entry.instantTime = none
  failed : entry.status = .failed ↔ ∃ failure, round.outcome = .error failure
  failure : ∀ failure, round.outcome = .error failure →
    entry.failure = some failure ∧ entry.checkpointAfter = none ∧ entry.instantTime = none

namespace SyncRun

variable {round : Round (Site τ (Trailed ρ))} {run : SyncRun} {point : ResumePoint} {now : Timestamp}

theorem tells_nothingNew : ((run.endedAt now).withResult (round.nothingNew point)).Tells
    ⟨some point, .ok (round.nothingNew point)⟩ := by
  constructor
  · simp [withResult, Round.nothingNew]
  · rfl
  · rintro _ ⟨⟩
    simp [withResult]
  · intro _
    simp [withResult, Round.nothingNew]
  · simp [withResult, Round.nothingNew]
  · simp

theorem tells_committedResult {checkpoint : String} {commit : CommitResult} :
    ((run.endedAt now).withResult (round.committedResult point checkpoint commit)).Tells
      ⟨some point, .ok (round.committedResult point checkpoint commit)⟩ := by
  constructor
  · simp [withResult, Round.committedResult]
  · rfl
  · rintro _ ⟨⟩
    simp [withResult]
  · simp [withResult, Round.committedResult]
  · simp [withResult, Round.committedResult]
  · simp

theorem tells_failure {resolved : Option ResumePoint} {failure : Failure} (hopen : run.IsOpen) :
    ((run.endedAt now).withFailure failure (resolved.bind ResumePoint.value)).Tells ⟨resolved, .error failure⟩ := by
  constructor
  · simp [withFailure]
  · rfl
  · simp
  · simp [withFailure]
  · simp [withFailure]
  · rintro _ ⟨⟩
    exact ⟨rfl, hopen⟩

end SyncRun

theorem AuditTrail.finish_leads {runs : List SyncRun} {run : SyncRun} (change : SyncRun → SyncRun) :
    Leads (fun trail => trail.runs = runs ++ [run]) (finish runs.length change)
      (fun _ trail => ∃ now, trail.runs = runs ++ [change (run.endedAt now)]) fun _ _ => False := by
  apply Leads.ofState
  intro trail htrail
  have hplace : runs.length < trail.runs.length := by simp [htrail]
  apply leads_now.bind
  intro now
  rw [if_pos hplace]
  apply (leads_setState _).weaken
  · exact fun _ hs => hs
  · rintro _ _ rfl
    exact ⟨now, by simp [htrail, List.modify_eq_take_drop]⟩
  · exact fun _ _ hs => hs

/-- The trail holds the entries, and the write client reaches the store only. -/
abbrev Trails (runs : List SyncRun) (state : CommitState (Site τ (Trailed ρ))) : Prop :=
  state.Spared fun world => world.trail.runs = runs

section Run

variable {plan : Plan ρ} {inner : TableStore τ} {runs : List SyncRun} {run : SyncRun}

theorem trail_leads {step : Effect AuditTrail α} {Q : α → AuditTrail → Prop}
    (h : Leads (fun trail => trail.runs = runs) step Q fun _ _ => False) :
    Leads (Trails runs) (Coordinator.outside (Site.inRest (Trailed.inTrail step)) : RoundStep (Site τ (Trailed ρ)) α)
      (fun a state => ∃ trail, Q a trail ∧ Trails trail.runs state) fun _ _ => False := by
  refine Leads.within fun state hs => Leads.within fun site hsite => Leads.within fun world hworld => ?_
  subst hsite hworld
  apply h.weaken
  · rintro _ rfl
    exact hs.1
  · exact fun a trail hQ => ⟨trail, hQ, rfl, hs.2⟩
  · exact fun _ _ hnever => hnever

theorem recordStart_leads : Leads (Trails runs) (plan.audited.round inner).recordStart
    (fun handle state => handle = some runs.length ∧ ∃ run : SyncRun, run.IsOpen ∧ Trails (runs ++ [run]) state)
    fun _ _ => False := by
  have hstart : Leads (fun trail => trail.runs = runs) (AuditTrail.start plan.config.targetTable)
      (fun handle trail => handle = runs.length ∧ ∃ run : SyncRun, run.IsOpen ∧ trail.runs = runs ++ [run])
      fun _ _ => False := by
    apply Leads.ofState
    rintro trail rfl
    apply leads_now.bind
    intro startedAt
    apply (leads_setState _).bind
    intro _
    apply leads_pure
    rintro _ rfl
    exact ⟨rfl, { tableName := plan.config.targetTable, startedAt }, ⟨rfl, rfl⟩, rfl⟩
  apply (trail_leads hstart).bind
  intro handle
  apply leads_pure
  rintro state ⟨trail, ⟨rfl, run, hopen, hruns⟩, hstate⟩
  exact ⟨rfl, run, hopen, hruns ▸ hstate⟩

theorem sync_trails (point : ResumePoint) : Maintains (Trails runs) ((plan.audited.round inner).sync point) :=
  sync_spares (plan.audited_spares fun trail => trail.runs = runs) point

/-- The entry of a round is the last one when the round ends. -/
theorem recordOutcome_leads {entry : RunRecorder (Site τ (Trailed ρ)) → Nat → Effect (Site τ (Trailed ρ)) Unit}
    (change : SyncRun → SyncRun) (notice : String)
    (hentry : entry (Site.recorder Trailed.recorder) runs.length =
      Site.inRest (Trailed.inTrail (AuditTrail.finish runs.length change))) :
    Leads (Trails (runs ++ [run])) ((plan.audited.round inner).recordOutcome (some runs.length) entry notice)
      (fun _ state => ∃ now, Trails (runs ++ [change (run.endedAt now)]) state) fun _ _ => False := by
  have hfinish : Leads (Trails (runs ++ [run])) (Coordinator.outside (entry (Site.recorder Trailed.recorder) runs.length))
      (fun _ state => ∃ trail : AuditTrail, (∃ now, trail.runs = runs ++ [change (run.endedAt now)]) ∧
        Trails trail.runs state) fun _ _ => False := by
    rw [hentry]
    exact trail_leads (AuditTrail.finish_leads change)
  apply hfinish.attempt.bind
  rintro (failure | _)
  · exact fun _ hnever => hnever.elim
  · apply leads_pure
    rintro state ⟨trail, ⟨now, hruns⟩, hstate⟩
    exact ⟨now, hruns ▸ hstate⟩

/-- The trail ends with an entry that tells how a round ended. -/
def EndsTold (runs : List SyncRun) (resolved : Option ResumePoint) (outcome : Except Failure RoundResult)
    (state : CommitState (Site τ (Trailed ρ))) : Prop :=
  ∃ entry : SyncRun, entry.Tells ⟨resolved, outcome⟩ ∧ Trails (runs ++ [entry]) state

theorem failed_leads {B : RoundResult → CommitState (Site τ (Trailed ρ)) → Prop} (resolved : Option ResumePoint)
    (failure : Failure) (hopen : run.IsOpen) :
    Leads (Trails (runs ++ [run]))
      ((plan.audited.round inner).failed (some runs.length) (resolved.bind ResumePoint.value) failure)
      B fun reported => EndsTold runs resolved (.error reported) := by
  have htell : Leads (Trails (runs ++ [run])) ((plan.audited.round inner).tellFailure failure)
      (fun _ => Trails (runs ++ [run])) fun _ _ => False := by
    unfold Round.tellFailure
    split
    · exact leads_logWith _ _ _ _
    · exact leads_log _ _ _
  apply htell.sure.bind
  intro _
  apply (recordOutcome_leads (SyncRun.withFailure failure (resolved.bind ResumePoint.value)) _ rfl).sure.bind
  intro _
  apply leads_fail
  rintro state ⟨now, hstate⟩
  exact ⟨_, SyncRun.tells_failure hopen, hstate⟩

theorem succeeded_leads {E : Failure → CommitState (Site τ (Trailed ρ)) → Prop} {point : ResumePoint}
    {result : RoundResult} (hresult : result.IsOf (plan.audited.round inner) point) :
    Leads (Trails (runs ++ [run])) ((plan.audited.round inner).succeeded (some runs.length) result)
      (fun returned => EndsTold runs (some point) (.ok returned)) E := by
  apply (recordOutcome_leads (SyncRun.withResult result) _ rfl).sure.bind
  intro _
  apply leads_pure
  rintro state ⟨now, hstate⟩
  refine ⟨_, ?_, hstate⟩
  rcases hresult with rfl | ⟨checkpoint, commit, rfl⟩
  · exact SyncRun.tells_nothingNew
  · exact SyncRun.tells_committedResult

/-- What a round does once it has resumed. -/
theorem resumed_leads (point : ResumePoint) (hopen : run.IsOpen) :
    Leads (Trails (runs ++ [run]))
      (do match ← ((plan.audited.round inner).sync point).attempt with
          | .error failure => (plan.audited.round inner).failed (some runs.length) point.value failure
          | .ok result => (plan.audited.round inner).succeeded (some runs.length) result)
      (fun result => EndsTold runs (some point) (.ok result))
      fun failure => EndsTold runs (some point) (.error failure) := by
  have hresult := sync_result (plan.audited.round inner) point
  have htrails : Maintains (Trails (runs ++ [run])) ((plan.audited.round inner).sync point) := sync_trails point
  have hsync := (hresult.and htrails).weaken (fun _ hs => ⟨trivial, hs⟩) (fun _ _ hs => hs) fun _ _ hs => hs.2
  apply hsync.attempt.bind
  rintro (failure | result)
  · exact failed_leads (some point) failure hopen
  · exact leads_of_fact fun hshape => succeeded_leads hshape

/-- A run leaves one more entry, which tells how it ended. -/
theorem run_recorded {w w' : World (CommitState (Site τ (Trailed ρ)))} {outcome : Except Failure RoundResult}
    (hw : Trails runs w.state) (hrun : (plan.audited.round inner).run.runIn w = (outcome, w')) :
    EndsTold runs ((plan.audited.round inner).resolved w) outcome w'.state := by
  -- The handle is the place of the open entry, which stays the last one until the round ends.
  obtain ⟨_, started, hstart, rfl, run, hopen, hstarted⟩ := recordStart_leads.returns hw
  rw [Round.run, runIn_bind_ok hstart] at hrun
  rw [Round.resolved_eq hstart]
  rcases hresume : (plan.audited.round inner).resumePoint.runIn started with ⟨failure | point, resumed⟩
  · rw [runIn_bind_ok (runIn_attempt hresume)] at hrun
    have hresumed := resumePoint_spares.of_error hstarted hresume
    have hend : Leads (Trails (runs ++ [run])) ((plan.audited.round inner).failed (some runs.length) none failure)
        (fun _ _ => False) fun reported => EndsTold runs none (.error reported) := failed_leads none failure hopen
    rcases hend.of_run hresumed hrun with ⟨_, -, hnever⟩ | ⟨_, rfl, hentry⟩
    · exact hnever.elim
    · exact hentry
  · rw [runIn_bind_ok (runIn_attempt hresume)] at hrun
    have hresumed := resumePoint_spares.of_ok hstarted hresume
    rcases (resumed_leads point hopen).of_run hresumed hrun with ⟨_, rfl, hentry⟩ | ⟨_, rfl, hentry⟩
    · exact hentry
    · exact hentry

end Run

/-! ## 4. What a round completes -/

/-- A round completes one instant, which its result tells of, exactly if it commits. -/
inductive Store.Completes (before after : Store) : Except Failure RoundResult → Prop where
  | one {result : RoundResult} {row : InstantRow} : result.status = .committed →
      after.completedInstants = before.completedInstants ++ [row] → result.instantTime = some row.time →
      row.checkpoint?.isSome → result.checkpoint = row.checkpoint? → result.totalRecords = row.totalRecords →
      result.totalErrorRecords = row.totalErrorRecords → Completes before after (.ok result)
  | none {outcome : Except Failure RoundResult} : (∀ result, outcome = .ok result → result.status = .noNewData) →
      after.completedInstants = before.completedInstants → Completes before after outcome

theorem run_completes {plan : Plan ρ} {w w' : RoundWorld ρ} {outcome : Except Failure RoundResult}
    (hlawful : w.store.Lawful) (hattached : plan.Attached w.state.scene)
    (hrun : (plan.round Exposed.tableStore).run.runIn w = (outcome, w')) : w.store.Completes w'.store outcome := by
  have haccount := run_account_of_run hlawful hattached False.elim plan.source.gives_anything hrun
  cases outcome with
  | error failure =>
    obtain ⟨-, -, opened, config, hstops⟩ := haccount
    apply Store.Completes.none
    · simp
    · exact hstops.abandoned.completedInstants.trans hstops.start.completedInstants
  | ok result =>
    obtain ⟨-, -, ⟨point, delivery, hidles⟩ | ⟨point, delivery, opened, config, checkpoint, time, hcommits⟩⟩ := haccount
    · apply Store.Completes.none
      · rintro _ ⟨⟩
        exact hidles.status
      · exact hidles.resumes.opened.completedInstants
    · obtain ⟨written, rows, hended, htotal, herrors⟩ := hcommits.counted
      obtain ⟨now, hgains⟩ := hended.gains
      have hcheckpoint := checkpoint?_completed written checkpoint point.resetMarker now (config.newInstant time)
      apply Store.Completes.one hcommits.status (hgains.of_opened hcommits.resumes.opened).completed hcommits.instant
      · rw [hcheckpoint]
        rfl
      · rw [hcommits.returned, hcheckpoint]
      · simp [Store.completed, htotal]
      · simp [Store.completed, herrors]

/-- A round registers the table that it is for at most. -/
theorem run_registers {plan : Plan ρ} {w w' : RoundWorld ρ} {outcome : Except Failure RoundResult}
    (hlawful : w.store.Lawful) (hattached : plan.Attached w.state.scene)
    (hrun : (plan.round Exposed.tableStore).run.runIn w = (outcome, w')) {path : String}
    (hpath : w'.store.hasTable path = true) : w.store.hasTable path = true ∨ path = plan.config.targetBasePath := by
  have haccount := run_account_of_run hlawful hattached False.elim plan.source.gives_anything hrun
  cases outcome with
  | error failure =>
    obtain ⟨-, -, opened, config, hstops⟩ := haccount
    apply hstops.start.hasTable
    have htables : w'.store.tables = opened.tables := hstops.abandoned.tables
    rw [Store.hasTable_iff, htables] at hpath
    exact Store.hasTable_iff.mpr hpath
  | ok result =>
    obtain ⟨-, -, ⟨point, delivery, hidles⟩ | ⟨point, delivery, opened, config, checkpoint, time, hcommits⟩⟩ := haccount
    · exact hidles.resumes.opened.hasTable hpath
    · obtain ⟨written, rows, -, hended⟩ := hcommits.ended
      obtain ⟨shell, hshell⟩ := Option.isSome_iff_exists.mp hpath
      obtain ⟨old, hold, -⟩ := hended.table? hshell
      exact hcommits.resumes.opened.hasTable (Option.isSome_iff_exists.mpr ⟨old, hold⟩)

/-! ## 5. Rounds for one table -/

/-- The world in which recorded rounds are run. -/
abbrev TrailedWorld (ρ : Type) := RoundWorld (Trailed ρ)

/-- The entries of the trail. -/
def TrailedWorld.runs (w : TrailedWorld ρ) : List SyncRun := w.state.outside.rest.trail.runs

/-- The rounds that were run so far for the table at a path, one at a time, from an empty store and an empty trail on.
Between two of them the clock, what will happen to the store and the rest of the world change in any way. -/
inductive AuditedCourse (path : String) : List AuditedRound → Plan ρ → TrailedWorld ρ → Prop where
  | opened {plan : Plan ρ} {w w' : TrailedWorld ρ} {outcome : Except Failure Unit} :
      plan.config.targetBasePath = path → w.IsBlank → w.runs = [] →
      (plan.audited.setUp Exposed.tableStore).runIn w = (outcome, w') → AuditedCourse path [] plan w'
  | reopened {history : List AuditedRound} {old plan : Plan ρ} {w w' : TrailedWorld ρ} {outcome : Except Failure Unit} :
      AuditedCourse path history old w → plan.config.targetBasePath = path →
      (plan.audited.setUp Exposed.tableStore).runIn w.renewed = (outcome, w') → AuditedCourse path history plan w'
  | ran {history : List AuditedRound} {plan : Plan ρ} {w w' : TrailedWorld ρ} {outcome : Except Failure RoundResult} :
      AuditedCourse path history plan w →
      (plan.audited.round Exposed.tableStore).run.runIn w = (outcome, w') →
      AuditedCourse path (history ++ [⟨(plan.audited.round Exposed.tableStore).resolved w, outcome⟩]) plan w'
  | closed {history : List AuditedRound} {plan : Plan ρ} {w w' : TrailedWorld ρ} {outcome : Except Failure Unit} :
      AuditedCourse path history plan w → Round.close.runIn w = (outcome, w') → AuditedCourse path history plan w'
  | drifted {history : List AuditedRound} {plan : Plan ρ} {w : TrailedWorld ρ} (now : Timestamp) (log : List LogLine)
      (sleeps : List Number) (incidents : List Incident) (rest : ρ) :
      AuditedCourse path history plan w →
      AuditedCourse path history plan (w.drifted now log sleeps incidents ⟨w.state.outside.rest.trail, rest⟩)

/-- The entry tells of the instant that its round completed. -/
structure SyncRun.Marks (entry : SyncRun) (row : InstantRow) : Prop where
  time : entry.instantTime = some row.time
  carries : row.checkpoint?.isSome
  checkpointAfter : entry.checkpointAfter = row.checkpoint?
  totalRecords : entry.totalRecords = row.totalRecords
  totalErrorRecords : entry.totalErrorRecords = row.totalErrorRecords

/-- The entries of rounds that committed. -/
def committedRuns (runs : List SyncRun) : List SyncRun := runs.filter fun entry => entry.status == .committed

section Course

variable {path : String} {plan : Plan ρ} {history : List AuditedRound} {w : TrailedWorld ρ}

theorem AuditedCourse.course (h : AuditedCourse path history plan w) :
    plan.config.targetBasePath = path ∧ ∃ records, Course (fun _ => True) False records plan.audited w := by
  induction h with
  | opened hpath hblank _ hrun => exact ⟨hpath, [], .opened trivial hblank hrun⟩
  | reopened _ hpath hrun ih =>
    obtain ⟨-, records, hcourse⟩ := ih
    exact ⟨hpath, records, .reopened hcourse trivial hrun⟩
  | ran _ hrun ih =>
    obtain ⟨hpath, records, hcourse⟩ := ih
    exact ⟨hpath, _, .ran hcourse hrun⟩
  | closed _ hrun ih =>
    obtain ⟨hpath, records, hcourse⟩ := ih
    exact ⟨hpath, records, .closed hcourse hrun⟩
  | drifted now log sleeps incidents rest _ ih =>
    obtain ⟨hpath, records, hcourse⟩ := ih
    exact ⟨hpath, records, .drifted now log sleeps incidents _ hcourse⟩

theorem AuditedCourse.sound (h : AuditedCourse path history plan w) :
    w.store.Lawful ∧ plan.audited.Attached w.state.scene := by
  obtain ⟨-, records, hcourse⟩ := h.course
  exact hcourse.sound

theorem AuditedCourse.trails (h : AuditedCourse path history plan w) : Trails w.runs w.state := by
  refine ⟨rfl, fun client hclient => ?_⟩
  obtain ⟨id, known, rfl, -, -⟩ := h.sound.2 client hclient
  exact ⟨_, rfl⟩

theorem trails_of_none {runs : List SyncRun} (hruns : w.runs = runs) (hnone : w.state.client = none) :
    Trails runs w.state := by
  refine ⟨hruns, fun client hclient => ?_⟩
  rw [hnone] at hclient
  cases hclient

theorem setUp_trails {runs : List SyncRun} {outcome : Except Failure Unit} {w' : TrailedWorld ρ}
    (hw : Trails runs w.state) (hrun : (plan.audited.setUp Exposed.tableStore).runIn w = (outcome, w')) :
    w'.runs = runs := by
  have hspares : Maintains (Trails runs) (plan.audited.setUp Exposed.tableStore) :=
    setUp_spares (plan.audited_spares fun trail => trail.runs = runs)
  rcases hspares.of_run hw hrun with ⟨_, -, hafter⟩ | ⟨_, -, hafter⟩
  · exact hafter.1
  · exact hafter.1

theorem close_trails {runs : List SyncRun} {outcome : Except Failure Unit} {w' : TrailedWorld ρ}
    (hw : Trails runs w.state) (hrun : Round.close.runIn w = (outcome, w')) : w'.runs = runs := by
  rcases close_spares.of_run hw hrun with ⟨_, -, hafter⟩ | ⟨_, -, hafter⟩
  · exact hafter.1
  · exact hafter.1

theorem AuditedCourse.only (h : AuditedCourse path history plan w) :
    ∀ other, w.store.hasTable other = true → other = path := by
  induction h with
  | @opened plan w w' outcome _ hblank _ hrun =>
    intro other hother
    have hstore : w'.store = w.store := (setUp_account_of_run hblank.2.2 hrun).2.1
    rw [hstore, RoundWorld.store, hblank.1] at hother
    cases hother
  | @reopened history old plan w w' outcome _ _ hrun ih =>
    have hstore : w'.store = w.store := (setUp_account_of_run rfl hrun).2.1
    exact hstore ▸ ih
  | @ran history plan w w' outcome hbefore hrun ih =>
    intro other hother
    rcases run_registers hbefore.sound.1 hbefore.sound.2 hrun hother with hold | hnew
    · exact ih other hold
    · exact hnew.trans hbefore.course.1
  | @closed history plan w w' outcome hbefore hrun ih =>
    have hstore : w'.store = w.store := ((close_account hbefore.sound.2).of_either hrun).2.1
    exact hstore ▸ ih
  | drifted now log sleeps incidents rest _ ih => exact ih

theorem AuditedCourse.ordered (h : AuditedCourse path history plan w) :
    w.store.completedInstants.Pairwise fun a b => a.time < b.time := by
  -- An instant is of a registered table, and there is only one.
  have hhere : w.store.instantsOf path = w.store.instants := by
    apply List.filter_eq_self.mpr
    intro row hrow
    have hpath := h.only _ (h.sound.1.registered row hrow)
    simpa using hpath
  have hincreasing := h.sound.1.increasing path
  rw [hhere] at hincreasing
  exact hincreasing.filter _

/-- One more entry marks the instant that its round completed, if it completed one. -/
theorem marks_snoc {before after : Store} {runs : List SyncRun} {entry : SyncRun} {round : AuditedRound}
    (hmarks : List.Forall₂ SyncRun.Marks (committedRuns runs) before.completedInstants) (htells : entry.Tells round)
    (hcompletes : before.Completes after round.outcome) :
    List.Forall₂ SyncRun.Marks (committedRuns (runs ++ [entry])) after.completedInstants := by
  rcases round with ⟨resolved, outcome⟩
  cases hcompletes with
  | @one result row hcommitted hgrown htime hcarries hcheckpoint htotal herrors =>
    obtain ⟨hstatus, hafter, hinstant, hrecords, hrefused⟩ := htells.returned result rfl
    have hkept : committedRuns (runs ++ [entry]) = committedRuns runs ++ [entry] := by
      simp [committedRuns, hstatus, hcommitted]
    rw [hkept, hgrown]
    apply List.rel_append hmarks
    apply List.Forall₂.cons _ .nil
    exact ⟨hinstant.trans htime, hcarries, hafter.trans hcheckpoint, hrecords.trans htotal, hrefused.trans herrors⟩
  | none hidle hsame =>
    have hother : entry.status ≠ .committed := by
      cases outcome with
      | ok result => simp [(htells.returned result rfl).1, hidle result rfl]
      | error failure => simp [htells.failed.mpr ⟨failure, rfl⟩]
    have hdropped : committedRuns (runs ++ [entry]) = committedRuns runs := by
      simp [committedRuns, hother]
    rw [hdropped, hsame]
    exact hmarks

theorem AuditedCourse.entries (h : AuditedCourse path history plan w) :
    List.Forall₂ SyncRun.Tells w.runs history ∧
      List.Forall₂ SyncRun.Marks (committedRuns w.runs) w.store.completedInstants := by
  induction h with
  | @opened plan w w' outcome _ hblank hempty hrun =>
    have hruns : w'.runs = [] := setUp_trails (trails_of_none hempty hblank.2.2) hrun
    have hstore : w'.store = w.store := (setUp_account_of_run hblank.2.2 hrun).2.1
    have hnone : w.store = {} := by rw [RoundWorld.store, hblank.1]
    rw [hruns, hstore, hnone]
    exact ⟨.nil, .nil⟩
  | @reopened history old plan w w' outcome hbefore _ hrun ih =>
    have hruns : w'.runs = w.runs := setUp_trails (trails_of_none (w := w.renewed) rfl rfl) hrun
    have hstore : w'.store = w.store := (setUp_account_of_run rfl hrun).2.1
    rw [hruns, hstore]
    exact ih
  | @ran history plan w w' outcome hbefore hrun ih =>
    obtain ⟨entry, htells, htrails⟩ := run_recorded hbefore.trails hrun
    have hruns : w'.runs = w.runs ++ [entry] := htrails.1
    have hcompletes := run_completes hbefore.sound.1 hbefore.sound.2 hrun
    rw [hruns]
    constructor
    · exact List.rel_append ih.1 (.cons htells .nil)
    · exact marks_snoc ih.2 htells hcompletes
  | @closed history plan w w' outcome hbefore hrun ih =>
    have hruns : w'.runs = w.runs := close_trails hbefore.trails hrun
    have hstore : w'.store = w.store := ((close_account hbefore.sound.2).of_either hrun).2.1
    rw [hruns, hstore]
    exact ih
  | drifted now log sleeps incidents rest _ ih => exact ih

/-- **The audit trail agrees with the timeline.** There is one entry for each round that was run, and it tells how the
round ended; the entries of the rounds that committed mark the completed instants, no two of which have one time. -/
theorem AuditedCourse.trail_agrees (h : AuditedCourse path history plan w) :
    List.Forall₂ SyncRun.Tells w.runs history ∧
      List.Forall₂ SyncRun.Marks (committedRuns w.runs) w.store.completedInstants ∧
      w.store.completedInstants.Pairwise fun a b => a.time < b.time :=
  ⟨h.entries.1, h.entries.2, h.ordered⟩

end Course

/-! ## 6. Three rounds -/

def trailedWorld : TrailedWorld Unit :=
  { now := sampleWorld.now, state := { outside := { inner := {}, rest := ⟨{}, ()⟩ } } }

/-- The sample plan on a source that fails. -/
def brokenPlan : Plan Unit :=
  { samplePlan with source := .records fun _ _ => Effect.fail (.outside .os "connection lost" false) }

/-- A round commits, the next one finds nothing new, and one on another source fails. -/
theorem sampleTrail_agrees : ∃ history w, AuditedCourse "/t/events" history brokenPlan w ∧
    w.runs.map SyncRun.status = [.committed, .noNewData, .failed] ∧
    w.runs.map SyncRun.checkpointBefore = [none, some "1", some "1"] ∧
    List.Forall₂ SyncRun.Tells w.runs history ∧
    List.Forall₂ SyncRun.Marks (committedRuns w.runs) w.store.completedInstants ∧
    w.store.completedInstants.length = 1 := by
  have hopened : AuditedCourse "/t/events" [] samplePlan trailedWorld := by
    have hsetUp : (samplePlan.audited.setUp Exposed.tableStore).runIn trailedWorld = (.ok (), trailedWorld) := rfl
    exact .opened rfl ⟨rfl, rfl, rfl⟩ rfl hsetUp
  have hfirst := hopened.ran Prod.mk.eta.symm
  have hsecond := hfirst.ran Prod.mk.eta.symm
  have hreopened : AuditedCourse "/t/events" _ brokenPlan _ := hsecond.reopened rfl Prod.mk.eta.symm
  have hthird := hreopened.ran Prod.mk.eta.symm
  obtain ⟨hentries, hmarks, -⟩ := hthird.trail_agrees
  refine ⟨_, _, hthird, ?_, ?_, hentries, hmarks, ?_⟩
  · decide +kernel
  · decide +kernel
  · decide +kernel

end TableSync
