/-
  TableSync/Proofs/Round/Override.lean
  ====================================
  **Overrides** — a checkpoint that a user gives is taken once.

  A round under an override reads from it until a commit carries it.  Every
  commit under an override carries it as its reset marker, so the first commit
  puts an end to it, and from then on the checkpoints of the commits count.
  Nothing else remembers the override: a round that fails or finds nothing new
  leaves the commits of the table as they were, and a round that is opened anew
  reads the same timeline.
-/
import TableSync.Proofs.Round.AllOrNothing
import TableSync.Proofs.Round.Continuity
import TableSync.Proofs.Round.Visibility
import TableSync.Proofs.Store.History
import Mathlib.Data.List.Forall2

namespace TableSync

variable {ρ : Type}

/-! ## 1. Rounds under one override -/

/-- A plan for rounds on one table of one type, with an override, whose write properties leave the table alone. -/
structure Plan.Overrides (target : String) (tableType : TableType) (override : String) (plan : Plan ρ) : Prop where
  path : plan.config.targetBasePath = target
  type : plan.config.tableType = tableType
  override : plan.config.checkpoint = some override
  keeps : plan.config.KeepsTarget

theorem Plan.Overrides.configures {target override : String} {tableType : TableType} {plan : Plan ρ}
    (h : plan.Overrides target tableType override) {config : WriteConfig} (hconfig : plan.Configures config) :
    config.WritesTo target tableType := by
  obtain ⟨provider, now, hwritten⟩ := hconfig
  obtain ⟨hpath, htype⟩ := SyncConfig.writeConfig_target h.keeps hwritten
  exact ⟨hpath.trans h.path, htype.trans h.type⟩

/-- Rounds one after another, from a world on in which anything may have happened before, while nobody else uses
the store. As in a course, a round is run and closed and replaced by another one, and clock, log and everything
outside the store change as they like. -/
inductive Stretch (allowed : Plan ρ → Prop) (start : RoundWorld ρ) : List RoundRecord → Plan ρ → RoundWorld ρ → Prop where
  | opened {plan : Plan ρ} {w' : RoundWorld ρ} {outcome : Except Failure Unit} : allowed plan →
      (plan.setUp Exposed.tableStore).runIn start.renewed = (outcome, w') → Stretch allowed start [] plan w'
  | reopened {history : List RoundRecord} {old plan : Plan ρ} {w w' : RoundWorld ρ} {outcome : Except Failure Unit} :
      Stretch allowed start history old w → allowed plan →
      (plan.setUp Exposed.tableStore).runIn w.renewed = (outcome, w') → Stretch allowed start history plan w'
  | ran {history : List RoundRecord} {plan : Plan ρ} {w w' : RoundWorld ρ} {outcome : Except Failure RoundResult} :
      Stretch allowed start history plan w → (plan.round Exposed.tableStore).run.runIn w = (outcome, w') →
      Stretch allowed start (history ++ [⟨w'.reads.drop w.reads.length, outcome⟩]) plan w'
  | closed {history : List RoundRecord} {plan : Plan ρ} {w w' : RoundWorld ρ} {outcome : Except Failure Unit} :
      Stretch allowed start history plan w → Round.close.runIn w = (outcome, w') → Stretch allowed start history plan w'
  | drifted {history : List RoundRecord} {plan : Plan ρ} {w : RoundWorld ρ} (now : Timestamp) (log : List LogLine)
      (sleeps : List Number) (incidents : List Incident) (rest : ρ) :
      Stretch allowed start history plan w →
      Stretch allowed start history plan (w.drifted now log sleeps incidents rest)

section Stretch

variable {past history : List RoundRecord} {old plan : Plan ρ} {start w : RoundWorld ρ} {allowed : Plan ρ → Prop}

/-- A course and a stretch of rounds after it are a course. -/
theorem Stretch.course (h : Stretch allowed start history plan w) (hpast : Course (fun _ => True) True past old start) :
    Course (fun _ => True) True (past ++ history) plan w := by
  induction h with
  | opened _ hrun =>
    rw [List.append_nil]
    exact hpast.reopened trivial hrun
  | reopened _ _ hrun ih => exact ih.reopened trivial hrun
  | ran _ hrun ih =>
    rw [← List.append_assoc]
    exact ih.ran hrun
  | closed _ hrun ih => exact ih.closed hrun
  | drifted now log sleeps incidents rest _ ih => exact ih.drifted now log sleeps incidents rest

theorem Stretch.isAllowed (h : Stretch allowed start history plan w) : allowed plan := by
  induction h with
  | opened hallowed => exact hallowed
  | reopened _ hallowed => exact hallowed
  | ran _ _ ih => exact ih
  | closed _ _ ih => exact ih
  | drifted _ _ _ _ _ _ ih => exact ih

end Stretch

/-! ## 2. What the store remembers of an override -/

variable {target override : String} {tableType : TableType}

/-- The instant is a commit of a table with a checkpoint, and carries an override as its reset marker. -/
structure InstantRow.Marks (target : String) (tableType : TableType) (override checkpoint : String)
    (row : InstantRow) : Prop where
  path : row.basePath = target
  action : row.action = tableType.commitAction
  state : row.state = .completed
  checkpoint : row.checkpoint? = some checkpoint
  marker : row.metadata.get? resetMarkerKey = some override

/-- As long as the last commit does not carry the override, it is where a round resumes. -/
theorem Store.Lawful.resume_override {store : Store} (h : store.Lawful) (now : Timestamp)
    (hmarker : ∀ row, store.lastCommit? target tableType = some row →
      row.metadata.get? resetMarkerKey ≠ some override) :
    ResumePoint.ofTimeline (some (store.timelineOf target tableType)) (some override) now =
      .ok ⟨some override, some override⟩ := by
  cases hlast : store.lastCommit? target tableType with
  | none =>
    have hempty : (store.timelineOf target tableType).last? = none := by rw [timelineOf_last?, hlast]; rfl
    simp only [ResumePoint.ofTimeline, Option.bind_some, hempty, Option.map_none]
  | some row =>
    have hsome : (store.timelineOf target tableType).last? = some row.toInstant := by
      rw [timelineOf_last?, hlast]
      rfl
    have hmetadata := h.timelineOf_metadata (List.mem_of_getLast? hlast)
    have hfrom : ResumePoint.fromCommit? row.metadata (some override) = some override := if_neg (hmarker row hlast)
    simp only [ResumePoint.ofTimeline, Option.bind_some, hsome, Option.map_some, hmetadata, hfrom]

/-- The store after a history of rounds under one override: the commits of the rounds that committed were added, one
each, and each of them carries the override. -/
structure Marked (target : String) (tableType : TableType) (override : String) (start : Store)
    (history : List RoundRecord) (store : Store) : Prop where
  typed : ∀ shell, store.table? target = some shell → shell.tableType = tableType
  untouched : lastCheckpoint history = none → store.lastCommit? target tableType = start.lastCommit? target tableType
  latest : ∀ checkpoint, lastCheckpoint history = some checkpoint →
    ∃ row, store.lastCommit? target tableType = some row ∧ row.Marks target tableType override checkpoint
  added : ∃ rows, store.completedInstants = start.completedInstants ++ rows ∧
    List.Forall₂ (fun checkpoint row => row.Marks target tableType override checkpoint)
      (history.filterMap RoundRecord.checkpoint?) rows

namespace Marked

variable {start found opened after : Store} {history : List RoundRecord} {record : RoundRecord} {plan : Plan ρ}

theorem of_start (htyped : ∀ shell, start.table? target = some shell → shell.tableType = tableType) :
    Marked target tableType override start [] start where
  typed := htyped
  untouched _ := rfl
  latest _ hnone := nomatch hnone
  added := ⟨[], (List.append_nil _).symm, .nil⟩

/-- A round resumes from the override until a round has committed, and from the last checkpoint then. -/
theorem resumes (h : Marked target tableType override start history found)
    (hoverrides : plan.Overrides target tableType override) (hlawful : found.Lawful)
    (hmarker : ∀ row, start.lastCommit? target tableType = some row → row.metadata.get? resetMarkerKey ≠ some override)
    {point : ResumePoint} (hresumes : Resumes plan.config found point opened) :
    point = ⟨some ((lastCheckpoint history).getD override), some override⟩ := by
  obtain ⟨timeline, now, hpoint, hfinds⟩ := hresumes
  rw [hoverrides.override] at hpoint
  cases hfinds with
  | @known shell htable =>
    rw [hoverrides.path] at htable hpoint
    rw [h.typed shell htable] at hpoint
    cases hlast : lastCheckpoint history with
    | none =>
      rw [hlawful.resume_override now (h.untouched hlast ▸ hmarker)] at hpoint
      cases hpoint
      rfl
    | some checkpoint =>
      obtain ⟨row, hrow, hmarks⟩ := h.latest checkpoint hlast
      have hcarries : ∀ marker, some override = some marker → row.metadata.get? resetMarkerKey = some marker := by
        rintro _ ⟨⟩
        exact hmarks.marker
      rw [hlawful.resume_eq now hrow hmarks.checkpoint hcarries] at hpoint
      cases hpoint
      rfl
  | fresh htable =>
    rw [hoverrides.path] at htable
    cases hlast : lastCheckpoint history with
    | none =>
      cases hpoint
      rfl
    | some checkpoint =>
      -- A table that has a commit is registered.
      obtain ⟨row, hrow, -⟩ := h.latest checkpoint hlast
      obtain ⟨hmem, hpath, -⟩ := hlawful.mem_completedCommits.mp (List.mem_of_getLast? hrow)
      have hregistered := hlawful.registered row hmem
      rw [hpath, Store.hasTable, htable] at hregistered
      cases hregistered

theorem kept (h : Marked target tableType override start history found) (hlawful : found.Lawful)
    (hafter : after.Lawful) (hcompleted : after.completedInstants = found.completedInstants)
    (htyped : ∀ shell, after.table? target = some shell → shell.tableType = tableType)
    (hnone : record.checkpoint? = none) : Marked target tableType override start (history ++ [record]) after := by
  have hcheckpoint : lastCheckpoint (history ++ [record]) = lastCheckpoint history := by
    rw [lastCheckpoint_snoc, hnone, Option.none_or]
  have hlast : after.lastCommit? target tableType = found.lastCommit? target tableType := by
    rw [Store.lastCommit?, Store.lastCommit?, hlawful.completedCommits_congr hafter hcompleted]
  have hcommitted : (history ++ [record]).filterMap RoundRecord.checkpoint? =
      history.filterMap RoundRecord.checkpoint? := by
    rw [List.filterMap_append, List.filterMap_cons_none hnone, List.filterMap_nil, List.append_nil]
  refine ⟨htyped, fun hfresh => ?_, fun checkpoint hsome => ?_, ?_⟩
  · rw [hlast]
    exact h.untouched (hcheckpoint ▸ hfresh)
  · rw [hlast]
    exact h.latest checkpoint (hcheckpoint ▸ hsome)
  · rw [hcompleted, hcommitted]
    exact h.added

theorem ended (h : Marked target tableType override start history found) (hopened : Opened plan.config found opened)
    (hlawful : opened.Lawful) {config : WriteConfig} (hconfig : config.WritesTo target tableType)
    (htyped : ∀ shell, opened.table? target = some shell → shell.tableType = tableType)
    {rows : List StagedRow} {checkpoint time : String} {outcome : WriteOutcome}
    (hended : opened.Ended config rows (Coordinator.commitMetadata checkpoint (some override)) time outcome after)
    (hrecord : record.checkpoint? = some checkpoint) :
    Marked target tableType override start (history ++ [record]) after := by
  have hmarks : ∀ now, (Store.completed outcome (Coordinator.commitMetadata checkpoint (some override)) now
      (config.newInstant time)).Marks target tableType override checkpoint := fun now =>
    ⟨hconfig.1, congrArg TableType.commitAction hconfig.2, rfl, checkpoint?_completed .., resetMarker_completed ..⟩
  have hcheckpoint : lastCheckpoint (history ++ [record]) = some checkpoint := by
    rw [lastCheckpoint_snoc, hrecord, Option.some_or]
  refine ⟨fun shell hshell => ?_, fun hnone => ?_, fun other hother => ?_, ?_⟩
  · obtain ⟨old, hold, htype⟩ := hended.table? hshell
    exact htype.trans (htyped old hold)
  · rw [hcheckpoint] at hnone
    cases hnone
  · rw [hcheckpoint] at hother
    cases hother
    obtain ⟨now, hlast⟩ := hended.lastCommit? hlawful hconfig
    exact ⟨_, hlast, hmarks now⟩
  · obtain ⟨now, hgains⟩ := hended.gains
    obtain ⟨old, hold, hmarked⟩ := h.added
    refine ⟨old ++ [Store.completed outcome (Coordinator.commitMetadata checkpoint (some override)) now
      (config.newInstant time)], ?_, ?_⟩
    · rw [(hgains.of_opened hopened).completed, hold, List.append_assoc]
    · rw [List.filterMap_append, List.filterMap_cons_some hrecord, List.filterMap_nil]
      exact List.rel_append hmarked (.cons (hmarks now) .nil)

theorem ran {before s : Scene Exposed ρ} (h : Marked target tableType override start history before.store)
    (hoverrides : plan.Overrides target tableType override) (hlawful : before.store.Lawful)
    (hafter : s.store.Lawful)
    (hmarker : ∀ row, start.lastCommit? target tableType = some row → row.metadata.get? resetMarkerKey ≠ some override)
    {G : Option String → Delivery → Prop} {clean : Prop} {outcome : Except Failure RoundResult}
    (haccount : LeavesFrom plan G clean before s outcome)
    (hrecord : record = ⟨s.reads.drop before.reads.length, outcome⟩) :
    (∀ read ∈ record.reads, read.asked = some ((lastCheckpoint history).getD override)) ∧
      (∀ result, outcome = .ok result → result.status = .committed → record.checkpoint?.isSome = true) ∧
      Marked target tableType override start (history ++ [record]) s.store := by
  have htypedOf : ∀ opened, Opened plan.config before.store opened →
      ∀ shell, opened.table? target = some shell → shell.tableType = tableType := by
    intro opened hopened
    have htyped := hopened.typed fun shell hshell =>
      (h.typed shell (hoverrides.path ▸ hshell)).trans hoverrides.type.symm
    rw [hoverrides.path, hoverrides.type] at htyped
    exact htyped
  have hcompletedOf : ∀ opened, Opened plan.config before.store opened →
      opened.completedInstants = before.store.completedInstants := by
    rintro opened (rfl | ⟨-, rfl⟩)
    · rfl
    · rfl
  refine ⟨fun read hread => ?_, ?_⟩
  · rw [hrecord] at hread
    obtain ⟨point, opened, hresumes, hpoint⟩ := haccount.asked read hread
    rw [hpoint, h.resumes hoverrides hlawful hmarker hresumes]
  cases outcome with
  | error failure =>
    obtain ⟨-, -, opened, config, hstart, habandoned, -⟩ := haccount
    have hnone : record.checkpoint? = none := by rw [hrecord]; rfl
    have hcompleted := habandoned.completedInstants.trans (hcompletedOf opened hstart)
    constructor
    · rintro result ⟨⟩
    · refine h.kept hlawful hafter hcompleted (fun shell hshell => ?_) hnone
      rw [Store.table?, habandoned.tables] at hshell
      exact htypedOf opened hstart shell hshell
  | ok result =>
    obtain ⟨-, -, ⟨point, delivery, hidles⟩ | ⟨point, delivery, opened, config, checkpoint, time, hcommits⟩⟩ := haccount
    · have hopened := hidles.resumes.opened
      have hnone : record.checkpoint? = none := by
        rw [hrecord]
        simp [RoundRecord.checkpoint?, RoundResult.committed, hidles.status]
      refine ⟨?_, h.kept hlawful hafter (hcompletedOf _ hopened) (htypedOf _ hopened) hnone⟩
      rintro _ ⟨⟩ hcommitted
      rw [hidles.status] at hcommitted
      cases hcommitted
    · have hopened := hcommits.resumes.opened
      have hsome : record.checkpoint? = some checkpoint := by
        rw [hrecord, RoundRecord.checkpoint?_eq_some]
        exact ⟨result, rfl, hcommits.status, hcommits.returned⟩
      obtain ⟨outcome, rows, -, hended⟩ := hcommits.ended
      rw [h.resumes hoverrides hlawful hmarker hcommits.resumes] at hended
      refine ⟨fun _ _ _ => by rw [hsome]; rfl, ?_⟩
      exact h.ended hopened (hopened.lawful hlawful) (hoverrides.configures hcommits.configures)
        (htypedOf opened hopened) hended hsome

end Marked

/-! ## 3. Every stretch -/

/-- What holds of every round of a history and of the last one of a longer history holds of every round of that. -/
theorem forall_split_snoc {P : List RoundRecord → RoundRecord → Prop} {history : List RoundRecord} {last : RoundRecord}
    (h : ∀ earlier record later, history = earlier ++ record :: later → P earlier record) (hlast : P history last) :
    ∀ earlier record later, history ++ [last] = earlier ++ record :: later → P earlier record := by
  intro earlier record later hsplit
  rcases List.eq_nil_or_concat later with rfl | ⟨later, final, rfl⟩
  · obtain ⟨rfl, hrecord⟩ := List.append_inj' hsplit rfl
    cases hrecord
    exact hlast
  · have hshift : history ++ [last] = (earlier ++ record :: later) ++ [final] := by
      rw [hsplit, List.concat_eq_append, List.append_assoc, List.cons_append]
    exact h earlier record later (List.append_inj' hshift rfl).1

/-- Every round that reached the source asked it from the override as long as no round had committed, and from the
checkpoint of the latest commit then. -/
def AsksFrom (override : String) (history : List RoundRecord) : Prop :=
  ∀ earlier record later, history = earlier ++ record :: later →
    ∀ read ∈ record.reads, read.asked = some ((lastCheckpoint earlier).getD override)

/-- Every round that committed has the checkpoint that it committed. -/
def CommitsHaveCheckpoints (history : List RoundRecord) : Prop :=
  ∀ record ∈ history, ∀ result, record.outcome = .ok result → result.status = .committed →
    record.checkpoint?.isSome = true

section Course

variable {past history : List RoundRecord} {old plan : Plan ρ} {start w : RoundWorld ρ}

theorem Stretch.marked (h : Stretch (Plan.Overrides target tableType override) start history plan w)
    (hpast : Course (fun _ => True) True past old start)
    (htyped : ∀ shell, start.store.table? target = some shell → shell.tableType = tableType)
    (hmarker : ∀ row, start.store.lastCommit? target tableType = some row →
      row.metadata.get? resetMarkerKey ≠ some override) :
    AsksFrom override history ∧ CommitsHaveCheckpoints history ∧
      Marked target tableType override start.store history w.store := by
  -- Only a round that is run changes the store, so the other steps keep what holds before them.
  induction h with
  | @opened plan w' outcome _ hrun =>
    have hstore : w'.store = start.store := (setUp_account_of_run rfl hrun).2.1
    rw [hstore]
    refine ⟨fun earlier record later hsplit => ?_, fun record hrecord => ?_, .of_start htyped⟩
    · simp at hsplit
    · cases hrecord
  | @reopened history old plan w w' outcome _ _ hrun ih =>
    have hstore : w'.store = w.store := (setUp_account_of_run rfl hrun).2.1
    rw [hstore]
    exact ih
  | @ran history plan w w' outcome hstretch hrun ih =>
    obtain ⟨hasks, hcheckpoints, hmarked⟩ := ih
    have hcourse := hstretch.course hpast
    obtain ⟨hlawful, hattached⟩ := hcourse.sound
    have hafter : w'.state.scene.store.Lawful := (hcourse.ran hrun).sound.1
    have haccount := run_account_of_run hlawful hattached False.elim plan.source.gives_anything hrun
    have hbefore : Marked target tableType override start.store history w.state.scene.store := hmarked
    obtain ⟨hasked, hcommitted, hnext⟩ := hbefore.ran hstretch.isAllowed hlawful hafter hmarker haccount rfl
    refine ⟨forall_split_snoc hasks hasked, fun record hrecord => ?_, hnext⟩
    rcases List.mem_append.mp hrecord with hold | hlast
    · exact hcheckpoints record hold
    · rw [List.mem_singleton.mp hlast]
      exact hcommitted
  | @closed history plan w w' outcome hstretch hrun ih =>
    have hattached := (hstretch.course hpast).sound.2
    have hstore : w'.store = w.store := ((close_account hattached).of_either hrun).2.1
    rw [hstore]
    exact ih
  | drifted now log sleeps incidents rest _ ih => exact ih

/-- Anything may be done to the store of a course that is shared. -/
theorem Course.visitedBy {allowed : Plan ρ → Prop} {shared : Prop} {events : List Warehouse.Event}
    {warehouse : Warehouse} (h : Course allowed shared history plan w) (hshared : shared)
    (hrun : Warehouse.Run w.state.outside.inner.warehouse events warehouse) :
    Course allowed shared history plan (w.withWarehouse warehouse) := by
  induction hrun with
  | none => exact h
  | more _ hperform ih =>
    have hnext := Course.visited hshared ih rfl hperform
    exact hnext

/-- An override is applied exactly once. Whatever happened to the store before, as long as the last commit of the table
does not carry the override: of the rounds that run under it, those before the first commit read from it and all
later ones from the latest checkpoint, whatever fails or finds nothing in between; and the commits that the rounds add
are one for each round that committed, with its checkpoint and with the override as reset marker. -/
theorem Stretch.override_once (h : Stretch (Plan.Overrides target tableType override) start history plan w)
    (hpast : Course (fun _ => True) True past old start)
    (htyped : ∀ shell, start.store.table? target = some shell → shell.tableType = tableType)
    (hmarker : ∀ row, start.store.lastCommit? target tableType = some row →
      row.metadata.get? resetMarkerKey ≠ some override) :
    AsksFrom override history ∧ CommitsHaveCheckpoints history ∧
      ∃ rows, w.store.completedInstants = start.store.completedInstants ++ rows ∧
        List.Forall₂ (fun checkpoint row => row.Marks target tableType override checkpoint)
          (history.filterMap RoundRecord.checkpoint?) rows := by
  obtain ⟨hasks, hcheckpoints, hmarked⟩ := h.marked hpast htyped hmarker
  exact ⟨hasks, hcheckpoints, hmarked.added⟩

end Course

/-! ## 4. A small stretch -/

def overridePlan : Plan Unit := { samplePlan with config := { samplePlan.config with checkpoint := some "0" } }

/-- Somebody registers a table and commits to it, with a checkpoint and without a reset marker. -/
def earlierRequests : List (Timestamp × Warehouse.Operation) :=
  let shell : TableShell :=
    { basePath := "/t/events", tableName := "events", tableType := .copyOnWrite, payloadClass := "" }
  [(sampleWorld.now, .initTable shell),
   (sampleWorld.now, .newClient { basePath := "/t/events", tableName := "events" }),
   (sampleWorld.now, .startCommit 0),
   (sampleWorld.now, .commit 0 (some sampleWorld.now.instantTime) ⟨[]⟩ [(checkpointKey, "5")])]

/-- What that leaves. -/
def earlierWarehouse : Warehouse where
  store := {
    tables := [{ basePath := "/t/events", tableName := "events", tableType := .copyOnWrite, payloadClass := "" }]
    instants := [⟨"/t/events", "20250101000000000", .commit, .completed, some [(checkpointKey, "5")], 0, 0,
      some sampleWorld.now⟩] }
  clients := [{ config := { basePath := "/t/events", tableName := "events" } }]

def overrideStart : RoundWorld Unit :=
  (sampleWorld.withWarehouse earlierWarehouse).drifted ⟨63871286460000000⟩ [] [] [] ()

theorem overrideStart_course : Course (fun _ => True) True [] samplePlan overrideStart := by
  have hearlier : Warehouse.Run {} (({} : Warehouse).play earlierRequests).1 earlierWarehouse :=
    Warehouse.run_play {} earlierRequests
  have hcourse : Course (fun _ => True) True [] samplePlan (sampleWorld.withWarehouse earlierWarehouse) :=
    (sampleCourse trivial).visitedBy trivial hearlier
  exact hcourse.drifted _ _ _ _ _

/-- The first round under the override reads from it and commits. -/
theorem overrideRun : ∃ outcome w,
    (overridePlan.round Exposed.tableStore).run.runIn overrideStart.renewed = (outcome, w) ∧
    (RoundRecord.mk [] outcome).checkpoint? = some "1" ∧ (RoundWorld.reads w).length = 1 :=
  ⟨_, _, Prod.mk.eta.symm, by decide +kernel, by decide +kernel⟩

/-- After that commit the override is done with: the next round reads from the checkpoint of the commit. -/
theorem overrideRun_once : ∃ past start first w, Course (fun _ => True) True past samplePlan start ∧
    Stretch (Plan.Overrides "/t/events" .copyOnWrite "0") start [first] overridePlan w ∧
    first.reads.length = 1 ∧ (∀ read ∈ first.reads, read.asked = some "0") ∧ first.checkpoint? = some "1" ∧
    (∃ row ∈ w.store.completedInstants, row.Marks "/t/events" .copyOnWrite "0" "1") ∧
    ∀ (outcome : Except Failure RoundResult) (w' : RoundWorld Unit),
      (overridePlan.round Exposed.tableStore).run.runIn w = (outcome, w') →
      ∀ read ∈ w'.reads.drop w.reads.length, read.asked = some "1" := by
  obtain ⟨outcome, w, hrun, hcheckpoint, hreads⟩ := overrideRun
  have hoverrides : overridePlan.Overrides "/t/events" .copyOnWrite "0" := ⟨rfl, rfl, rfl, rfl, rfl⟩
  have hsetUp : (overridePlan.setUp Exposed.tableStore).runIn overrideStart.renewed =
      (.ok (), overrideStart.renewed) := rfl
  have hopened : Stretch (Plan.Overrides "/t/events" .copyOnWrite "0") overrideStart [] overridePlan
      overrideStart.renewed := .opened hoverrides hsetUp
  have hstretch := hopened.ran hrun
  have htyped : ∀ shell, overrideStart.store.table? "/t/events" = some shell → shell.tableType = .copyOnWrite := by
    rintro shell ⟨⟩
    rfl
  have hmarker : ∀ row, overrideStart.store.lastCommit? "/t/events" .copyOnWrite = some row →
      row.metadata.get? resetMarkerKey ≠ some "0" := by
    intro row hrow
    have hmem := (overrideStart_course.sound.1.mem_completedCommits.mp (List.mem_of_getLast? hrow)).1
    rw [List.mem_singleton.mp hmem]
    decide
  have hcommitted : RoundRecord.checkpoint?
      ⟨(RoundWorld.reads w).drop (RoundWorld.reads overrideStart.renewed).length, outcome⟩ = some "1" := hcheckpoint
  obtain ⟨hasks, -, rows, hadded, hmarked⟩ := Stretch.override_once hstretch overrideStart_course htyped hmarker
  refine ⟨[], overrideStart, _, w, overrideStart_course, hstretch, ?_, ?_, hcommitted, ?_, ?_⟩
  · show (List.drop 0 (RoundWorld.reads w)).length = 1
    rw [List.drop_zero]
    exact hreads
  · exact hasks [] _ [] rfl
  · rw [List.nil_append, List.filterMap_cons_some hcommitted] at hmarked
    obtain ⟨row, rest, hmarks, -, rfl⟩ := List.forall₂_cons_left_iff.mp hmarked
    refine ⟨row, ?_, hmarks⟩
    rw [hadded]
    exact List.mem_append_right _ List.mem_cons_self
  · intro later w' hlater read hread
    obtain ⟨hasksLater, -⟩ := Stretch.override_once (hstretch.ran hlater) overrideStart_course htyped hmarker
    have hlast := hasksLater _ _ [] rfl read hread
    rw [List.nil_append, lastCheckpoint, List.filterMap_cons_some hcommitted] at hlast
    exact hlast

end TableSync
