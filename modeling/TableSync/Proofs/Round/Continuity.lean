/-
  TableSync/Proofs/Round/Continuity.lean
  ======================================
  **Continuity** — every round reads on from where the last commit ended.

  In a course of rounds on one table that nobody else writes to, the latest
  commit of the table is that of the latest round that committed, whatever
  failed in between: rounds that fail leave no completed instant, and a new
  instant comes after all others.  So the chain of checkpoints has no gap and
  no overlap, and a source that keeps its log delivers every record to exactly
  one committed round.
-/
import TableSync.Proofs.Config.Target
import TableSync.Proofs.Round.Course

namespace TableSync

variable {ρ : Type}

/-! ## 1. Histories -/

/-- The checkpoint of the latest round that committed. -/
def lastCheckpoint (history : List RoundRecord) : Option String :=
  (history.filterMap RoundRecord.checkpoint?).getLast?

theorem lastCheckpoint_snoc (history : List RoundRecord) (record : RoundRecord) :
    lastCheckpoint (history ++ [record]) = record.checkpoint?.or (lastCheckpoint history) := by
  rw [lastCheckpoint, lastCheckpoint, List.filterMap_append]
  cases hcheckpoint : record.checkpoint? with
  | none => simp [hcheckpoint]
  | some checkpoint => simp [hcheckpoint]

/-- A round read from a checkpoint at most, and if it committed, what it read once with the checkpoint at the
end of it. -/
structure RoundRecord.Follows (record : RoundRecord) (asked : Option String) : Prop where
  reads : ∀ read ∈ record.reads, read.asked = asked
  committed : ∀ checkpoint, record.checkpoint? = some checkpoint →
    ∃ delivery, record.reads = [⟨asked, some delivery⟩] ∧ delivery.checkpoint = some checkpoint

/-- Every round of a history read from the checkpoint of the latest commit before it. -/
inductive Continues : List RoundRecord → Prop where
  | nil : Continues []
  | snoc {history : List RoundRecord} {record : RoundRecord} :
      Continues history → record.Follows (lastCheckpoint history) → Continues (history ++ [record])

theorem Continues.follows {history earlier later : List RoundRecord} {record : RoundRecord}
    (h : Continues history) (hsplit : history = earlier ++ record :: later) :
    record.Follows (lastCheckpoint earlier) := by
  induction h generalizing later with
  | nil => simp at hsplit
  | @snoc history last _ hlast ih =>
    rcases List.eq_nil_or_concat later with rfl | ⟨later, final, rfl⟩
    · obtain ⟨rfl, hrecord⟩ := List.append_inj' hsplit rfl
      cases hrecord
      exact hlast
    · have hshift : history ++ [last] = (earlier ++ record :: later) ++ [final] := by
        rw [hsplit, List.concat_eq_append, List.append_assoc, List.cons_append]
      exact ih (List.append_inj' hshift rfl).1

/-! ## 2. Batches -/

namespace SourceLog

variable {ι : Type}

/-- A read was answered with exactly the records after the checkpoint that it was asked from, up to the
checkpoint that came with them, which lies no earlier in the log. -/
def Answers (log : SourceLog ι) (read : SourceRead) : Prop :=
  ∀ delivery checkpoint, read.given = some delivery → delivery.checkpoint = some checkpoint →
    log.before read.asked ⊆ log.upTo checkpoint ∧
    log.carried delivery = log.upTo checkpoint \ log.before read.asked

/-- A record of the log was in the batch of a round that committed. -/
def InBatch (log : SourceLog ι) (x : ι) (record : RoundRecord) : Prop :=
  record.checkpoint?.isSome ∧ ∃ read ∈ record.reads, ∃ delivery, read.given = some delivery ∧ x ∈ log.carried delivery

/-- The batch of a committed round, by the checkpoints at its ends. -/
theorem inBatch_iff {log : SourceLog ι} {record : RoundRecord} {asked : Option String} {checkpoint : String}
    (hfollows : record.Follows asked) (hanswers : ∀ read ∈ record.reads, log.Answers read)
    (hcommitted : record.checkpoint? = some checkpoint) (x : ι) :
    log.InBatch x record ↔ x ∈ log.upTo checkpoint ∧ x ∉ log.before asked := by
  obtain ⟨delivery, hreads, hdelivery⟩ := hfollows.committed checkpoint hcommitted
  obtain ⟨-, hcarried⟩ := hanswers ⟨asked, some delivery⟩ (by rw [hreads]; exact List.mem_singleton_self _)
    delivery checkpoint rfl hdelivery
  rw [InBatch, hcommitted, hreads]
  constructor
  · rintro ⟨-, read, hread, other, hother, hx⟩
    rw [List.mem_singleton.mp hread] at hother
    cases hother
    rw [hcarried] at hx
    exact hx
  · intro hx
    refine ⟨rfl, _, List.mem_singleton_self _, delivery, rfl, ?_⟩
    rw [hcarried]
    exact hx

theorem subset_of_follows {log : SourceLog ι} {record : RoundRecord} {asked : Option String} {checkpoint : String}
    (hfollows : record.Follows asked) (hanswers : ∀ read ∈ record.reads, log.Answers read)
    (hcommitted : record.checkpoint? = some checkpoint) : log.before asked ⊆ log.upTo checkpoint := by
  obtain ⟨delivery, hreads, hdelivery⟩ := hfollows.committed checkpoint hcommitted
  exact (hanswers ⟨asked, some delivery⟩ (by rw [hreads]; exact List.mem_singleton_self _)
    delivery checkpoint rfl hdelivery).1

theorem not_inBatch {log : SourceLog ι} {record : RoundRecord} (hnone : record.checkpoint? = none) (x : ι) :
    ¬log.InBatch x record := by
  rintro ⟨hsome, -⟩
  rw [hnone] at hsome
  cases hsome

end SourceLog

section Log

variable {ι : Type} {log : SourceLog ι} {history : List RoundRecord}

/-- No committed round has a record beyond the last committed checkpoint. -/
theorem Continues.inBatch_before (h : Continues history)
    (hanswers : ∀ record ∈ history, ∀ read ∈ record.reads, log.Answers read) {x : ι} :
    ∀ record ∈ history, log.InBatch x record → x ∈ log.before (lastCheckpoint history) := by
  induction h with
  | nil =>
    intro record hrecord
    cases hrecord
  | @snoc history last _ hlast ih =>
    have hearlier := ih fun record hrecord => hanswers record (List.mem_append_left _ hrecord)
    have hanswered := hanswers last (List.mem_append_right _ List.mem_cons_self)
    intro record hrecord hx
    rw [lastCheckpoint_snoc]
    cases hcheckpoint : last.checkpoint? with
    | none =>
      rw [Option.none_or]
      rcases List.mem_append.mp hrecord with hold | hnew
      · exact hearlier record hold hx
      · rw [List.mem_singleton.mp hnew] at hx
        exact absurd hx (SourceLog.not_inBatch hcheckpoint x)
    | some checkpoint =>
      rw [Option.some_or, SourceLog.before_some]
      rcases List.mem_append.mp hrecord with hold | hnew
      · exact SourceLog.subset_of_follows hlast hanswered hcheckpoint (hearlier record hold hx)
      · rw [List.mem_singleton.mp hnew] at hx
        exact ((SourceLog.inBatch_iff hlast hanswered hcheckpoint x).mp hx).1

/-- Every record up to the last committed checkpoint was in the batch of exactly one committed round. -/
theorem Continues.exactlyOnce (h : Continues history)
    (hanswers : ∀ record ∈ history, ∀ read ∈ record.reads, log.Answers read) {x : ι}
    (hx : x ∈ log.before (lastCheckpoint history)) :
    ∃ earlier record later, history = earlier ++ record :: later ∧ log.InBatch x record ∧
      ∀ other ∈ earlier ++ later, ¬log.InBatch x other := by
  induction h with
  | nil =>
    have hnone : lastCheckpoint [] = none := rfl
    rw [hnone] at hx
    cases hx
  | @snoc history last hhistory hlast ih =>
    have hearlier : ∀ record ∈ history, ∀ read ∈ record.reads, log.Answers read :=
      fun record hrecord => hanswers record (List.mem_append_left _ hrecord)
    have hanswered := hanswers last (List.mem_append_right _ List.mem_cons_self)
    rw [lastCheckpoint_snoc] at hx
    -- a record that was there before the last round is in one of the earlier batches
    have hold : x ∈ log.before (lastCheckpoint history) → ¬log.InBatch x last →
        ∃ earlier record later, history ++ [last] = earlier ++ record :: later ∧ log.InBatch x record ∧
          ∀ other ∈ earlier ++ later, ¬log.InBatch x other := by
      intro hbefore hnot
      obtain ⟨earlier, record, later, rfl, hin, hothers⟩ := ih hearlier hbefore
      refine ⟨earlier, record, later ++ [last], by simp, hin, fun other hother => ?_⟩
      rw [← List.append_assoc] at hother
      rcases List.mem_append.mp hother with hmem | hmem
      · exact hothers other hmem
      · rw [List.mem_singleton.mp hmem]
        exact hnot
    cases hcheckpoint : last.checkpoint? with
    | none =>
      rw [hcheckpoint, Option.none_or] at hx
      exact hold hx (SourceLog.not_inBatch hcheckpoint x)
    | some checkpoint =>
      rw [hcheckpoint, Option.some_or, SourceLog.before_some] at hx
      have hbatch := SourceLog.inBatch_iff hlast hanswered hcheckpoint x
      by_cases hbefore : x ∈ log.before (lastCheckpoint history)
      · exact hold hbefore fun hin => (hbatch.mp hin).2 hbefore
      · refine ⟨history, last, [], rfl, hbatch.mpr ⟨hx, hbefore⟩, fun other hother hin => ?_⟩
        rw [List.append_nil] at hother
        exact hbefore (hhistory.inBatch_before hearlier other hother hin)

end Log

/-! ## 3. Rounds on one table -/

/-- A plan for rounds on one table of one type, without an override, whose write properties leave the table
alone. -/
structure Plan.Serves (target : String) (tableType : TableType) (plan : Plan ρ) : Prop where
  path : plan.config.targetBasePath = target
  type : plan.config.tableType = tableType
  override : plan.config.checkpoint = none
  keeps : plan.config.KeepsTarget

/-- The table is of one type, and its latest commit carries the last checkpoint of the history. -/
structure InStep (target : String) (tableType : TableType) (history : List RoundRecord) (store : Store) : Prop where
  typed : ∀ shell, store.table? target = some shell → shell.tableType = tableType
  last : (store.lastCommit? target tableType).bind InstantRow.checkpoint? = lastCheckpoint history

section Serial

variable {target : String} {tableType : TableType} {plan : Plan ρ} {history : List RoundRecord}
variable {found opened after : Store}

theorem Plan.Serves.configures (hserves : plan.Serves target tableType) {config : WriteConfig}
    (h : plan.Configures config) : config.basePath = target ∧ config.tableType = tableType := by
  obtain ⟨provider, now, hconfig⟩ := h
  obtain ⟨hpath, htype⟩ := SyncConfig.writeConfig_target hserves.keeps hconfig
  exact ⟨hpath.trans hserves.path, htype.trans hserves.type⟩

theorem inStep_empty : InStep target tableType [] {} where
  typed _ hshell := nomatch hshell
  last := by
    rw [Store.lastCommit?, Store.lawful_empty.completedCommits]
    rfl

theorem InStep.resumes (h : InStep target tableType history found) (hserves : plan.Serves target tableType)
    (hlawful : found.Lawful) {point : ResumePoint} (hresumes : Resumes plan.config found point opened) :
    point.value = lastCheckpoint history := by
  obtain ⟨timeline, now, hpoint, hfinds⟩ := hresumes
  rw [hserves.override] at hpoint
  cases hfinds with
  | @known shell htable =>
    rw [hserves.path] at htable hpoint
    rw [h.typed shell htable] at hpoint
    rw [(hlawful.resume now hpoint).2, h.last]
  | fresh htable =>
    rw [hserves.path] at htable
    have hnone : found.lastCommit? target tableType = none := by
      rw [Store.lastCommit?, List.getLast?_eq_none_iff, List.eq_nil_iff_forall_not_mem]
      intro row hrow
      obtain ⟨hmem, hpath, -⟩ := hlawful.mem_completedCommits.mp hrow
      have hregistered := hlawful.registered row hmem
      rw [hpath, Store.hasTable, htable] at hregistered
      cases hregistered
    rw [← h.last, hnone]
    cases hpoint
    rfl

/-- The commits and the type of the table decide. -/
theorem InStep.of_same (h : InStep target tableType history found)
    (hcommits : after.completedCommits target tableType = found.completedCommits target tableType)
    (htyped : ∀ shell, after.table? target = some shell → shell.tableType = tableType) :
    InStep target tableType history after :=
  ⟨htyped, by rw [Store.lastCommit?, hcommits]; exact h.last⟩

theorem InStep.registered (h : InStep target tableType history found) (hserves : plan.Serves target tableType)
    (hopened : Opened plan.config found opened) : InStep target tableType history opened := by
  have htyped := hopened.typed fun shell hshell => (h.typed shell (hserves.path ▸ hshell)).trans hserves.type.symm
  rw [hserves.path, hserves.type] at htyped
  refine h.of_same ?_ htyped
  rcases hopened with rfl | ⟨-, rfl⟩
  · rfl
  · rfl

theorem InStep.abandoned (h : InStep target tableType history opened) (hlawful : opened.Lawful)
    {clean : Prop} {tried : Fields String → Prop} {config : WriteConfig}
    (habandoned : opened.Abandoned clean tried config after) :
    InStep target tableType history after := by
  refine h.of_same ?_ fun shell hshell => h.typed shell ?_
  · exact hlawful.completedCommits_congr (habandoned.lawful hlawful) habandoned.completedInstants
  · rw [Store.table?, habandoned.tables] at hshell
    exact hshell

/-- A commit of the table leaves it in step with a history that has one more checkpoint. -/
theorem InStep.ended (h : InStep target tableType history opened) (hlawful : opened.Lawful) {config : WriteConfig}
    (hconfig : config.basePath = target ∧ config.tableType = tableType) {rows : List StagedRow}
    {checkpoint time : String} {marker : Option String} {outcome : WriteOutcome}
    (hended : opened.Ended config rows (Coordinator.commitMetadata checkpoint marker) time outcome after)
    {record : RoundRecord} (hrecord : record.checkpoint? = some checkpoint) :
    InStep target tableType (history ++ [record]) after := by
  refine ⟨fun shell hshell => ?_, ?_⟩
  · obtain ⟨old, hold, htype⟩ := hended.table? hshell
    exact htype.trans (h.typed old hold)
  · obtain ⟨now, hcommits⟩ := hended.completedCommits hlawful target tableType
    rw [if_pos ⟨hconfig.1, congrArg TableType.commitAction hconfig.2⟩] at hcommits
    rw [Store.lastCommit?, hcommits, List.getLast?_concat, Option.bind_some, checkpoint?_completed,
      lastCheckpoint_snoc, hrecord, Option.some_or]

/-- A round adds a record that follows, and leaves the table in step. -/
theorem InStep.ran {before s : Scene Exposed ρ} (h : InStep target tableType history before.store)
    (hserves : plan.Serves target tableType) (hlawful : before.store.Lawful)
    {G : Option String → Delivery → Prop} {clean : Prop} {outcome : Except Failure RoundResult}
    (haccount : LeavesFrom plan G clean before s outcome) {record : RoundRecord}
    (hrecord : record = ⟨s.reads.drop before.reads.length, outcome⟩) :
    record.Follows (lastCheckpoint history) ∧ InStep target tableType (history ++ [record]) s.store := by
  have hasked : ∀ read ∈ record.reads, read.asked = lastCheckpoint history := by
    intro read hread
    rw [hrecord] at hread
    obtain ⟨point, opened, hresumes, hpoint⟩ := haccount.asked read hread
    rw [hpoint]
    exact h.resumes hserves hlawful hresumes
  have hidle : record.checkpoint? = none → InStep target tableType history s.store →
      record.Follows (lastCheckpoint history) ∧ InStep target tableType (history ++ [record]) s.store := by
    intro hnone hstep
    refine ⟨⟨hasked, fun checkpoint hsome => ?_⟩, hstep.typed, ?_⟩
    · rw [hnone] at hsome
      cases hsome
    · rw [lastCheckpoint_snoc, hnone, Option.none_or, hstep.last]
  cases outcome with
  | error failure =>
    obtain ⟨-, -, opened, config, hstart, habandoned, -⟩ := haccount
    have hnone : record.checkpoint? = none := by rw [hrecord]; rfl
    exact hidle hnone ((h.registered hserves hstart).abandoned (hstart.lawful hlawful) habandoned)
  | ok result =>
    obtain ⟨-, -, ⟨point, delivery, hidles⟩ | ⟨point, delivery, opened, config, checkpoint, time, hcommits⟩⟩ := haccount
    · have hnone : record.checkpoint? = none := by
        rw [hrecord]
        simp [RoundRecord.checkpoint?, RoundResult.committed, hidles.status]
      exact hidle hnone (h.registered hserves hidles.resumes.opened)
    · have hsome : record.checkpoint? = some checkpoint := by
        rw [hrecord, RoundRecord.checkpoint?_eq_some]
        exact ⟨result, rfl, hcommits.status, hcommits.returned⟩
      have hreads : record.reads = [⟨lastCheckpoint history, some delivery⟩] := by
        rw [hrecord, ← h.resumes hserves hlawful hcommits.resumes, hcommits.reads]
        exact List.drop_left
      obtain ⟨outcome, rows, -, hended⟩ := hcommits.ended
      have hopened := hcommits.resumes.opened
      refine ⟨⟨hasked, fun other hother => ?_⟩, ?_⟩
      · rw [hsome] at hother
        cases hother
        exact ⟨delivery, hreads, hcommits.read⟩
      · exact (h.registered hserves hopened).ended (hopened.lawful hlawful)
          (hserves.configures hcommits.configures) hended hsome

end Serial

/-- In every course of rounds on one table, the history continues and the table is in step with it. -/
theorem Course.continues {target : String} {tableType : TableType} {history : List RoundRecord} {plan : Plan ρ}
    {w : RoundWorld ρ} (h : Course (Plan.Serves target tableType) False history plan w) :
    plan.Serves target tableType ∧ Continues history ∧ InStep target tableType history w.store := by
  induction h with
  | @opened plan w w' outcome hserves hblank hrun =>
    have hstore : w'.store = w.store := (setUp_account_of_run hblank.2.2 hrun).2.1
    have hempty : w.store = {} := congrArg Warehouse.store hblank.1
    exact ⟨hserves, .nil, by rw [hstore, hempty]; exact inStep_empty⟩
  | @reopened history old plan w w' outcome _ hserves hrun ih =>
    have hstore : w'.store = w.store := (setUp_account_of_run rfl hrun).2.1
    exact ⟨hserves, ih.2.1, hstore ▸ ih.2.2⟩
  | @ran history plan w w' outcome hcourse hrun ih =>
    obtain ⟨hserves, hcontinues, hstep⟩ := ih
    obtain ⟨hlawful, hattached⟩ := hcourse.sound
    have haccount := run_account_of_run hlawful hattached False.elim plan.source.gives_anything hrun
    have hbefore : InStep target tableType history w.state.scene.store := hstep
    have hsound : w.state.scene.store.Lawful := hlawful
    obtain ⟨hfollows, hafter⟩ := hbefore.ran hserves hsound haccount rfl
    exact ⟨hserves, .snoc hcontinues hfollows, hafter⟩
  | @closed history plan w w' outcome hcourse hrun ih =>
    have hstore : w'.store = w.store := ((close_account hcourse.sound.2).of_either hrun).2.1
    exact ⟨ih.1, ih.2.1, hstore ▸ ih.2.2⟩
  | visited hshared => exact hshared.elim
  | drifted now log sleeps incidents rest _ ih => exact ih

/-- Every round that reached the source asked it from the checkpoint of the latest commit before it. -/
def ReadsOn (history : List RoundRecord) : Prop :=
  ∀ earlier record later, history = earlier ++ record :: later →
    ∀ read ∈ record.reads, read.asked = lastCheckpoint earlier

/-- If the source answered from a log, every record of the log up to the last committed checkpoint was in the
batch of exactly one committed round. -/
def DeliversOnce (history : List RoundRecord) : Prop :=
  ∀ {ι : Type} (log : SourceLog ι), (∀ record ∈ history, ∀ read ∈ record.reads, log.Answers read) →
    ∀ x ∈ log.before (lastCheckpoint history), ∃ earlier record later,
      history = earlier ++ record :: later ∧ log.InBatch x record ∧ ∀ other ∈ earlier ++ later, ¬log.InBatch x other

/-- Checkpoint continuity, in every course of rounds on one table from an empty store on. -/
theorem Course.checkpoint_continuity {target : String} {tableType : TableType} {history : List RoundRecord}
    {plan : Plan ρ} {w : RoundWorld ρ} (h : Course (Plan.Serves target tableType) False history plan w) :
    ReadsOn history ∧ DeliversOnce history := by
  obtain ⟨-, hcontinues, -⟩ := h.continues
  exact ⟨fun _ _ _ hsplit => (hcontinues.follows hsplit).reads,
    fun _ hanswers _ hx => hcontinues.exactlyOnce hanswers hx⟩

/-- The sample plan on a source with one record up to the checkpoint `1`, and another one up to `2`. -/
def steppedPlan : Plan Unit where
  config := samplePlan.config
  source := .records fun asked _ =>
    if asked = none then pure ⟨some [[("id", .text "a"), ("ts", .int 1)]], some "1", none⟩
    else if asked = some "1" then pure ⟨some [[("id", .text "b"), ("ts", .int 2)]], some "2", none⟩
    else pure ⟨none, asked, none⟩
  keyOf := (KeyGenerator.simple "id" none).key

/-- Its log, in which `true` is the record that came late. -/
def steppedLog : SourceLog Bool where
  upTo checkpoint := {late | late = true → checkpoint = "2"}
  carried delivery := {late | delivery.checkpoint = some (if late then "2" else "1")}

/-- What the source was asked from and what came with its answer agree with the log. -/
theorem steppedLog_answers {read : SourceRead} {checkpoint : String}
    (hgiven : read.given.bind Delivery.checkpoint = some checkpoint)
    (h : (read.asked = none ∧ checkpoint = "1") ∨ (read.asked = some "1" ∧ checkpoint = "2")) :
    steppedLog.Answers read := by
  intro delivery other hdelivery hother
  rw [hdelivery, Option.bind_some, hother] at hgiven
  cases hgiven
  rcases h with ⟨hasked, rfl⟩ | ⟨hasked, rfl⟩
  · rw [hasked]
    refine ⟨Set.empty_subset _, Set.ext fun late => ?_⟩
    cases late <;> simp [steppedLog, SourceLog.before, hother]
  · rw [hasked]
    refine ⟨fun _ _ _ => rfl, Set.ext fun late => ?_⟩
    cases late <;> simp [steppedLog, SourceLog.before, hother]

/-- A round of the plan. -/
def steppedRound (w : RoundWorld Unit) : Except Failure RoundResult × RoundWorld Unit :=
  (steppedPlan.round Exposed.tableStore).run.runIn w

def steppedRecord (w : RoundWorld Unit) : RoundRecord :=
  ⟨(RoundWorld.reads (steppedRound w).2).drop (RoundWorld.reads w).length, (steppedRound w).1⟩

/-- The world after its first round, a minute later. -/
def steppedWorld : RoundWorld Unit :=
  (steppedRound sampleWorld).2.drifted (sampleWorld.now.addSeconds (.whole 60)) [] [] [] ()

/-- Both rounds commit, each with the checkpoint that came with its one read. -/
theorem steppedCourse : ∃ (first second : RoundRecord) (w : RoundWorld Unit),
    Course (Plan.Serves "/t/events" .copyOnWrite) False [first, second] steppedPlan w ∧
    first.checkpoint? = some "1" ∧ second.checkpoint? = some "2" ∧
    first.reads.map (fun read => read.given.bind Delivery.checkpoint) = [some "1"] ∧
    second.reads.map (fun read => read.given.bind Delivery.checkpoint) = [some "2"] := by
  have hserves : steppedPlan.Serves "/t/events" .copyOnWrite := ⟨rfl, rfl, rfl, rfl, rfl⟩
  have hsetUp : (steppedPlan.setUp Exposed.tableStore).runIn sampleWorld = (.ok (), sampleWorld) := rfl
  have hrun : ∀ w, (steppedPlan.round Exposed.tableStore).run.runIn w = ((steppedRound w).1, (steppedRound w).2) :=
    fun w => Prod.mk.eta.symm
  have hstart : Course (Plan.Serves "/t/events" .copyOnWrite) False [] steppedPlan sampleWorld :=
    .opened hserves ⟨rfl, rfl, rfl⟩ hsetUp
  have hfirst : Course (Plan.Serves "/t/events" .copyOnWrite) False [steppedRecord sampleWorld] steppedPlan
      steppedWorld := (hstart.ran (hrun sampleWorld)).drifted _ _ _ _ _
  refine ⟨steppedRecord sampleWorld, steppedRecord steppedWorld, _, hfirst.ran (hrun steppedWorld), ?_, ?_, ?_, ?_⟩
  · decide +kernel
  · decide +kernel
  · decide +kernel
  · decide +kernel

/-- Two rounds commit, the second reads on from the checkpoint of the first, and each record is delivered once. -/
theorem steppedCourse_continuity : ∃ first second w,
    Course (Plan.Serves "/t/events" .copyOnWrite) False [first, second] steppedPlan w ∧
    first.checkpoint? = some "1" ∧ second.checkpoint? = some "2" ∧ second.reads.map SourceRead.asked = [some "1"] ∧
    ∀ late, ∃ earlier record later, [first, second] = earlier ++ record :: later ∧ steppedLog.InBatch late record ∧
      ∀ other ∈ earlier ++ later, ¬steppedLog.InBatch late other := by
  obtain ⟨first, second, w, hcourse, hfirst, hsecond, hgivenFirst, hgivenSecond⟩ := steppedCourse
  obtain ⟨hreadsOn, hdelivers⟩ := Course.checkpoint_continuity hcourse
  obtain ⟨early, hearly, hgivenEarly⟩ := List.map_eq_singleton_iff.1 hgivenFirst
  obtain ⟨late, hlate, hgivenLate⟩ := List.map_eq_singleton_iff.1 hgivenSecond
  have hasked : early.asked = none :=
    hreadsOn [] first [second] rfl early (hearly ▸ List.mem_singleton_self early)
  have hthen : late.asked = some "1" := by
    have hlast : lastCheckpoint [first] = some "1" := by simp [lastCheckpoint, hfirst]
    exact hlast ▸ hreadsOn [first] second [] rfl late (hlate ▸ List.mem_singleton_self late)
  have hanswers : ∀ record ∈ [first, second], ∀ read ∈ record.reads, steppedLog.Answers read := by
    intro record hrecord read hread
    rcases List.mem_pair.mp hrecord with rfl | rfl
    · rw [hearly, List.mem_singleton] at hread
      exact hread ▸ steppedLog_answers hgivenEarly (.inl ⟨hasked, rfl⟩)
    · rw [hlate, List.mem_singleton] at hread
      exact hread ▸ steppedLog_answers hgivenLate (.inr ⟨hthen, rfl⟩)
  have hlast : lastCheckpoint [first, second] = some "2" := by simp [lastCheckpoint, hfirst, hsecond]
  refine ⟨first, second, w, hcourse, hfirst, hsecond, by rw [hlate, List.map_singleton, hthen], fun arrived => ?_⟩
  refine hdelivers steppedLog hanswers arrived ?_
  rw [hlast]
  exact fun _ => rfl

end TableSync
