/-
  TableSync/Proofs/Round/Helpers.lean
  ===================================
  **Helpers cannot change a round** — whatever they return, raise or do.

  The recorder's notes of an outcome, the client of the catalog and requests for
  compaction come after a round has committed or failed.  Two runs of a round
  that differ in nothing but these end alike (`Plan.helpers_harmless`): up to
  the commit the runs are blind to them, and behind it a run neither fails nor
  touches what readers see.
-/
import TableSync.Proofs.Round.Blindness
import TableSync.Proofs.Round.Course
import TableSync.Proofs.Round.Empty

namespace TableSync

open Effect

variable {ρ α β : Type}

/-! ## 1. Helpers -/

/-- How the helpers of a round behave. -/
structure Helpers (ρ : Type) where
  complete : Nat → RoundResult → Effect ρ Unit
  fail : Nat → Failure → Option String → Effect ρ Unit
  tool : CatalogTool ρ
  compactor : Compactor

/-- The plan with helpers in place of its own. -/
def Plan.helped (plan : Plan ρ) (helpers : Helpers ρ) : Plan ρ :=
  { plan with
    recorder := plan.recorder.map fun recorder =>
      { start := recorder.start, complete := helpers.complete, fail := helpers.fail }
    catalog := plan.catalog.map fun catalog => { catalog with tool := helpers.tool } }

/-- The world with a store whose requests for compaction turn out as the helpers say. -/
def AidedWorld.helped (w : AidedWorld ρ) (helpers : Helpers ρ) : AidedWorld ρ :=
  { w with state := w.state.equip helpers.compactor }

/-- A run of a round with helpers. -/
def Plan.helpedRun (plan : Plan ρ) (helpers : Helpers ρ) (w : AidedWorld ρ) :
    Except Failure RoundResult × AidedWorld ρ :=
  ((plan.helped helpers).round Aided.tableStore).run.runIn (w.helped helpers)

/-- A report without what helpers answered. -/
def CommitResult.core (result : CommitResult) : CommitResult :=
  { result with scheduledCompaction := none, catalogSyncError := none }

/-- A result without what helpers answered. -/
def RoundResult.core (result : RoundResult) : RoundResult :=
  { result with scheduledCompaction := none, catalogSyncError := none }

section Same

variable {plan : Plan ρ} {helpers : Helpers ρ}

theorem recordStart_helped : ((plan.helped helpers).round Aided.tableStore).recordStart =
    (plan.round Aided.tableStore).recordStart := by
  cases hrecorder : plan.recorder <;> simp [Round.recordStart, Plan.round, Plan.helped, hrecorder, Site.recorder]

theorem resumePoint_helped : ((plan.helped helpers).round Aided.tableStore).resumePoint =
    (plan.round Aided.tableStore).resumePoint := rfl

theorem read_helped (point : ResumePoint) : ((plan.helped helpers).round Aided.tableStore).read point =
    (plan.round Aided.tableStore).read point := rfl

theorem prepareClient_helped (provider : Option SchemaProvider) :
    ((plan.helped helpers).round Aided.tableStore).prepareClient provider =
      (plan.round Aided.tableStore).prepareClient provider := rfl

theorem withoutDuplicates_helped (records : List PreparedRecord) :
    ((plan.helped helpers).round Aided.tableStore).withoutDuplicates records =
      (plan.round Aided.tableStore).withoutDuplicates records := rfl

theorem requireClient_helped : ((plan.helped helpers).coordinator Aided.tableStore).requireClient =
    (plan.coordinator Aided.tableStore).requireClient := rfl

theorem startCommit_helped : ((plan.helped helpers).coordinator Aided.tableStore).startCommit =
    (plan.coordinator Aided.tableStore).startCommit := rfl

end Same

/-! ## 2. Behind a commit -/

/-- Readers see the same in both worlds, and the write clients were handed out. -/
def Level (w v : AidedWorld ρ) : Prop :=
  ∃ seen, Keeping (fun t => t.store.look = seen) w.state.scene ∧ Keeping (fun t => t.store.look = seen) v.state.scene

/-- What keeps what readers see, and cannot fail, keeps two worlds level. -/
theorem Level.pairs {step step' : RoundStep (Site Aided ρ) α} {E : Failure → Failure → AidedWorld ρ → AidedWorld ρ → Prop}
    (h : ∀ seen, Stage (Keeping fun t => t.store.look = seen) step (fun _ => Keeping fun t => t.store.look = seen)
      fun _ => False)
    (h' : ∀ seen, Stage (Keeping fun t => t.store.look = seen) step' (fun _ => Keeping fun t => t.store.look = seen)
      fun _ => False) : Pairs Level step step' (fun _ _ => Level) E := by
  rintro w v ⟨seen, hw, hv⟩
  obtain ⟨a, w', hrun, hw'⟩ := (h seen).returns hw
  obtain ⟨b, v', hrun', hv'⟩ := (h' seen).returns hv
  exact .inl ⟨a, b, w', v', hrun, hrun', seen, hw', hv'⟩

theorem Level.log {E : Failure → Failure → AidedWorld ρ → AidedWorld ρ → Prop} (level : LogLevel) (topic : Topic)
    (message message' : String) : Pairs Level (Effect.log level topic message) (Effect.log level topic message')
      (fun _ _ => Level) E :=
  Level.pairs (fun _ => Stage.ofLog _ _ _) fun _ => Stage.ofLog _ _ _

section Unseen

variable {plan : Plan ρ} {K : Aided → Prop} {E : Scene Aided ρ → Prop}

theorem requireClient_keeping : Stage (Keeping K) (plan.coordinator Aided.tableStore).requireClient
    (fun client s => (∃ id config, client = Site.client (Aided.writer id config)) ∧ Keeping K s) (Keeping K) := by
  refine Stage.ofState fun state hs => ?_
  split
  next client hclient =>
    refine Stage.ofPure ?_
    rintro _ rfl
    exact ⟨hs.1 client hclient, hs⟩
  next => exact Stage.ofReport (fun _ ht => ht ▸ hs) _ _ _ _

/-- A request for compaction keeps what the compactor keeps. -/
theorem requestCompaction_keeping
    (h : ∀ id config, Effect.Leads K (Aided.writer id config).scheduleCompaction (fun _ => K) fun _ => K) :
    Stage (Keeping K) (plan.coordinator Aided.tableStore).requestCompaction (fun _ => Keeping K) E := by
  refine request_stage (requireClient_keeping.bind fun client => Stage.of_fact ?_)
  rintro ⟨id, config, rfl⟩
  exact Keeping.ofInner (h id config)

/-- So does publishing. -/
theorem publish_keeping (records : List PreparedRecord)
    (h : ∀ basePath, Effect.Leads K (Aided.tableStore.describeTable basePath) (fun _ => K) fun _ => K) :
    Stage (Keeping K) ((plan.coordinator Aided.tableStore).publish records) (fun _ => Keeping K) E := by
  refine Stage.of_each ?_
  rintro s ⟨hhanded, hs⟩
  have hpublish : Stage (At s K) ((plan.coordinator Aided.tableStore).publish records) (fun _ => At s K) E :=
    publish_stage (fun _ => h) fun _ _ ht => ht
  refine hpublish.weaken ?_ ?_ fun _ ht => ht
  · rintro _ rfl
    exact ⟨_, rfl, hs⟩
  · rintro _ _ ⟨t, rfl, ht⟩
    exact ⟨hhanded, ht⟩

theorem requestCompaction_unseen (seen : List VisibleRow × List InstantRow) :
    Stage (Keeping fun t => t.store.look = seen) (plan.coordinator Aided.tableStore).requestCompaction
      (fun _ => Keeping fun t => t.store.look = seen) E :=
  requestCompaction_keeping fun id config => aided_houses.compaction id config seen

theorem publish_unseen (records : List PreparedRecord) (seen : List VisibleRow × List InstantRow) :
    Stage (Keeping fun t => t.store.look = seen) ((plan.coordinator Aided.tableStore).publish records)
      (fun _ => Keeping fun t => t.store.look = seen) E :=
  publish_keeping records fun basePath => aided_houses.describe basePath seen

end Unseen

/-! ## 3. Two runs -/

def SameEnd (value : α → β) (a b : α) (w v : AidedWorld ρ) : Prop := value a = value b ∧ Level w v

def SameFailure (failure failure' : Failure) (w v : AidedWorld ρ) : Prop := failure = failure' ∧ Level w v

/-- From worlds related by `R` the two steps end with the same value, or with the same failure, and in worlds in which
readers see the same. -/
def AlikeFrom (R : AidedWorld ρ → AidedWorld ρ → Prop) (value : α → β) (step step' : RoundStep (Site Aided ρ) α) : Prop :=
  Pairs R step step' (SameEnd value) SameFailure

abbrev Alike (compactor : Compactor) (value : α → β) (step step' : RoundStep (Site Aided ρ) α) : Prop :=
  AlikeFrom (Apart (CommitState.equip compactor) fun state => HandedOut state.scene) value step step'

theorem Level.of_apart {compactor : Compactor} {w v : AidedWorld ρ}
    (h : Apart (CommitState.equip compactor) (fun state => HandedOut state.scene) w v) : Level w v := by
  obtain ⟨hhanded, rfl⟩ := h
  exact ⟨_, ⟨hhanded, rfl⟩, hhanded, rfl⟩

theorem AlikeFrom.alike {compactor : Compactor} {value : α → β} {step step' : RoundStep (Site Aided ρ) α}
    (h : AlikeFrom Level value step step') : Alike compactor value step step' :=
  Pairs.weaken h (fun _ _ hwv => Level.of_apart hwv) (fun _ _ _ _ hab => hab) fun _ _ _ _ hf => hf

theorem RoundBlind.alike {compactor : Compactor} {step : RoundStep (Site Aided ρ) α} {V : α → Prop} (value : α → β)
    (h : RoundBlind compactor step V) : Alike compactor value step step := by
  refine Pairs.weaken h (fun _ _ hwv => hwv) ?_ fun _ _ _ _ hf => ⟨hf.1, Level.of_apart hf.2⟩
  rintro a _ w v ⟨rfl, -, hwv⟩
  exact ⟨rfl, Level.of_apart hwv⟩

/-- Two runs stay together over a step that is blind. -/
theorem RoundBlind.alike_after {γ : Type} {compactor : Compactor} {step : RoundStep (Site Aided ρ) α} {V : α → Prop}
    {value : γ → β} {f f' : α → RoundStep (Site Aided ρ) γ} (first : RoundBlind compactor step V)
    (second : ∀ a, V a → Alike compactor value (f a) (f' a)) : Alike compactor value (step >>= f) (step >>= f') :=
  Blind.after first (fun _ _ _ hwv => ⟨rfl, Level.of_apart hwv⟩) second

section Twins

variable {plan : Plan ρ} {one other : Helpers ρ} {compactor : Compactor} {id : Warehouse.ClientId} {config : WriteConfig}
variable {records : List PreparedRecord} {checkpoint : String} {marker : Option String} {time : String}

theorem report_alike (outcome : WriteOutcome) (compaction compaction' : Option String) :
    AlikeFrom (Level (ρ := ρ)) CommitResult.core
      (do let error ← ((plan.helped one).coordinator Aided.tableStore).publish records
          pure { instantTime := time, totalRecords := outcome.totalRecords, totalErrorRecords := outcome.totalErrorRecords,
                 scheduledCompaction := compaction, catalogSyncError := error })
      (do let error ← ((plan.helped other).coordinator Aided.tableStore).publish records
          pure { instantTime := time, totalRecords := outcome.totalRecords, totalErrorRecords := outcome.totalErrorRecords,
                 scheduledCompaction := compaction', catalogSyncError := error }) :=
  (Level.pairs (publish_unseen records) (publish_unseen records)).bind fun _ _ => Pairs.ofPure fun _ _ hwv => ⟨rfl, hwv⟩

theorem finish_alike (outcome : WriteOutcome) : Alike compactor CommitResult.core
    (((plan.helped one).coordinator Aided.tableStore).finish (Site.client (Aided.writer id config)) records checkpoint
      marker time outcome)
    (((plan.helped other).coordinator Aided.tableStore).finish (Site.client (Aided.writer id config)) records checkpoint
      marker time outcome) := by
  let extra := Coordinator.commitMetadata checkpoint marker
  refine (RoundBlind.ofExposed ((Exposed.writer id config).commit time outcome extra)).alike_after fun done _ => ?_
  cases done with
  | false => exact RoundBlind.alike (V := fun _ => True) _ ((Blind.ofLog _ _ _).bind fun _ _ => Blind.ofReport _ _ _ _)
  | true =>
    refine (RoundBlind.enter _).alike_after fun _ _ => RoundBlind.alike_after (Blind.ofLog _ _ _) fun _ _ => ?_
    -- From here on the two stores may differ in all that readers do not see.
    apply AlikeFrom.alike
    by_cases hasync : plan.config.asyncCompaction = true
    · have hone : ((plan.helped one).coordinator Aided.tableStore).config.asyncCompaction = true := hasync
      have hother : ((plan.helped other).coordinator Aided.tableStore).config.asyncCompaction = true := hasync
      dsimp only
      rw [if_pos hone, if_pos hother]
      exact (Level.pairs requestCompaction_unseen requestCompaction_unseen).bind (report_alike outcome)
    · have hone : ¬((plan.helped one).coordinator Aided.tableStore).config.asyncCompaction = true := hasync
      have hother : ¬((plan.helped other).coordinator Aided.tableStore).config.asyncCompaction = true := hasync
      dsimp only
      rw [if_neg hone, if_neg hother]
      exact report_alike outcome none none

theorem write_alike (operation : Option String) : Alike compactor CommitResult.core
    (((plan.helped one).coordinator Aided.tableStore).write records checkpoint marker operation)
    (((plan.helped other).coordinator Aided.tableStore).write records checkpoint marker operation) := by
  unfold Coordinator.write
  rw [requireClient_helped, requireClient_helped, startCommit_helped, startCommit_helped]
  refine requireClient_blind.alike_after ?_
  rintro _ ⟨id, config, rfl⟩
  refine (RoundBlind.enter _).alike_after fun _ _ => startCommit_blind.alike_after fun time _ => ?_
  refine (RoundBlind.enter _).alike_after fun _ _ => RoundBlind.alike_after (Blind.ofLog _ _ _) fun _ _ => ?_
  have hdispatch : RoundBlind compactor (ρ := ρ) (Coordinator.dispatch (Site.client (Aided.writer id config))
      ((plan.coordinator Aided.tableStore).operationName operation) records time) fun _ => True := dispatch_blind _ _
  refine RoundBlind.alike_after hdispatch.attempt ?_
  rintro (failure | outcome) -
  · have hundo : RoundBlind compactor ((plan.coordinator Aided.tableStore).rollBack time failure) fun _ => True :=
      rollBack_blind failure
    refine RoundBlind.alike (V := fun _ => True) _ ?_
    exact (Blind.ofLog _ _ _).bind fun _ _ => hundo.bind fun _ _ => Blind.ofFail failure
  · dsimp only
    by_cases herrors : outcome.hasErrors = true
    · rw [if_pos herrors, if_pos herrors]
      by_cases hforced : plan.config.commitOnErrors = true
      · have hone : ((plan.helped one).coordinator Aided.tableStore).config.commitOnErrors = true := hforced
        have hother : ((plan.helped other).coordinator Aided.tableStore).config.commitOnErrors = true := hforced
        rw [if_pos hone, if_pos hother]
        exact RoundBlind.alike_after (Blind.ofLog _ _ _) fun _ _ => finish_alike outcome
      · have hone : ¬((plan.helped one).coordinator Aided.tableStore).config.commitOnErrors = true := hforced
        have hother : ¬((plan.helped other).coordinator Aided.tableStore).config.commitOnErrors = true := hforced
        rw [if_neg hone, if_neg hother]
        have hreject : RoundBlind compactor ((plan.coordinator Aided.tableStore).rejectOutcome time outcome)
            fun _ : CommitResult => True := rejectOutcome_blind outcome
        exact hreject.alike _
    · rw [if_neg herrors, if_neg herrors]
      exact finish_alike outcome

theorem committed_alike (plan : Plan ρ) (one other : Helpers ρ) (point : ResumePoint) (input : RoundInput)
    (commit commit' : CommitResult) :
    AlikeFrom (SameEnd (ρ := ρ) CommitResult.core commit commit') RoundResult.core
      (do Round.say .info ("Sync round committed " ++ commit.instantTime ++ " for " ++ plan.config.targetTable ++
            ": Records=" ++ toString commit.totalRecords ++ ", Errors=" ++ toString commit.totalErrorRecords ++
            ", Checkpoint=" ++ input.checkpoint)
          return ((plan.helped one).round Aided.tableStore).committedResult point input.checkpoint commit)
      (do Round.say .info ("Sync round committed " ++ commit'.instantTime ++ " for " ++ plan.config.targetTable ++
            ": Records=" ++ toString commit'.totalRecords ++ ", Errors=" ++ toString commit'.totalErrorRecords ++
            ", Checkpoint=" ++ input.checkpoint)
          return ((plan.helped other).round Aided.tableStore).committedResult point input.checkpoint commit') := by
  rintro w v ⟨hcore, hwv⟩
  rcases commit with ⟨time, total, errors, compaction, error⟩
  rcases commit' with ⟨time', total', errors', compaction', error'⟩
  cases hcore
  exact ((Level.log _ _ _ _).bind fun _ _ => Pairs.ofPure fun _ _ hlevel => ⟨rfl, hlevel⟩) w v hwv

theorem roundWrite_alike (point : ResumePoint) (input : RoundInput) : Alike compactor RoundResult.core
    (((plan.helped one).round Aided.tableStore).write point input)
    (((plan.helped other).round Aided.tableStore).write point input) := by
  unfold Round.write
  rw [prepareClient_helped, prepareClient_helped, withoutDuplicates_helped, withoutDuplicates_helped]
  refine (prepareClient_blind _).alike_after fun _ _ => (withoutDuplicates_blind _).alike_after fun records _ => ?_
  dsimp only
  by_cases hempty : records.isEmpty = true
  · rw [if_pos hempty, if_pos hempty]
    exact RoundBlind.alike_after (Blind.ofLog _ _ _) fun _ _ => (write_alike _).bind (committed_alike plan one other point input)
  · rw [if_neg hempty, if_neg hempty]
    exact (write_alike _).bind (committed_alike plan one other point input)

theorem sync_alike (point : ResumePoint) : Alike compactor RoundResult.core
    (((plan.helped one).round Aided.tableStore).sync point)
    (((plan.helped other).round Aided.tableStore).sync point) := by
  unfold Round.sync
  rw [read_helped, read_helped]
  refine (read_blind point).alike_after ?_
  rintro (_ | input) -
  · exact Pairs.ofPure fun _ _ hwv => ⟨rfl, Level.of_apart hwv⟩
  · exact roundWrite_alike point input

theorem recordOutcome_level {E : Failure → Failure → AidedWorld ρ → AidedWorld ρ → Prop} (plan plan' : Plan ρ)
    (handle : Option Nat) {entry entry' : RunRecorder (Site Aided ρ) → Nat → Effect (Site Aided ρ) Unit}
    (notice notice' : String)
    (h : ∀ recorder place, Neutral (Coordinator.outside (entry (Site.recorder recorder) place)))
    (h' : ∀ recorder place, Neutral (Coordinator.outside (entry' (Site.recorder recorder) place))) :
    Pairs Level ((plan.round Aided.tableStore).recordOutcome handle entry notice)
      ((plan'.round Aided.tableStore).recordOutcome handle entry' notice') (fun _ _ => Level) E :=
  Level.pairs (fun _ => recordOutcome_stage handle notice h) fun _ => recordOutcome_stage handle notice' h'

theorem failed_alike (handle : Option Nat) (resumedFrom : Option String) (failure : Failure) :
    AlikeFrom (Level (ρ := ρ)) RoundResult.core
      (((plan.helped one).round Aided.tableStore).failed handle resumedFrom failure)
      (((plan.helped other).round Aided.tableStore).failed handle resumedFrom failure) := by
  refine (Level.pairs (fun _ => tellFailure_stage failure) fun _ => tellFailure_stage failure).bind fun _ _ => ?_
  refine (recordOutcome_level _ _ handle _ _ (fun _ _ => Neutral.ofRest _) fun _ _ => Neutral.ofRest _).bind fun _ _ => ?_
  exact Pairs.ofFail fun _ _ hwv => ⟨rfl, hwv⟩

theorem succeeded_alike (handle : Option Nat) (result result' : RoundResult) :
    AlikeFrom (SameEnd (ρ := ρ) RoundResult.core result result') RoundResult.core
      (((plan.helped one).round Aided.tableStore).succeeded handle result)
      (((plan.helped other).round Aided.tableStore).succeeded handle result') := by
  rintro w v ⟨hcore, hwv⟩
  exact ((recordOutcome_level _ _ handle _ _ (fun _ _ => Neutral.ofRest _) fun _ _ => Neutral.ofRest _).bind fun _ _ =>
    Pairs.ofPure fun _ _ hlevel => ⟨hcore, hlevel⟩) w v hwv

theorem run_alike : Alike compactor RoundResult.core ((plan.helped one).round Aided.tableStore).run
    ((plan.helped other).round Aided.tableStore).run := by
  unfold Round.run
  rw [recordStart_helped, recordStart_helped, resumePoint_helped, resumePoint_helped]
  refine recordStart_blind.alike_after fun handle _ => RoundBlind.alike_after resumePoint_blind.attempt ?_
  rintro (failure | point) -
  · exact (failed_alike handle none failure).alike
  · refine (Pairs.attempt (sync_alike point)).bind ?_
    rintro (failure | result) (failure' | result') w v hend
    -- The write has ended alike in both runs, and nothing but the recorder comes after it.
    · obtain ⟨rfl, hwv⟩ := hend
      exact failed_alike handle point.value failure w v hwv
    · exact hend.elim
    · exact hend.elim
    · exact succeeded_alike handle result result' w v hend

end Twins

/-! ## 4. The round -/

/-- What was asked for on behalf of helpers in a run that ended with the outcome. A commit counts no records only if
there were none to write (`write_counts`). -/
structure Plan.Asked (plan : Plan ρ) (outcome : Except Failure RoundResult) (asked : List Aid) : Prop where
  catalog : Aid.catalog ∈ asked ↔ ∃ result, outcome = .ok result ∧ result.status = .committed ∧
    result.totalRecords ≠ 0 ∧ plan.config.enableCatalogSync = true ∧
    ∃ trigger, plan.catalog = some trigger ∧ trigger.enabled = true
  compaction : Aid.compaction ∈ asked ↔ ∃ result, outcome = .ok result ∧ result.status = .committed ∧
    plan.config.asyncCompaction = true
  once : asked.Nodup

section Asked

variable {plan : Plan ρ} {helpers : Helpers ρ} {outcome : Except Failure RoundResult}

theorem Plan.asked_attempts : plan.Asked outcome (plan.attempts outcome) := by
  rcases outcome with failure | result
  · exact ⟨by simp [attempts], by simp [attempts], List.nodup_nil⟩
  · by_cases hcommitted : result.status = .committed
    · have hasks : plan.attempts (.ok result) = plan.asks result.totalRecords :=
        if_pos (by simp [RoundResult.committed, hcommitted])
      rw [hasks]
      constructor
      · simp [asks, compactions, hcommitted, Option.any_eq_true]
      · simp [asks, compactions, hcommitted]
      · unfold asks compactions
        split <;> split <;> decide
    · have hnone : plan.attempts (.ok result) = [] := if_neg (by simp [RoundResult.committed, hcommitted])
      rw [hnone]
      exact ⟨by simp [hcommitted], by simp [hcommitted], List.nodup_nil⟩

theorem attempts_helped : (plan.helped helpers).attempts outcome = plan.attempts outcome := by
  rcases outcome with failure | result
  · rfl
  · cases hcatalog : plan.catalog <;> simp [Plan.attempts, Plan.asks, Plan.compactions, Plan.helped, hcatalog]

end Asked

section Runs

variable {w : AidedWorld ρ}

theorem Plan.runs_alike (plan : Plan ρ) (hw : HandedOut w.state.scene) (one other : Helpers ρ) :
    (plan.helpedRun one w).1.map RoundResult.core = (plan.helpedRun other w).1.map RoundResult.core ∧
      (plan.helpedRun one w).2.store.look = (plan.helpedRun other w).2.store.look := by
  have halike : Alike other.compactor RoundResult.core ((plan.helped one).round Aided.tableStore).run
      ((plan.helped other).round Aided.tableStore).run := run_alike
  rcases halike (w.helped one) (w.helped other) ⟨hw, rfl⟩ with ⟨a, b, w', v', hone, hother, hcore, seen, hw', hv'⟩ |
    ⟨failure, _, w', v', hone, hother, rfl, seen, hw', hv'⟩
  · have hone : plan.helpedRun one w = (.ok a, w') := hone
    have hother : plan.helpedRun other w = (.ok b, v') := hother
    rw [hone, hother]
    exact ⟨congrArg Except.ok hcore, hw'.2.trans hv'.2.symm⟩
  · have hone : plan.helpedRun one w = (.error failure, w') := hone
    have hother : plan.helpedRun other w = (.error failure, v') := hother
    rw [hone, hother]
    exact ⟨rfl, hw'.2.trans hv'.2.symm⟩

theorem Plan.run_attempts_helped (plan : Plan ρ) (helpers : Helpers ρ) (hw : HandedOut w.state.scene) :
    HandedOut (plan.helpedRun helpers w).2.state.scene ∧
      (plan.helpedRun helpers w).2.calls = w.calls ++ plan.attempts (plan.helpedRun helpers w).1 := by
  have hstart : Keeping (fun t => t.calls = w.calls) (w.helped helpers).state.scene := ⟨hw, rfl⟩
  rcases hrun : plan.helpedRun helpers w with ⟨outcome, w'⟩
  rcases run_attempts.of_run hstart hrun with ⟨result, rfl, hend⟩ | ⟨failure, rfl, hend⟩
  · rw [attempts_helped] at hend
    exact hend
  · exact ⟨hend.1, hend.2.trans (List.append_nil _).symm⟩

theorem Plan.run_asks (plan : Plan ρ) (hw : HandedOut w.state.scene) (helpers : Helpers ρ) :
    HandedOut (plan.helpedRun helpers w).2.state.scene ∧
      ∃ asked, (plan.helpedRun helpers w).2.calls = w.calls ++ asked ∧ plan.Asked (plan.helpedRun helpers w).1 asked := by
  obtain ⟨hhanded, hcalls⟩ := plan.run_attempts_helped helpers hw
  exact ⟨hhanded, _, hcalls, plan.asked_attempts⟩

end Runs

/-- **Helpers cannot change a round.** Whatever they do, the outcome is the same up to what they answered, and readers
see the same. They are asked exactly when the round committed and has something for them; a round without records
commits its checkpoint and does not tell the catalog. It returns a result if its client is poised and the columns take
the checkpoint, the marker of an override and the schema that it records. -/
theorem Plan.helpers_harmless (plan : Plan ρ) {w : AidedWorld ρ} (hw : HandedOut w.state.scene) :
    (∀ one other : Helpers ρ,
      (plan.helpedRun one w).1.map RoundResult.core = (plan.helpedRun other w).1.map RoundResult.core ∧
      (plan.helpedRun one w).2.store.look = (plan.helpedRun other w).2.store.look) ∧
    (∀ helpers : Helpers ρ, HandedOut (plan.helpedRun helpers w).2.state.scene ∧
      ∃ asked, (plan.helpedRun helpers w).2.calls = w.calls ++ asked ∧ plan.Asked (plan.helpedRun helpers w).1 asked) ∧
    ∀ (helpers : Helpers ρ) {point : ResumePoint} {input : RoundInput} {ready : AidedWorld ρ} {known : ClientRecord}
      {id : Warehouse.ClientId}, w.store.Lawful →
      ((plan.helped helpers).round Aided.tableStore).Reaches (w.helped helpers) point input ready →
      (((plan.round Aided.tableStore).withoutDuplicates input.records).runIn ready).1 = .ok [] →
      ready.state.client = some (Site.client (Aided.writer id known.config)) →
      ready.state.scene.inner.exposed.warehouse.clients[id]? = some known →
      (∀ result, (plan.helpedRun helpers w).1 = .ok result →
        EmptyCommit known input.checkpoint ready.store result (plan.helpedRun helpers w).2.store ∧
        (plan.helpedRun helpers w).2.calls = w.calls ++ plan.compactions) ∧
      (Poised Aided.exposed Aided.writer ready.state.scene known →
        Store.isRecordable known.config ⟨[]⟩ (Coordinator.commitMetadata input.checkpoint point.resetMarker) = true →
        ∃ result, (plan.helpedRun helpers w).1 = .ok result) := by
  refine ⟨plan.runs_alike hw, plan.run_asks hw, ?_⟩
  intro helpers point input ready known id hlawful hreaches hleft hclient hknown
  have hstart : Keeping (fun t => t.store.Lawful) (w.helped helpers).state.scene := ⟨hw, hlawful⟩
  have hnothing : ((((plan.helped helpers).round Aided.tableStore).withoutDuplicates input.records).runIn ready).1 =
      .ok [] := hleft
  obtain ⟨hcommits, hreturns⟩ := hreaches.commits_nothing hstart hnothing hclient hknown
  constructor
  · intro result hresult
    have hempty := hcommits result (plan.helpedRun helpers w).2 (Prod.ext hresult rfl)
    obtain ⟨time, hresultCommits, -⟩ := hempty.shown
    refine ⟨hempty, ?_⟩
    have hasked := (plan.run_attempts_helped helpers hw).2
    have hquiet : plan.attempts (.ok result) = plan.compactions := by
      simp [Plan.attempts, Plan.asks, RoundResult.committed, hresultCommits.status, hresultCommits.totalRecords]
    rw [hasked, hresult, hquiet]
  · intro hpoised hrecordable
    obtain ⟨result, w', hrun⟩ := hreturns hpoised hrecordable
    exact ⟨result, congrArg Prod.fst hrun⟩

/-! ## 5. Helpers that fail -/

/-- Helpers that do nothing, on the store's own compactor. -/
def Helpers.quiet : Helpers ρ := ⟨fun _ _ => pure (), fun _ _ _ => pure (), fun _ => pure (), .own⟩

/-- Helpers all of which fail. -/
def Helpers.failing (failure : Failure) : Helpers ρ :=
  ⟨fun _ _ => Effect.fail failure, fun _ _ _ => Effect.fail failure, fun _ => Effect.fail failure, .always (.error failure)⟩

/-- The sample plan with a recorder, a catalog and compactions, on a source that gives the same records every time. -/
def aidedPlan (records : Option (List Record)) : Plan Unit where
  config := { samplePlan.config with tableType := .mergeOnRead, continuousMode := true, enableCatalogSync := true }
  source := .records fun _ _ => pure ⟨records, some "1", none⟩
  keyOf := samplePlan.keyOf
  recorder := some ⟨fun _ => pure 1, fun _ _ => pure (), fun _ _ _ => pure ()⟩
  catalog := some ⟨fun _ => pure (), "/t/events", true⟩

def busyPlan : Plan Unit := aidedPlan (some [[("id", .text "a"), ("ts", .int 1)]])

def quietPlan : Plan Unit := aidedPlan none

/-- A blank store, the first operations of which nothing breaks. -/
def aidedWorld : AidedWorld Unit :=
  let exposed : Exposed := { incidents := List.replicate 3 (.passes sampleWorld.now) }
  { now := sampleWorld.now, state := { outside := { inner := { exposed, compactor := .own }, rest := () } } }

theorem aidedWorld_handedOut : HandedOut aidedWorld.state.scene := nofun

def outage : Failure := .outside .os "connection lost" false

/-- Helpers all of which fail: the one record is committed as it is with helpers that do nothing, though the catalog was
asked in vain; and where there is nothing to write, the checkpoint is, and the catalog is not asked. -/
theorem failing_helpers_harmless :
    (∃ result, (busyPlan.helpedRun (.failing outage) aidedWorld).1 = .ok result ∧ result.status = .committed ∧
      result.totalRecords = 1 ∧ result.catalogSyncError.isSome = true ∧
      (busyPlan.helpedRun .quiet aidedWorld).1.map RoundResult.core = .ok result.core ∧
      (busyPlan.helpedRun .quiet aidedWorld).2.store.look = (busyPlan.helpedRun (.failing outage) aidedWorld).2.store.look ∧
      Aid.catalog ∈ (busyPlan.helpedRun (.failing outage) aidedWorld).2.calls) ∧
    ∃ result, (quietPlan.helpedRun (.failing outage) aidedWorld).1 = .ok result ∧
      result.status = .committed ∧ result.checkpoint = some "1" ∧ result.totalRecords = 0 ∧
      (quietPlan.helpedRun (.failing outage) aidedWorld).2.calls = [.compaction] := by
  have hlawful : aidedWorld.store.Lawful := Store.lawful_empty
  constructor
  · obtain ⟨halike, hasks, -⟩ := busyPlan.helpers_harmless aidedWorld_handedOut
    have hresult : (busyPlan.helpedRun (.failing outage) aidedWorld).1.toOption.any (fun result =>
        result.status = .committed ∧ result.totalRecords = 1 ∧ result.catalogSyncError.isSome = true) = true := by
      decide +kernel
    rcases hrun : (busyPlan.helpedRun (.failing outage) aidedWorld).1 with failure | result
    · rw [hrun] at hresult
      cases hresult
    · rw [hrun] at hresult
      obtain ⟨hstatus, htotal, herror⟩ := of_decide_eq_true hresult
      obtain ⟨hcore, hlook⟩ := halike .quiet (.failing outage)
      obtain ⟨-, asked, hcalls, hasked⟩ := hasks (.failing outage)
      rw [hrun] at hcore hasked
      have hcatalog : Aid.catalog ∈ asked :=
        hasked.catalog.mpr ⟨result, rfl, hstatus, by rw [htotal]; decide, rfl, _, rfl, rfl⟩
      refine ⟨result, rfl, hstatus, htotal, herror, hcore, hlook, ?_⟩
      rw [hcalls]
      exact List.mem_append_right _ hcatalog
  · obtain ⟨-, -, hempty⟩ := quietPlan.helpers_harmless aidedWorld_handedOut
    have hready : ∃ point input ready known,
        ((quietPlan.helped (.failing outage)).round Aided.tableStore).Reaches (aidedWorld.helped (.failing outage))
          point input ready ∧ input.checkpoint = "1" ∧
        (((quietPlan.round Aided.tableStore).withoutDuplicates input.records).runIn ready).1 = .ok [] ∧
        Poised Aided.exposed Aided.writer ready.state.scene known ∧
        Store.isRecordable known.config ⟨[]⟩ (Coordinator.commitMetadata input.checkpoint point.resetMarker) = true := by
      refine ⟨_, _, _, { config := _ }, ⟨_, _, _, _, rfl, rfl, rfl, rfl⟩, rfl, rfl,
        ⟨⟨0, rfl, rfl⟩, rfl, ?_, _, _, rfl, rfl, ?_⟩, rfl⟩
      · intro failure hfails
        exact nomatch List.mem_singleton.mp hfails
      · intro latest hlatest
        cases hlatest
    obtain ⟨point, input, ready, known, hreaches, hcheckpoint, hnothing, hpoised, hrecordable⟩ := hready
    obtain ⟨id, hclient, hknown⟩ := hpoised.client
    obtain ⟨hcommits, hreturns⟩ := hempty _ hlawful hreaches hnothing hclient hknown
    obtain ⟨result, hresult⟩ := hreturns hpoised hrecordable
    obtain ⟨⟨⟨time, hcommit, -⟩, -⟩, hcalls⟩ := hcommits result hresult
    exact ⟨result, hresult, hcommit.status, hcheckpoint ▸ hcommit.checkpoint, hcommit.totalRecords, hcalls⟩

end TableSync
