/-
  TableSync/Proofs/Round/Protocol.lean
  ====================================
  **The commit protocol, step by step** — a proof outline for one write.

  Each function of the coordinator has one rule, which asks what the calls of
  the write client lead to: `finish_stage` for a commit and what follows it,
  `batch_stage` for the write of a batch.  The retries, the dispatch by
  operation and the decision between commit and rollback are gone through there
  once and for all.  A `WriteOutline` names what holds of the store at each point
  of a write of any batch (before the instant is started, when it is started,
  staged, not staged, committed) and says why every operation of the client
  leads from one point to the next; `write_stage` is the rule for it.
-/
import TableSync.Proofs.Round.Stage

namespace TableSync

variable {τ ρ α : Type}

/-! ## 1. A client that is held fast -/

/-- The scene is `base` up to the store, of which `P` holds. -/
def At (base : Scene τ ρ) (P : τ → Prop) (s : Scene τ ρ) : Prop := ∃ t, s = { base with inner := t } ∧ P t

variable {base : Scene τ ρ} {P F : τ → Prop} {Q : α → τ → Prop} {E : Scene τ ρ → Prop}

theorem At.mono {P' : τ → Prop} (h : ∀ t, P t → P' t) {s : Scene τ ρ} (hs : At base P s) : At base P' s := by
  obtain ⟨t, rfl, ht⟩ := hs
  exact ⟨t, rfl, h t ht⟩

theorem Stage.ofStore {step : Effect τ α} (h : Effect.Leads P step Q fun _ => F) :
    Stage (At base P) (Coordinator.outside (Site.inInner step)) (fun a => At base (Q a)) (At base F) := by
  refine Stage.ofInner ?_
  rintro _ ⟨t, rfl, ht⟩
  exact h.weaken (fun _ hs => hs ▸ ht) (fun _ u hu => ⟨u, rfl, hu⟩) fun _ u hu => ⟨u, rfl, hu⟩

/-! ## 2. Outlines -/

/-- What holds of the store at each point of a write with a client, an operation and the metadata of the
commit, and why. -/
structure WriteOutline (inner : TableStore τ) (client : WriteClient τ) (operation : WriteOperation)
    (extra : Fields String) where
  ready : τ → Prop
  started : String → τ → Prop
  staged : String → WriteOutcome → τ → Prop
  unstaged : String → τ → Prop
  committed : String → WriteOutcome → τ → Prop
  ended : String → WriteOutcome → τ → Prop
  failed : τ → Prop
  ready_failed : ∀ t, ready t → failed t
  start : Effect.Leads ready client.startCommit started fun _ => ready
  write : ∀ time records,
    Effect.Leads (started time) (client.write operation records time) (staged time) fun _ => unstaged time
  undo : ∀ time, Effect.Leads (unstaged time) (client.rollback time) (fun _ => failed) fun _ => failed
  refuse : ∀ time outcome, outcome.hasErrors = true →
    Effect.Leads (staged time outcome) (client.rollback time) (fun _ => failed) fun _ => failed
  commit : ∀ time outcome, Effect.Leads (staged time outcome) (client.commit time outcome extra)
    (fun done t => if done then committed time outcome t else failed t) fun _ => failed
  compact : ∀ time outcome, Effect.Leads (committed time outcome) client.scheduleCompaction
    (fun _ => ended time outcome) fun _ => ended time outcome
  committed_ended : ∀ time outcome t, committed time outcome t → ended time outcome t
  describe : ∀ time outcome basePath, Effect.Leads (ended time outcome) (inner.describeTable basePath)
    (fun _ => ended time outcome) fun _ => ended time outcome

/-! ## 3. The parts of a write -/

theorem named_name (operation : WriteOperation) :
    Fields.get? WriteOperation.named operation.name = some operation := by
  cases operation <;> decide

theorem operationName_name (coordinator : Coordinator (Site τ ρ)) (operation : WriteOperation) :
    coordinator.operationName (some operation.name) = operation.name := by
  cases operation <;> rfl

/-- What a publication keeps: an assertion on the store, and the reads. -/
def Publishes (P : τ → Prop) (reads : List SourceRead) (site : Site τ ρ) : Prop :=
  P site.inner ∧ site.reads = reads

/-- Publishing reads the description of the table, and does nothing if it is switched off. -/
theorem sync_leads (inner : TableStore τ) (catalog : CatalogPlan ρ) (reads : List SourceRead)
    {R : Failure → Site τ ρ → Prop}
    (hon : catalog.enabled = true → ∀ basePath, Effect.Leads P (inner.describeTable basePath) (fun _ => F) fun _ => F)
    (hoff : catalog.enabled = false → ∀ t, P t → F t) :
    Effect.Leads (Publishes P reads) (Plan.trigger inner catalog).sync (fun _ => Publishes F reads) R := by
  have htool : ∀ description, Effect.Leads (Publishes F reads) ((Plan.trigger inner catalog).tool description)
      (fun _ => Publishes F reads) (fun _ => Publishes F reads) := by
    intro description
    show Effect.Leads _ (Site.inRest (catalog.tool description)) _ _
    refine Effect.Leads.within (Q := fun _ => Publishes F reads) (E := fun _ => Publishes F reads)
      fun site hs w _ => ?_
    rcases hrun : (catalog.tool description).runIn w with ⟨failure | _, w'⟩
    · exact .inr ⟨failure, w', rfl, hs⟩
    · exact .inl ⟨(), w', rfl, hs⟩
  unfold CatalogTrigger.sync
  split
  next henabled =>
    have hdescribe : Effect.Leads (Publishes P reads) ((Plan.trigger inner catalog).describe catalog.basePath)
        (fun _ => Publishes F reads) (fun _ => Publishes F reads) := by
      show Effect.Leads _ (Site.inInner (inner.describeTable catalog.basePath)) _ _
      refine Effect.Leads.within (Q := fun _ => Publishes F reads) (E := fun _ => Publishes F reads) fun site hs => ?_
      exact (hon henabled _).weaken (fun _ ht => ht ▸ hs.1) (fun _ _ ht => ⟨ht, hs.2⟩) fun _ _ ht => ⟨ht, hs.2⟩
    refine (Effect.Leads.attempt (hdescribe.bind fun description =>
      (Effect.leads_log _ _ _).bind fun _ => htool description)).bind ?_
    rintro (failure | _)
    · exact Effect.leads_now.bind fun now => (Effect.leads_logWith _ _ _ _).bind fun _ =>
        Effect.leads_pure fun _ hs => hs
    · exact Effect.leads_pure fun _ hs => hs
  next hdisabled => exact Effect.leads_pure fun _ hs => ⟨hoff (by simpa [Plan.trigger] using hdisabled) _ hs.1, hs.2⟩

/-- After a commit of the records the plan publishes the table. -/
def Plan.SyncsCatalog (plan : Plan ρ) (records : List PreparedRecord) : Prop :=
  records ≠ [] ∧ plan.config.enableCatalogSync = true ∧ ∃ catalog, plan.catalog = some catalog ∧ catalog.enabled = true

/-- A report tells what was committed. -/
structure CommitResult.Reports (result : CommitResult) (time : String) (outcome : WriteOutcome) : Prop where
  instantTime : result.instantTime = time
  totalRecords : result.totalRecords = outcome.totalRecords
  totalErrorRecords : result.totalErrorRecords = outcome.totalErrorRecords

section Write

variable {plan : Plan ρ} {inner : TableStore τ} {client : WriteClient τ}

theorem requireClient_stage (hbase : base.client = some (Site.client client)) :
    Stage (At base P) (plan.coordinator inner).requireClient
      (fun found s => found = Site.client client ∧ At base P s) E := by
  refine Stage.ofState fun state hs => ?_
  have hclient : state.client = some (Site.client client) := by
    obtain ⟨t, ht, _⟩ := hs
    have hscene : state.scene.client = base.client := by rw [ht]
    exact hscene.trans hbase
  rw [hclient]
  exact Stage.ofPure fun _ h => ⟨rfl, h ▸ hs⟩

theorem rollBack_stage (hbase : base.client = some (Site.client client)) {time : String} {failure : Failure}
    (h : Effect.Leads P (client.rollback time) (fun _ => F) fun _ => F) :
    Stage (At base P) ((plan.coordinator inner).rollBack time failure) (fun _ => At base F) (At base F) := by
  refine (requireClient_stage hbase).bind fun found => Stage.of_fact fun hfound => ?_
  subst hfound
  refine (Stage.ofStore h).attempt.bind ?_
  rintro (cause | done)
  · exact Stage.ofReport (fun _ hs => hs) _ _ _ _
  · cases done with
    | false => exact Stage.ofReport (fun _ hs => hs) _ _ _ _
    | true =>
      exact (Stage.ofModify (B := At base F) fun _ hs => by exact hs).bind fun _ => Stage.ofLog _ _ _

theorem logErrors_stage {A : Scene τ ρ → Prop} (outcome : WriteOutcome) :
    Stage A ((plan.coordinator inner).logErrors outcome) (fun _ => A) E := by
  refine (Stage.ofLog _ _ _).bind fun _ => Effect.Leads.bind ?_ fun _ => Effect.leads_pure fun _ hs => hs
  exact Effect.leads_forIn _ _ fun _ => Stage.ofLog _ _ _

theorem startCommit_stage (hbase : base.client = some (Site.client client)) {started : String → τ → Prop}
    {unstarted : τ → Prop} (h : Effect.Leads P client.startCommit started fun _ => unstarted)
    (hagain : ∀ t, unstarted t → P t) :
    Stage (At base P) (plan.coordinator inner).startCommit (fun time => At base (started time)) (At base unstarted) := by
  refine (requireClient_stage hbase).bind fun found => Stage.of_fact fun hfound => ?_
  subst hfound
  exact RetryPolicy.leads_run _ _ (Stage.ofStore h) fun _ _ => At.mono hagain

/-- A request for compaction that fails is dropped. -/
theorem request_stage {A B : Scene τ ρ → Prop}
    (h : Stage A (do let client ← (plan.coordinator inner).requireClient
                     Coordinator.outside client.scheduleCompaction) (fun _ => B) B) :
    Stage A (plan.coordinator inner).requestCompaction (fun _ => B) E := by
  refine h.attempt.bind ?_
  rintro (failure | _ | instantTime)
  · exact (Stage.ofLog _ _ _).bind fun _ => Stage.ofPure fun _ hs => hs
  · exact Stage.ofPure fun _ hs => hs
  · exact (Stage.ofLog _ _ _).bind fun _ => Stage.ofPure fun _ hs => hs

theorem requestCompaction_stage (hbase : base.client = some (Site.client client))
    (h : Effect.Leads P client.scheduleCompaction (fun _ => F) fun _ => F) :
    Stage (At base P) (plan.coordinator inner).requestCompaction (fun _ => At base F) E := by
  refine request_stage ((requireClient_stage hbase).bind fun found => Stage.of_fact fun hfound => ?_)
  subst hfound
  exact Stage.ofStore h

theorem publish_stage {records : List PreparedRecord}
    (h : plan.SyncsCatalog records →
      ∀ basePath, Effect.Leads P (inner.describeTable basePath) (fun _ => F) fun _ => F)
    (hquiet : ¬plan.SyncsCatalog records → ∀ t, P t → F t) :
    Stage (At base P) ((plan.coordinator inner).publish records) (fun _ => At base F) E := by
  unfold Coordinator.publish
  split
  next trigger htrigger =>
    simp only [Plan.coordinator] at htrigger
    split at htrigger
    next hsyncs =>
      obtain ⟨catalog, hcatalog, rfl⟩ := Option.map_eq_some_iff.mp htrigger
      split
      next hempty => exact Stage.ofPure fun _ => At.mono (hquiet fun hsyncs => hsyncs.1 (by simpa using hempty))
      next hsome =>
        have hon : catalog.enabled = true →
            ∀ basePath, Effect.Leads P (inner.describeTable basePath) (fun _ => F) fun _ => F :=
          fun henabled => h ⟨by simpa using hsome, hsyncs, catalog, hcatalog, henabled⟩
        have hoff : catalog.enabled = false → ∀ t, P t → F t := by
          refine fun hoff => hquiet ?_
          rintro ⟨-, -, other, hother, hon⟩
          rw [hcatalog] at hother
          cases hother
          rw [hoff] at hon
          cases hon
        refine Effect.Leads.within ?_
        rintro state ⟨t, hscene, ht⟩
        have hinner : t = state.outside.inner := (congrArg Scene.inner hscene).symm
        have hreads : state.outside.reads = base.reads := congrArg Scene.reads hscene
        have hstill : ∀ site : Site τ ρ, Publishes F base.reads site →
            At base F (CommitState.scene { state with outside := site }) := by
          rintro site ⟨hended, hsame⟩
          refine ⟨site.inner, ?_, hended⟩
          calc CommitState.scene { state with outside := site }
            _ = { state.scene with inner := site.inner, reads := site.reads } := rfl
            _ = { base with inner := site.inner } := by rw [hscene, hsame]
        have hsync := sync_leads inner catalog base.reads
          (R := fun _ site => E (CommitState.scene { state with outside := site })) hon hoff
        refine hsync.weaken ?_ (fun _ site => hstill site) fun _ _ hs => hs
        rintro _ rfl
        exact ⟨hinner ▸ ht, hreads⟩
    next => cases htrigger
  next hnone =>
    refine Stage.ofPure fun _ => At.mono (hquiet ?_)
    rintro ⟨-, henabled, catalog, hcatalog, -⟩
    simp [Plan.coordinator, henabled, hcatalog] at hnone

variable {operation : WriteOperation} {checkpoint : String} {resetMarker : Option String} {time : String}
variable {outcome : WriteOutcome} {records : List PreparedRecord}

/-- A commit and what follows it, from what the calls of the client and the description of the table lead to. -/
theorem finish_stage (hbase : base.client = some (Site.client client)) {staged committed compacted ended failed : τ → Prop}
    (hcommit : Effect.Leads staged (client.commit time outcome (Coordinator.commitMetadata checkpoint resetMarker))
      (fun done t => if done then committed t else failed t) fun _ => failed)
    (hcompact : plan.config.asyncCompaction = true →
      Effect.Leads committed client.scheduleCompaction (fun _ => compacted) fun _ => compacted)
    (hskip : plan.config.asyncCompaction = false → ∀ t, committed t → compacted t)
    (hdescribe : plan.SyncsCatalog records →
      ∀ basePath, Effect.Leads compacted (inner.describeTable basePath) (fun _ => ended) fun _ => ended)
    (hquiet : ¬plan.SyncsCatalog records → ∀ t, compacted t → ended t) :
    Stage (At base staged)
      ((plan.coordinator inner).finish (Site.client client) records checkpoint resetMarker time outcome)
      (fun result s => result.Reports time outcome ∧ At base ended s) (At base failed) := by
  refine (Stage.ofStore hcommit).bind fun done => ?_
  cases done with
  | false => exact (Stage.ofLog _ _ _).bind fun _ => Stage.ofReport (fun _ hs => hs) _ _ _ _
  | true =>
    refine (Stage.ofModify (B := At base committed) fun _ hs => by exact hs).bind fun _ => ?_
    refine (Stage.ofLog _ _ _).bind fun _ => ?_
    have hpublish : ∀ compaction, Stage (At base compacted)
        (do let error ← (plan.coordinator inner).publish records
            pure { instantTime := time, totalRecords := outcome.totalRecords,
                   totalErrorRecords := outcome.totalErrorRecords, scheduledCompaction := compaction,
                   catalogSyncError := error : CommitResult })
        (fun result s => result.Reports time outcome ∧ At base ended s) (At base failed) := fun compaction =>
      (publish_stage hdescribe hquiet).bind fun error => Stage.ofPure fun _ hs => ⟨⟨rfl, rfl, rfl⟩, hs⟩
    dsimp only
    split
    next hasync => exact (requestCompaction_stage hbase (hcompact hasync)).bind hpublish
    next hsync =>
      have hnone : plan.config.asyncCompaction = false := by simpa [Plan.coordinator] using hsync
      exact Stage.bind (Stage.ofPure fun _ => At.mono (hskip hnone)) hpublish

/-! ## 4. A write -/

/-- A write whose outcome is refused: it is rolled back, and the failure is the outcome. -/
theorem rejectOutcome_stage {B : α → Scene τ ρ → Prop} (hbase : base.client = some (Site.client client))
    (h : Effect.Leads P (client.rollback time) (fun _ => F) fun _ => F) :
    Stage (At base P) ((plan.coordinator inner).rejectOutcome time outcome) B (At base F) := by
  refine (Stage.ofLog _ _ _).bind fun _ => (logErrors_stage outcome).bind fun _ => ?_
  refine Stage.bind (Effect.leads_now) fun now => ?_
  refine (rollBack_stage hbase h).bind fun _ => ?_
  exact Stage.ofFail (fun _ hs => hs) _

/-- A write of a batch, from what the calls of the client lead to and what a commit does. -/
theorem batch_stage (hbase : base.client = some (Site.client client)) {ready unstarted failed : τ → Prop}
    {started unstaged : String → τ → Prop} {staged : String → WriteOutcome → τ → Prop}
    {B : CommitResult → Scene τ ρ → Prop}
    (hstart : Effect.Leads ready client.startCommit started fun _ => unstarted)
    (hagain : ∀ t, unstarted t → ready t ∧ failed t)
    (hwrite : ∀ time,
      Effect.Leads (started time) (client.write operation records time) (staged time) fun _ => unstaged time)
    (hundo : ∀ time, Effect.Leads (unstaged time) (client.rollback time) (fun _ => failed) fun _ => failed)
    (hrefuse : ∀ time outcome, outcome.hasErrors = true →
      Effect.Leads (staged time outcome) (client.rollback time) (fun _ => failed) fun _ => failed)
    (hfinish : ∀ time outcome, Stage (At base (staged time outcome))
      ((plan.coordinator inner).finish (Site.client client) records checkpoint resetMarker time outcome) B
      (At base failed)) :
    Stage (At base ready) ((plan.coordinator inner).write records checkpoint resetMarker (some operation.name)) B
      (At base failed) := by
  refine (requireClient_stage hbase).bind fun found => Stage.of_fact fun hfound => ?_
  subst hfound
  refine (Stage.ofModify (B := At base ready) fun _ hs => by exact hs).bind fun _ => ?_
  refine ((startCommit_stage hbase hstart fun t ht => (hagain t ht).1).weaken (fun _ hs => hs) (fun _ _ hs => hs)
    fun _ => At.mono fun t ht => (hagain t ht).2).bind fun time => ?_
  refine (Stage.ofModify (B := At base (started time)) fun _ hs => by exact hs).bind fun _ => ?_
  refine (Stage.ofLog _ _ _).bind fun _ => ?_
  rw [operationName_name]
  have hdispatch : Coordinator.dispatch (Site.client client) operation.name records time =
      (Coordinator.outside ((Site.client client).write operation records time) :
        RoundStep (Site τ ρ) WriteOutcome) := by
    unfold Coordinator.dispatch
    rw [named_name]
  rw [hdispatch]
  refine (Stage.ofStore (hwrite time)).attempt.bind ?_
  rintro (failure | outcome)
  · refine (Stage.ofLog _ _ _).bind fun _ => (rollBack_stage hbase (hundo time)).bind fun _ => ?_
    exact Stage.ofFail (fun _ hs => hs) _
  · dsimp only
    split
    next herrors =>
      split
      · exact (Stage.ofLog _ _ _).bind fun _ => hfinish time outcome
      · exact rejectOutcome_stage hbase (hrefuse time outcome herrors)
    next => exact hfinish time outcome

/-- A write leads from a store that is ready to one where the instant has ended, or fails. -/
theorem write_stage
    (outline : WriteOutline inner client operation (Coordinator.commitMetadata checkpoint resetMarker))
    (hbase : base.client = some (Site.client client)) (records : List PreparedRecord) :
    Stage (At base outline.ready)
      ((plan.coordinator inner).write records checkpoint resetMarker (some operation.name))
      (fun result s => ∃ outcome, result.Reports result.instantTime outcome ∧
        At base (outline.ended result.instantTime outcome) s)
      (At base outline.failed) := by
  refine batch_stage hbase outline.start (fun t ht => ⟨ht, outline.ready_failed t ht⟩)
    (fun time => outline.write time records) outline.undo outline.refuse fun time outcome => ?_
  refine (finish_stage hbase (outline.commit time outcome) (fun _ => outline.compact time outcome)
    (fun _ => outline.committed_ended time outcome) (fun _ => outline.describe time outcome) fun _ _ ht => ht).weaken
    (fun _ hs => hs) ?_ fun _ hs => hs
  rintro result s ⟨hreports, hs⟩
  obtain rfl := hreports.instantTime
  exact ⟨outcome, hreports, hs⟩

end Write

/-! ## 5. A round -/

section Whole

variable {plan : Plan ρ} {inner : TableStore τ} {A ready : Scene τ ρ → Prop} {B : RoundResult → Scene τ ρ → Prop}

theorem withoutDuplicates_stage (records : List PreparedRecord) (hready : ∀ s, ready s → E s) :
    Stage ready ((plan.round inner).withoutDuplicates records) (fun _ => ready) E := by
  unfold Round.withoutDuplicates
  split
  · exact Effect.Leads.weaken (Dedup.leads_run records) (fun _ hs => hs) (fun _ _ hs => hs.2) fun _ _ hs => hready _ hs
  · exact Stage.ofPure fun _ hs => hs

/-- What was read is written: the client is made ready, and the write does the rest. -/
theorem roundWrite_stage {left : List PreparedRecord → Scene τ ρ → Prop} (point : ResumePoint) (input : RoundInput)
    (hprepare : Stage A ((plan.round inner).prepareClient input.provider) (fun _ => ready) E)
    (hdedup : Stage ready ((plan.round inner).withoutDuplicates input.records) left E)
    (hcommit : ∀ records, Stage (left records)
      ((plan.coordinator inner).write records input.checkpoint point.resetMarker
        (some plan.config.effective.operation.name))
      (fun commit => B ((plan.round inner).committedResult point input.checkpoint commit)) E) :
    Stage A ((plan.round inner).write point input) B E := by
  refine hprepare.bind fun _ => hdedup.bind fun records => ?_
  have hlast : Stage (left records)
      (do let commit ← (plan.coordinator inner).write records input.checkpoint point.resetMarker
            (some plan.config.effective.operation.name)
          Round.say .info ("Sync round committed " ++ commit.instantTime ++ " for " ++ plan.config.targetTable ++
            ": Records=" ++ toString commit.totalRecords ++ ", Errors=" ++ toString commit.totalErrorRecords ++
            ", Checkpoint=" ++ input.checkpoint)
          return (plan.round inner).committedResult point input.checkpoint commit) B E :=
    (hcommit records).bind fun commit => (Stage.ofLog _ _ _).bind fun _ => Stage.ofPure fun _ hs => hs
  dsimp only
  split
  · exact (Stage.ofLog _ _ _).bind fun _ => hlast
  · exact hlast

theorem sync_stage {G : Option String → Delivery → Prop} {R : Option Delivery → Scene τ ρ → Prop}
    (point : ResumePoint) (hsource : plan.source.Gives G)
    (hread : ∀ s given, A s → (∀ delivery, given = some delivery → G point.value delivery) →
      R given { s with reads := s.reads ++ [⟨point.value, given⟩] })
    (hfail : ∀ given s, R given s → E s)
    (hnothing : ∀ delivery s, delivery.checkpoint = point.value → R (some delivery) s →
      B ((plan.round inner).nothingNew point) s)
    (hwrite : ∀ delivery input, InputFrom point delivery (some input) →
      Stage (R (some delivery)) ((plan.round inner).write point input) B E) :
    Stage A ((plan.round inner).sync point) B E := by
  have hreading : Stage A ((plan.round inner).read point)
      (fun input s => ∃ delivery, InputFrom point delivery input ∧ R (some delivery) s) E :=
    (read_stage plan inner hsource hread).weaken (fun _ hs => hs) (fun _ _ hs => hs)
      fun s ⟨given, hs⟩ => hfail given s hs
  refine hreading.bind fun input => ?_
  refine Stage.of_each ?_
  rintro s ⟨delivery, hinput, hs⟩
  cases input with
  | none =>
    refine Stage.ofPure ?_
    rintro _ rfl
    exact hnothing delivery _ hinput hs
  | some input => exact (hwrite delivery input hinput).weaken (fun _ ht => ht ▸ hs) (fun _ _ ht => ht) fun _ ht => ht

/-- The record of an outcome is kept outside the store, and a failure to keep it is dropped. -/
theorem recordOutcome_stage {A : Scene τ ρ → Prop} (handle : Option Nat)
    {entry : RunRecorder (Site τ ρ) → Nat → Effect (Site τ ρ) Unit} (notice : String)
    (hentry : ∀ recorder place, Neutral (Coordinator.outside (entry (Site.recorder recorder) place))) :
    Stage A ((plan.round inner).recordOutcome handle entry notice) (fun _ => A) E := by
  unfold Round.recordOutcome
  split
  next recorder place hrecorder =>
    obtain ⟨trail, _, rfl⟩ := Option.map_eq_some_iff.mp hrecorder
    refine (hentry trail place).attempt.bind ?_
    rintro (failure | _)
    · exact Stage.ofLog _ _ _
    · exact Stage.ofPure fun _ hs => hs
  next => exact Stage.ofPure fun _ hs => hs

theorem tellFailure_stage {A : Scene τ ρ → Prop} (failure : Failure) :
    Stage A ((plan.round inner).tellFailure failure) (fun _ => A) E := by
  unfold Round.tellFailure
  split
  · exact Effect.leads_logWith _ _ _ _
  · exact Stage.ofLog _ _ _

/-- What holds when a round fails, holds of the failure that it ends with. -/
theorem failed_ends {E : Failure → Scene τ ρ → Prop} (handle : Option Nat) (resumedFrom : Option String)
    (failure : Failure) {Q : RoundResult → CommitState (Site τ ρ) → Prop} :
    Effect.Leads (fun state => E failure state.scene) ((plan.round inner).failed handle resumedFrom failure) Q
      fun last state => E last state.scene := by
  have htell : Stage (E failure) ((plan.round inner).tellFailure failure) (fun _ => E failure) fun _ => False :=
    tellFailure_stage failure
  have hrecord : Stage (E failure) ((plan.round inner).recordOutcome handle
      (fun recorder handle => recorder.fail handle failure resumedFrom) "Failed to record sync round failure")
      (fun _ => E failure) fun _ => False := recordOutcome_stage handle _ fun _ _ => Neutral.ofRest _
  exact (Effect.Leads.sure htell).bind fun _ => (Effect.Leads.sure hrecord).bind fun _ =>
    Effect.leads_fail fun _ hs => hs

theorem failed_stage {A : Scene τ ρ → Prop} (handle : Option Nat) (resumedFrom : Option String) (failure : Failure) :
    Stage A ((plan.round inner).failed handle resumedFrom failure) B A :=
  failed_ends (E := fun _ => A) handle resumedFrom failure

/-- The record of a run is kept outside the store, and its start fails as the recorder does. -/
theorem recordStart_of_recorder (hstart : ∀ trail, plan.recorder = some trail →
      Stage A (Coordinator.outside (Site.inRest (trail.start plan.config.targetTable))) (fun _ => A) E) :
    Stage A (plan.round inner).recordStart (fun _ => A) E := by
  unfold Round.recordStart
  split
  next recorder hrecorder =>
    obtain ⟨trail, htrail, rfl⟩ := Option.map_eq_some_iff.mp hrecorder
    exact (hstart trail htrail).bind fun _ => Stage.ofPure fun _ hs => hs
  next => exact Stage.ofPure fun _ hs => hs

theorem recordStart_stage (hA : ∀ s, A s → E s) :
    Stage A (plan.round inner).recordStart (fun _ => A) E :=
  recordStart_of_recorder fun _ _ => (Neutral.ofRest _).stage hA

/-- A round resumes, and then reads and writes; its record changes nothing, and it ends with what stops it. -/
theorem run_ends {R : ResumePoint → Scene τ ρ → Prop} {E : Failure → Scene τ ρ → Prop}
    (hstart : Effect.Leads (fun state => A state.scene) (plan.round inner).recordStart (fun _ state => A state.scene)
      fun failure state => E failure state.scene)
    (hresume : Effect.Leads (fun state => A state.scene) (plan.round inner).resumePoint
      (fun point state => R point state.scene) fun failure state => E failure state.scene)
    (hsync : ∀ point, Effect.Leads (fun state => R point state.scene) ((plan.round inner).sync point)
      (fun result state => B result state.scene) fun failure state => E failure state.scene) :
    Effect.Leads (fun state => A state.scene) (plan.round inner).run (fun result state => B result state.scene)
      fun failure state => E failure state.scene := by
  refine hstart.bind fun handle => hresume.attempt.bind ?_
  rintro (failure | point)
  · exact failed_ends handle none failure
  · refine (hsync point).attempt.bind ?_
    rintro (failure | result)
    · exact failed_ends handle point.value failure
    · have hrecord : Stage (B result) ((plan.round inner).recordOutcome handle
          (fun recorder handle => recorder.complete handle result)
          ("Failed to record sync round " ++ Value.optionText result.instantTime)) (fun _ => B result) fun _ => False :=
        recordOutcome_stage handle _ fun _ _ => Neutral.ofRest _
      exact (Effect.Leads.sure hrecord).bind fun _ => Effect.leads_pure fun _ hs => hs

theorem run_stage {resumed : ResumePoint → Scene τ ρ → Prop} (hA : ∀ s, A s → E s)
    (hresume : Stage A (plan.round inner).resumePoint resumed E)
    (hsync : ∀ point, Stage (resumed point) ((plan.round inner).sync point) B E) :
    Stage A (plan.round inner).run B E :=
  run_ends (R := resumed) (E := fun _ => E) (recordStart_stage hA) hresume hsync

end Whole

end TableSync
