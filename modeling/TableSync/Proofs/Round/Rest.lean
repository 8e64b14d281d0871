/-
  TableSync/Proofs/Round/Rest.lean
  ================================
  **What a round leaves alone** — the rest of the world, as far as its parts do.

  The source, the transformer, the catalog client and the announcement of a
  write client act on the rest of the world, and nothing else in a round does
  until it is recorded.  If those parts keep an assertion about the rest of the
  world (`Plan.Spares`), so does each function of the round, whatever the store
  answers and however the function ends.
-/
import TableSync.Proofs.Round.Site

namespace TableSync

open Effect

variable {σ τ ρ α β : Type}

/-! ## 1. Steps that maintain an assertion -/

/-- The assertion still holds after the step, whether it fails or not. -/
def Effect.Maintains (I : σ → Prop) (step : Effect σ α) : Prop := Leads I step (fun _ => I) fun _ => I

namespace Effect.Maintains

variable {I : σ → Prop} {step : Effect σ α}

theorem ofPure (a : α) : Maintains I (pure a) := leads_pure fun _ hs => hs

theorem bind {f : α → Effect σ β} (first : Maintains I step) (second : ∀ a, Maintains I (f a)) :
    Maintains I (step >>= f) :=
  Leads.bind first second

theorem attempt (h : Maintains I step) : Maintains I step.attempt := by
  refine (Leads.attempt h).weaken (fun _ hs => hs) ?_ fun _ _ hs => hs
  rintro (failure | a) s hs
  · exact hs
  · exact hs

theorem now : Maintains I now := leads_now

theorem ofLog (level : LogLevel) (topic : Topic) (message : String) : Maintains I (log level topic message) :=
  leads_log _ _ _

theorem ofLogWith (level : LogLevel) (topic : Topic) (message : String) (facts : Value) :
    Maintains I (logWith level topic message facts) :=
  leads_logWith _ _ _ _

theorem ofFail (failure : Failure) : Maintains I (fail failure : Effect σ α) := leads_fail fun _ hs => hs

theorem ofReport (kind : FaultKind) (message : String) (context : Fields Value) (cause : Option Failure) :
    Maintains I (report kind message context cause : Effect σ α) :=
  leads_report (fun _ _ hs => hs) _ _ _ _

theorem ofExcept (outcome : Except Failure α) : Maintains I (ofExcept outcome) :=
  (leads_ofExcept outcome).weaken (fun _ hs => hs) (fun _ _ hs => hs.2) fun _ _ hs => hs.2

theorem ofState {f : σ → Effect σ β} (h : ∀ s, I s → Maintains I (f s)) : Maintains I (state >>= f) :=
  Leads.ofState fun s hs => (h s hs).weaken (fun _ ht => ht ▸ hs) (fun _ _ ht => ht) fun _ _ ht => ht

theorem ofUpdate {f : σ → σ} (h : ∀ s, I s → I (f s)) : Maintains I (do setState (f (← state))) :=
  fun w hw => .inl ⟨(), { w with state := f w.state }, rfl, h _ hw⟩

theorem ofRetry (policy : RetryPolicy) (description : String) (h : Maintains I step) :
    Maintains I (policy.run step description) :=
  policy.leads_run description h fun _ _ hs => hs

theorem ofDedup (records : List PreparedRecord) : Maintains I (Dedup.run records) :=
  (Dedup.leads_run records).weaken (fun _ hs => hs) (fun _ _ hs => hs.2) fun _ _ hs => hs

theorem within {J : ρ → Prop} {get : σ → ρ} {put : ρ → σ → σ} {step : Effect ρ α} (h : Maintains J step)
    (hget : ∀ s, I s → J (get s)) (hput : ∀ r s, I s → J r → I (put r s)) : Maintains I (within get put step) := by
  refine Leads.within fun s hs => ?_
  exact h.weaken (fun _ hr => hr ▸ hget s hs) (fun _ r hr => hput r s hs hr) fun _ r hr => hput r s hs hr

/-- A step on another part of the state may be any. -/
theorem within_other {get : σ → ρ} {put : ρ → σ → σ} (step : Effect ρ α) (hput : ∀ r s, I s → I (put r s)) :
    Maintains I (Effect.within get put step) :=
  within (J := fun _ => True) leads_trivial (fun _ _ => trivial) fun r s hs _ => hput r s hs

end Effect.Maintains

/-! ## 2. Parts that spare the rest of the world -/

def Source.Spares (K : ρ → Prop) : Source ρ → Prop
  | .rows fetch => ∀ asked limit, Maintains K (fetch asked limit)
  | .records fetch => ∀ asked limit, Maintains K (fetch asked limit)

/-- The parts of the plan, its recorder apart, maintain `K`. -/
structure Plan.Spares (plan : Plan ρ) (K : ρ → Prop) : Prop where
  source : plan.source.Spares K
  transformer : ∀ transformer, plan.transformer = some transformer →
    ∀ frame props, Maintains K (transformer frame props)
  catalog : ∀ catalog, plan.catalog = some catalog → ∀ description, Maintains K (catalog.tool description)
  announce : ∀ config, Maintains K (plan.announce config)

/-- `K` holds of the rest of the world, and a write client reaches the store only. -/
def CommitState.Spared (K : ρ → Prop) (state : CommitState (Site τ ρ)) : Prop :=
  K state.outside.rest ∧ ∀ client, state.client = some client → ∃ inner, client = Site.client inner

variable {K : ρ → Prop} {plan : Plan ρ} {inner : TableStore τ} {client : WriteClient τ}

/-- The step maintains what holds of the rest of the world. -/
abbrev Site.Spares (K : ρ → Prop) (step : Effect (Site τ ρ) α) : Prop := Maintains (fun site => K site.rest) step

abbrev RoundSpares (K : ρ → Prop) (step : RoundStep (Site τ ρ) α) : Prop := Maintains (CommitState.Spared K) step

namespace Site.Spares

theorem ofInner (step : Effect τ α) : Site.Spares K (Site.inInner step) :=
  Maintains.within_other step fun _ _ hs => hs

theorem ofRest {step : Effect ρ α} (h : Maintains K step) : Site.Spares (τ := τ) K (Site.inRest step) :=
  h.within (fun _ hs => hs) fun _ _ _ hr => hr

theorem watched {form : Batch α → Delivery} {fetch : Fetch ρ α} {asked : Option String} {limit : Int}
    (h : Maintains K (fetch asked limit)) : Site.Spares (τ := τ) K (Site.watched form fetch asked limit) := by
  have hnote : ∀ read, Site.Spares (τ := τ) K (Site.note read) := fun read => Maintains.ofUpdate fun _ hs => hs
  exact (ofRest h).attempt.bind fun outcome => (hnote _).bind fun _ => .ofExcept outcome

theorem fetchRows {source : Source ρ} (h : source.Spares K) (asked : Option String) (limit : Int) :
    Site.Spares (τ := τ) K ((Site.source source).fetchRows asked limit) := by
  cases source with
  | rows fetch => exact watched (h asked limit)
  | records fetch => exact (watched (h asked limit)).bind fun _ => .ofPure _

theorem fetchRecords {source : Source ρ} (h : source.Spares K) (asked : Option String) (limit : Int) :
    Site.Spares (τ := τ) K ((Site.source source).fetchRecords asked limit) := by
  cases source with
  | rows fetch => exact (watched (h asked limit)).bind fun _ => .ofExcept _
  | records fetch => exact (watched (h asked limit)).bind fun _ => .ofExcept _

theorem sync {catalog : CatalogPlan ρ} (h : ∀ description, Maintains K (catalog.tool description)) :
    Site.Spares K (Plan.trigger inner catalog).sync := by
  have hpublish : Site.Spares K (Plan.trigger inner catalog).publish :=
    (ofInner _).bind fun description => (Maintains.ofLog _ _ _).bind fun _ => ofRest (h description)
  unfold CatalogTrigger.sync
  split
  · refine hpublish.attempt.bind ?_
    rintro (failure | _)
    · exact Maintains.now.bind fun _ => (Maintains.ofLogWith _ _ _ _).bind fun _ => .ofPure _
    · exact .ofPure _
  · exact .ofPure _

end Site.Spares

namespace RoundSpares

theorem ofSite {step : Effect (Site τ ρ) α} (h : Site.Spares K step) : RoundSpares K (Coordinator.outside step) :=
  h.within (fun _ hs => hs.1) fun _ _ hs hr => ⟨hr, hs.2⟩

theorem ofInner (step : Effect τ α) : RoundSpares K (Coordinator.outside (Site.inInner step) : RoundStep (Site τ ρ) α) :=
  ofSite (.ofInner step)

theorem ofRest {step : Effect ρ α} (h : Maintains K step) :
    RoundSpares K (Coordinator.outside (Site.inRest step) : RoundStep (Site τ ρ) α) :=
  ofSite (.ofRest h)

theorem enter (phase : CommitPhase) : RoundSpares K (Coordinator.enter phase : RoundStep (Site τ ρ) Unit) :=
  Maintains.ofUpdate fun _ hs => hs

end RoundSpares

/-! ## 3. Resuming and reading -/

theorem resumePoint_spares : RoundSpares K (plan.round inner).resumePoint := by
  have hrefresh : RoundSpares K (plan.round inner).refreshTimeline := by
    refine (RoundSpares.ofInner (inner.metadataExists _)).bind fun found => ?_
    cases found with
    | true =>
      refine (RoundSpares.ofInner (inner.openMetadata _)).bind fun metadata => ?_
      dsimp only
      split
      · exact (Maintains.ofLog _ _ _).bind fun _ => .ofPure _
      · exact .ofPure _
    | false =>
      exact (Maintains.ofLog _ _ _).bind fun _ => (RoundSpares.ofInner (inner.initTable _)).bind fun _ => .ofPure _
  refine hrefresh.bind fun timeline => Maintains.now.bind fun now => (Maintains.ofExcept _).bind fun point => ?_
  exact (Maintains.ofLog _ _ _).bind fun _ => .ofPure _

theorem read_spares (hplan : plan.Spares K) (point : ResumePoint) : RoundSpares K ((plan.round inner).read point) := by
  have hwindow : RoundSpares K ((plan.round inner).readWindow point.value) := by
    unfold Round.readWindow
    split
    next transformer htransformer =>
      obtain ⟨own, hown, rfl⟩ := Option.map_eq_some_iff.mp htransformer
      refine (RoundSpares.ofSite (.fetchRows hplan.source _ _)).bind fun batch => ?_
      dsimp only
      split
      · exact .ofPure _
      · refine (RoundSpares.ofRest (hplan.transformer own hown _ _)).bind fun _ => ?_
        exact (Maintains.ofExcept _).bind fun _ => (Maintains.ofExcept _).bind fun _ => .ofPure _
    next => exact (RoundSpares.ofSite (.fetchRecords hplan.source _ _)).bind fun _ => .ofPure _
  refine hwindow.bind fun batch => ?_
  split
  · exact (Maintains.ofLog _ _ _).bind fun _ => .ofPure _
  · split
    · exact .ofReport _ _ _ _
    · exact Maintains.now.bind fun _ => (Maintains.ofExcept _).bind fun _ => .ofPure _

/-! ## 4. The write client -/

theorem ensureInitialized_spares (hplan : plan.Spares K) (provider : Option SchemaProvider) (allowMissing : Bool) :
    RoundSpares K ((plan.coordinator inner).ensureInitialized provider allowMissing) := by
  refine Maintains.ofState fun state _ => ?_
  split
  next => exact .ofReport _ _ _ _
  next =>
    split
    next => exact .ofPure _
    next =>
      split
      next => exact .ofPure _
      next =>
        refine (Maintains.ofLog _ _ _).bind fun _ => Maintains.now.bind fun _ => (Maintains.ofExcept _).bind fun config => ?_
        have hprovider : RoundSpares K (Coordinator.modify fun state : CommitState (Site τ ρ) => { state with provider }) :=
          Maintains.ofUpdate fun _ hs => hs
        -- A client of the store that is made here keeps the second half of `Spared`.
        have hcreate : Leads (CommitState.Spared K)
            (Coordinator.outside ((plan.coordinator inner).store.createWriteClient config))
            (fun client state => (∃ own, client = Site.client own) ∧ state.Spared K) fun _ => CommitState.Spared K := by
          refine Leads.within fun state hs => ?_
          refine Leads.bind (R := fun _ site => K site.rest) ?_ fun own => leads_pure fun _ hr => ⟨⟨own, rfl⟩, hr, hs.2⟩
          exact (Site.Spares.ofInner _).weaken (fun _ hsite => hsite ▸ hs.1) (fun _ _ hr => hr) fun _ _ hr => ⟨hr, hs.2⟩
        refine hprovider.bind fun _ => Leads.bind hcreate fun client => leads_of_fact ?_
        rintro ⟨own, rfl⟩
        have hclient : RoundSpares K
            (Coordinator.modify fun state : CommitState (Site τ ρ) => { state with client := some (Site.client own) }) := by
          refine Maintains.ofUpdate ?_
          rintro state ⟨hrest, -⟩
          refine ⟨hrest, ?_⟩
          rintro _ ⟨⟩
          exact ⟨own, rfl⟩
        exact hclient.bind fun _ => (RoundSpares.ofRest (hplan.announce _)).bind fun _ => .ofPure _

theorem prepareClient_spares (hplan : plan.Spares K) (provider : Option SchemaProvider) :
    RoundSpares K ((plan.round inner).prepareClient provider) := by
  have hmake : RoundSpares K (discard ((plan.coordinator inner).ensureInitialized provider true)) :=
    (ensureInitialized_spares hplan provider true).bind fun _ => .ofPure _
  refine Maintains.ofState fun state _ => ?_
  dsimp only
  split
  · split
    · exact (Maintains.ofLog _ _ _).bind fun _ => hmake
    · exact hmake
  · exact .ofPure _

theorem setUp_spares (hplan : plan.Spares K) : RoundSpares K (plan.setUp inner) := by
  unfold Plan.setUp
  split
  · exact (ensureInitialized_spares hplan _ false).bind fun _ => .ofPure _
  · exact .ofPure _

theorem close_spares : RoundSpares K (Round.close : RoundStep (Site τ ρ) Unit) := by
  have hlast : RoundSpares K (Coordinator.modify fun state : CommitState (Site τ ρ) => { state with closed := true }) :=
    Maintains.ofUpdate fun _ hs => hs
  refine Maintains.ofState fun state hstate => ?_
  dsimp only
  split
  next client hclient =>
    obtain ⟨own, rfl⟩ := hstate.2 client hclient
    have hrelease : RoundSpares K (Coordinator.modify fun state : CommitState (Site τ ρ) => { state with client := none }) :=
      Maintains.ofUpdate fun _ hs => ⟨hs.1, nofun⟩
    exact (Maintains.ofLog _ _ _).bind fun _ => hrelease.bind fun _ => (RoundSpares.ofInner own.close).bind fun _ => hlast
  next => exact hlast

theorem requireClient_spares : Leads (CommitState.Spared K) (plan.coordinator inner).requireClient
    (fun client state => (∃ own, client = Site.client own) ∧ state.Spared K) fun _ => CommitState.Spared K := by
  refine Leads.ofState fun state hstate => ?_
  split
  next client hclient =>
    refine leads_pure ?_
    rintro _ rfl
    exact ⟨hstate.2 client hclient, hstate⟩
  next => exact leads_report (fun _ _ hs => hs ▸ hstate) _ _ _ _

theorem RoundSpares.ofClient {f : WriteClient (Site τ ρ) → RoundStep (Site τ ρ) α}
    (h : ∀ own : WriteClient τ, RoundSpares K (f (Site.client own))) :
    RoundSpares K ((plan.coordinator inner).requireClient >>= f) := by
  refine Leads.bind requireClient_spares fun client => leads_of_fact ?_
  rintro ⟨own, rfl⟩
  exact h own

/-! ## 5. The commit protocol -/

section Write

variable {time : String} {records : List PreparedRecord}

theorem startCommit_spares : RoundSpares K (plan.coordinator inner).startCommit :=
  RoundSpares.ofClient fun own => Maintains.ofRetry _ _ (RoundSpares.ofInner own.startCommit)

theorem dispatch_spares (operation : String) :
    RoundSpares (ρ := ρ) K (Coordinator.dispatch (Site.client client) operation records time) := by
  unfold Coordinator.dispatch
  split
  · exact RoundSpares.ofInner (client.write _ records time)
  · exact .ofReport _ _ _ _

theorem rollBack_spares (failure : Failure) : RoundSpares K ((plan.coordinator inner).rollBack time failure) := by
  refine RoundSpares.ofClient fun own => (RoundSpares.ofInner (own.rollback time)).attempt.bind ?_
  rintro (cause | _ | _)
  · exact .ofReport _ _ _ _
  · exact .ofReport _ _ _ _
  · exact (RoundSpares.enter _).bind fun _ => .ofLog _ _ _

theorem rejectOutcome_spares (outcome : WriteOutcome) :
    RoundSpares K ((plan.coordinator inner).rejectOutcome time outcome : RoundStep (Site τ ρ) α) := by
  have hlines : RoundSpares K ((plan.coordinator inner).logErrors outcome) :=
    (Maintains.ofLog _ _ _).bind fun _ => Maintains.bind (leads_forIn _ _ fun _ => leads_log _ _ _) fun _ => .ofPure _
  refine (Maintains.ofLog _ _ _).bind fun _ => hlines.bind fun _ => Maintains.now.bind fun _ => ?_
  exact (rollBack_spares _).bind fun _ => .ofFail _

theorem requestCompaction_spares : RoundSpares K (plan.coordinator inner).requestCompaction := by
  have hrequest : RoundSpares K (do
      let client ← (plan.coordinator inner).requireClient
      Coordinator.outside client.scheduleCompaction) :=
    RoundSpares.ofClient fun own => RoundSpares.ofInner own.scheduleCompaction
  refine hrequest.attempt.bind ?_
  rintro (failure | _ | time)
  · exact (Maintains.ofLog _ _ _).bind fun _ => .ofPure _
  · exact .ofPure _
  · exact (Maintains.ofLog _ _ _).bind fun _ => .ofPure _

theorem publish_spares (hplan : plan.Spares K) : RoundSpares K ((plan.coordinator inner).publish records) := by
  unfold Coordinator.publish
  split
  next trigger htrigger =>
    simp only [Plan.coordinator] at htrigger
    split at htrigger
    · obtain ⟨catalog, hcatalog, rfl⟩ := Option.map_eq_some_iff.mp htrigger
      split
      · exact .ofPure _
      · exact RoundSpares.ofSite (.sync (hplan.catalog catalog hcatalog))
    · cases htrigger
  next => exact .ofPure _

theorem finish_spares (hplan : plan.Spares K) (checkpoint : String) (resetMarker : Option String)
    (outcome : WriteOutcome) : RoundSpares K
      ((plan.coordinator inner).finish (Site.client client) records checkpoint resetMarker time outcome) := by
  refine (RoundSpares.ofInner (client.commit time outcome _)).bind fun done => ?_
  cases done with
  | false => exact (Maintains.ofLog _ _ _).bind fun _ => .ofReport _ _ _ _
  | true =>
    refine (RoundSpares.enter _).bind fun _ => (Maintains.ofLog _ _ _).bind fun _ => ?_
    dsimp only
    split
    · exact requestCompaction_spares.bind fun _ => (publish_spares hplan).bind fun _ => .ofPure _
    · exact (Maintains.ofPure _).bind fun _ => (publish_spares hplan).bind fun _ => .ofPure _

theorem write_spares (hplan : plan.Spares K) (checkpoint : String) (resetMarker operation : Option String) :
    RoundSpares K ((plan.coordinator inner).write records checkpoint resetMarker operation) := by
  refine RoundSpares.ofClient fun own => (RoundSpares.enter _).bind fun _ => startCommit_spares.bind fun time => ?_
  refine (RoundSpares.enter _).bind fun _ => (Maintains.ofLog _ _ _).bind fun _ => (dispatch_spares _).attempt.bind ?_
  rintro (failure | outcome)
  · exact (Maintains.ofLog _ _ _).bind fun _ => (rollBack_spares failure).bind fun _ => .ofFail _
  · dsimp only
    split
    · split
      · exact (Maintains.ofLog _ _ _).bind fun _ => finish_spares hplan _ _ _
      · exact rejectOutcome_spares _
    · exact finish_spares hplan _ _ _

end Write

/-! ## 6. A round without its record -/

theorem sync_spares (hplan : plan.Spares K) (point : ResumePoint) : RoundSpares K ((plan.round inner).sync point) := by
  have hwrite : ∀ input, RoundSpares K ((plan.round inner).write point input) := by
    intro input
    have hdedup : RoundSpares K ((plan.round inner).withoutDuplicates input.records) := by
      unfold Round.withoutDuplicates
      split
      · exact .ofDedup _
      · exact .ofPure _
    have hcommit : ∀ records, RoundSpares K (do
        let commit ← (plan.coordinator inner).write records input.checkpoint point.resetMarker
          (some plan.config.effective.operation.name)
        Round.say .info ("Sync round committed " ++ commit.instantTime ++ " for " ++ plan.config.targetTable ++
          ": Records=" ++ toString commit.totalRecords ++ ", Errors=" ++ toString commit.totalErrorRecords ++
          ", Checkpoint=" ++ input.checkpoint)
        return (plan.round inner).committedResult point input.checkpoint commit) := fun records =>
      (write_spares hplan _ _ _).bind fun _ => (Maintains.ofLog _ _ _).bind fun _ => .ofPure _
    refine (prepareClient_spares hplan _).bind fun _ => hdedup.bind fun records => ?_
    dsimp only
    split
    · exact (Maintains.ofLog _ _ _).bind fun _ => hcommit records
    · exact hcommit records
  refine (read_spares hplan point).bind ?_
  rintro (_ | input)
  · exact .ofPure _
  · exact hwrite input

end TableSync
