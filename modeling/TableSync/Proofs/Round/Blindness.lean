/-
  TableSync/Proofs/Round/Blindness.lean
  =====================================
  **A round does not see its compactor** — up to the commit.

  How requests for compaction turn out is a part of an aided store.  Every step
  of a round that is not such a request, and does not follow one, answers and
  does the same whatever that part is: each function of the round has one lemma
  that says so, which follows its definition.
-/
import TableSync.Proofs.Pairs
import TableSync.Proofs.Round.Aided

namespace TableSync

open Effect

variable {ρ α : Type} {compactor : Compactor}

/-! ## 1. Another compactor -/

/-- Requests for compaction turn out as another compactor says. -/
def Aided.equip (compactor : Compactor) (aided : Aided) : Aided := { aided with compactor }

def Site.equip (compactor : Compactor) (site : Site Aided ρ) : Site Aided ρ :=
  { site with inner := site.inner.equip compactor }

def CommitState.equip (compactor : Compactor) (state : CommitState (Site Aided ρ)) : CommitState (Site Aided ρ) :=
  { state with outside := state.outside.equip compactor }

/-- A step on a site answers and does the same with another compactor. -/
abbrev SiteBlind (compactor : Compactor) (step : Effect (Site Aided ρ) α) : Prop :=
  Blind (Site.equip compactor) (fun _ => True) step fun _ => True

/-- So does a step of a round, as long as the write client is one that was handed out. -/
abbrev RoundBlind (compactor : Compactor) (step : RoundStep (Site Aided ρ) α) (V : α → Prop) : Prop :=
  Blind (CommitState.equip compactor) (fun state => HandedOut state.scene) step V

namespace SiteBlind

theorem ofRest (step : Effect ρ α) : SiteBlind compactor (Site.inRest step) :=
  Blind.within_other step (fun _ => rfl) (fun _ _ => rfl) fun _ _ _ => trivial

theorem ofExposed (step : Effect Exposed α) : SiteBlind compactor (ρ := ρ) (Site.inInner (Aided.inExposed step)) := by
  have haided : Blind (Aided.equip compactor) (fun _ => True) (Aided.inExposed step) fun _ => True :=
    Blind.within_other step (fun _ => rfl) (fun _ _ => rfl) fun _ _ _ => trivial
  exact haided.within (fun _ => rfl) (fun _ _ => rfl) (fun _ _ => trivial) fun _ _ _ _ => trivial

theorem watched {γ : Type} (form : Batch γ → Delivery) (fetch : Fetch ρ γ) (asked : Option String) (limit : Int) :
    SiteBlind compactor (Site.watched form fetch asked limit) := by
  refine (ofRest (fetch asked limit)).attempt.bind fun outcome _ => ?_
  have hnote : SiteBlind compactor (ρ := ρ) (Site.note ⟨asked, outcome.toOption.map form⟩) :=
    Blind.ofUpdate (fun _ => rfl) fun _ _ => trivial
  exact hnote.bind fun _ _ => (Blind.ofExcept _).mono fun _ _ => trivial

theorem fetchRows (source : Source ρ) (asked : Option String) (limit : Int) :
    SiteBlind compactor ((Site.source source).fetchRows asked limit) := by
  cases source with
  | rows fetch => exact watched .rows fetch asked limit
  | records fetch => exact (watched .records fetch asked limit).bind fun _ _ => Blind.ofPure trivial

theorem fetchRecords (source : Source ρ) (asked : Option String) (limit : Int) :
    SiteBlind compactor ((Site.source source).fetchRecords asked limit) := by
  cases source with
  | rows fetch =>
    exact (watched .rows fetch asked limit).bind fun _ _ => (Blind.ofExcept _).mono fun _ _ => trivial
  | records fetch =>
    exact (watched .records fetch asked limit).bind fun _ _ => (Blind.ofExcept _).mono fun _ _ => trivial

end SiteBlind

namespace RoundBlind

theorem ofSite {step : Effect (Site Aided ρ) α} (h : SiteBlind compactor step) :
    RoundBlind compactor (Coordinator.outside step) fun _ => True :=
  Blind.within h (fun _ => rfl) (fun _ _ => rfl) (fun _ _ => trivial) fun _ _ hs _ => hs

theorem ofExposed (step : Effect Exposed α) :
    RoundBlind compactor (ρ := ρ) (Coordinator.outside (Site.inInner (Aided.inExposed step))) fun _ => True :=
  ofSite (SiteBlind.ofExposed step)

theorem ofRest (step : Effect ρ α) : RoundBlind compactor (Coordinator.outside (Site.inRest step)) fun _ => True :=
  ofSite (SiteBlind.ofRest step)

theorem enter (phase : CommitPhase) : RoundBlind compactor (ρ := ρ) (Coordinator.enter phase) fun _ => True :=
  Blind.ofUpdate (fun _ => rfl) fun _ hs => hs

end RoundBlind

/-! ## 2. Resuming and reading -/

section Round

variable {plan : Plan ρ}

theorem recordStart_blind : RoundBlind compactor (plan.round Aided.tableStore).recordStart fun _ => True := by
  unfold Round.recordStart
  split
  next recorder hrecorder =>
    obtain ⟨trail, _, rfl⟩ := Option.map_eq_some_iff.mp hrecorder
    exact (RoundBlind.ofRest _).bind fun _ _ => Blind.ofPure trivial
  next => exact Blind.ofPure trivial

theorem resumePoint_blind : RoundBlind compactor (plan.round Aided.tableStore).resumePoint fun _ => True := by
  have hrefresh : RoundBlind compactor (plan.round Aided.tableStore).refreshTimeline fun _ => True := by
    refine (RoundBlind.ofExposed (Exposed.tableStore.metadataExists _)).bind fun found _ => ?_
    cases found with
    | true =>
      refine (RoundBlind.ofExposed (Exposed.tableStore.openMetadata _)).bind fun metadata _ => ?_
      dsimp only
      split
      · exact (Blind.ofLog _ _ _).bind fun _ _ => Blind.ofPure trivial
      · exact Blind.ofPure trivial
    | false =>
      refine (Blind.ofLog _ _ _).bind fun _ _ => ?_
      exact (RoundBlind.ofExposed (Exposed.tableStore.initTable _)).bind fun _ _ => Blind.ofPure trivial
  refine hrefresh.bind fun timeline _ => Blind.now.bind fun now _ => (Blind.ofExcept _).bind fun point _ => ?_
  exact (Blind.ofLog _ _ _).bind fun _ _ => Blind.ofPure trivial

theorem read_blind (point : ResumePoint) :
    RoundBlind compactor ((plan.round Aided.tableStore).read point) fun _ => True := by
  have hwindow : RoundBlind compactor ((plan.round Aided.tableStore).readWindow point.value) fun _ => True := by
    unfold Round.readWindow
    split
    next transformer htransformer =>
      obtain ⟨inner, _, rfl⟩ := Option.map_eq_some_iff.mp htransformer
      refine (RoundBlind.ofSite (SiteBlind.fetchRows _ _ _)).bind fun batch _ => ?_
      dsimp only
      split
      · exact Blind.ofPure trivial
      · refine (RoundBlind.ofRest _).bind fun _ _ => (Blind.ofExcept _).bind fun _ _ => (Blind.ofExcept _).bind fun _ _ => ?_
        exact Blind.ofPure trivial
    next => exact (RoundBlind.ofSite (SiteBlind.fetchRecords _ _ _)).bind fun _ _ => Blind.ofPure trivial
  refine hwindow.bind fun batch _ => ?_
  split
  · exact (Blind.ofLog _ _ _).bind fun _ _ => Blind.ofPure trivial
  · split
    · exact Blind.ofReport _ _ _ _
    · exact Blind.now.bind fun _ _ => (Blind.ofExcept _).bind fun _ _ => Blind.ofPure trivial

/-! ## 3. The write client -/

theorem createClient_blind (config : WriteConfig) : RoundBlind compactor (ρ := ρ)
    (Coordinator.outside ((Site.store Aided.tableStore).createWriteClient config))
    fun client => ∃ id, client = Site.client (Aided.writer id config) := by
  have haided : Blind (Aided.equip compactor) (fun _ => True) (Aided.tableStore.createWriteClient config)
      fun client => ∃ id, client = Aided.writer id config := by
    have hnew : Blind (Aided.equip compactor) (fun _ => True)
        (Aided.inExposed (Exposed.inWarehouse (Warehouse.newClient config))) fun _ => True :=
      Blind.within_other _ (fun _ => rfl) (fun _ _ => rfl) fun _ _ _ => trivial
    exact hnew.bind fun id _ => Blind.ofPure ⟨id, rfl⟩
  have hinner : Blind (Site.equip compactor (ρ := ρ)) (fun _ => True)
      (Site.inInner (Aided.tableStore.createWriteClient config)) fun client => ∃ id, client = Aided.writer id config :=
    haided.within (fun _ => rfl) (fun _ _ => rfl) (fun _ _ => trivial) fun _ _ _ _ => trivial
  have hsite : Blind (Site.equip compactor (ρ := ρ)) (fun _ => True)
      ((Site.store Aided.tableStore).createWriteClient config)
      fun client => ∃ id, client = Site.client (Aided.writer id config) := by
    refine hinner.bind ?_
    rintro _ ⟨id, rfl⟩
    exact Blind.ofPure ⟨id, rfl⟩
  exact Blind.within hsite (fun _ => rfl) (fun _ _ => rfl) (fun _ _ => trivial) fun _ _ hs _ => hs

theorem prepareClient_blind (provider : Option SchemaProvider) :
    RoundBlind compactor ((plan.round Aided.tableStore).prepareClient provider) fun _ => True := by
  have hmake : RoundBlind compactor ((plan.coordinator Aided.tableStore).ensureInitialized provider true)
      fun _ => True := by
    refine Blind.ofState (fun _ => rfl) fun state _ => ?_
    split
    next => exact Blind.ofReport _ _ _ _
    next =>
      split
      next => exact Blind.ofPure trivial
      next =>
        split
        next => exact Blind.ofPure trivial
        next =>
          refine (Blind.ofLog _ _ _).bind fun _ _ => Blind.now.bind fun _ _ => (Blind.ofExcept _).bind fun config _ => ?_
          have hprovider : RoundBlind compactor (ρ := ρ) (Coordinator.modify fun state => { state with provider })
              fun _ => True := Blind.ofUpdate (fun _ => rfl) fun _ hs => hs
          refine hprovider.bind fun _ _ => ?_
          have hcreate : RoundBlind compactor (ρ := ρ)
              (Coordinator.outside ((plan.coordinator Aided.tableStore).store.createWriteClient config))
              fun client => ∃ id, client = Site.client (Aided.writer id config) := createClient_blind config
          refine hcreate.bind ?_
          rintro _ ⟨id, rfl⟩
          have hclient : RoundBlind compactor (ρ := ρ)
              (Coordinator.modify fun state => { state with client := some (Site.client (Aided.writer id config)) })
              fun _ => True := by
            refine Blind.ofUpdate (fun _ => rfl) ?_
            rintro _ - _ ⟨⟩
            exact ⟨id, config, rfl⟩
          exact hclient.bind fun _ _ => (RoundBlind.ofRest _).bind fun _ _ => Blind.ofPure trivial
  refine Blind.ofState (fun _ => rfl) fun state _ => ?_
  have hdiscard : RoundBlind compactor (discard ((plan.coordinator Aided.tableStore).ensureInitialized provider true))
      fun _ => True := hmake.bind fun _ _ => Blind.ofPure trivial
  dsimp only
  split
  · split
    · exact (Blind.ofLog _ _ _).bind fun _ _ => hdiscard
    · exact hdiscard
  · exact Blind.ofPure trivial

theorem withoutDuplicates_blind (records : List PreparedRecord) :
    RoundBlind compactor ((plan.round Aided.tableStore).withoutDuplicates records) fun _ => True := by
  unfold Round.withoutDuplicates
  split
  · exact Dedup.run_blind records
  · exact Blind.ofPure trivial

theorem requireClient_blind : RoundBlind compactor (plan.coordinator Aided.tableStore).requireClient
    fun client => ∃ id config, client = Site.client (Aided.writer id config) := by
  refine Blind.ofState (fun _ => rfl) fun state hstate => ?_
  split
  next client hclient => exact Blind.ofPure (hstate client hclient)
  next => exact Blind.ofReport _ _ _ _

/-! ## 4. The commit protocol -/

section Write

variable {id : Warehouse.ClientId} {config : WriteConfig} {time : String}

theorem startCommit_blind : RoundBlind compactor (plan.coordinator Aided.tableStore).startCommit fun _ => True := by
  refine requireClient_blind.bind ?_
  rintro _ ⟨id, config, rfl⟩
  exact RetryPolicy.run_blind _ _ (RoundBlind.ofExposed (Exposed.writer id config).startCommit)

theorem dispatch_blind (operation : String) (records : List PreparedRecord) :
    RoundBlind compactor (ρ := ρ)
      (Coordinator.dispatch (Site.client (Aided.writer id config)) operation records time) fun _ => True := by
  unfold Coordinator.dispatch
  split
  · exact RoundBlind.ofExposed ((Exposed.writer id config).write _ records time)
  · exact Blind.ofReport _ _ _ _

theorem rollBack_blind (failure : Failure) :
    RoundBlind compactor ((plan.coordinator Aided.tableStore).rollBack time failure) fun _ => True := by
  refine requireClient_blind.bind ?_
  rintro _ ⟨id, config, rfl⟩
  refine (RoundBlind.ofExposed ((Exposed.writer id config).rollback time)).attempt.bind ?_
  rintro (cause | _ | _) -
  · exact Blind.ofReport _ _ _ _
  · exact Blind.ofReport _ _ _ _
  · exact (RoundBlind.enter _).bind fun _ _ => Blind.ofLog _ _ _

theorem rejectOutcome_blind (outcome : WriteOutcome) {V : α → Prop} :
    RoundBlind compactor ((plan.coordinator Aided.tableStore).rejectOutcome time outcome) V := by
  have hlines : RoundBlind compactor ((plan.coordinator Aided.tableStore).logErrors outcome) fun _ => True :=
    (Blind.ofLog _ _ _).bind fun _ _ => (Blind.forIn _ _ fun _ => Blind.ofLog _ _ _).bind fun _ _ => Blind.ofPure trivial
  refine (Blind.ofLog _ _ _).bind fun _ _ => hlines.bind fun _ _ => Blind.now.bind fun _ _ => ?_
  exact (rollBack_blind _).bind fun _ _ => Blind.ofFail _

end Write

end Round

end TableSync
