/-
  TableSync/Proofs/Round/Stage.lean
  =================================
  **The rules of a round** — from what its operations do to what a round does.

  A proof about a round looks at a `Scene`: the store, what was read from the
  source, the write client and whether the round is closed.  Clock, log, phase
  and the rest of the world are not in it, so a step that only logs, transforms,
  prepares or records keeps every assertion (`Neutral`).  What is left are the
  few steps that matter, and each function of a round has one rule that asks
  for exactly those: `readWindow_stage`, `prepareClient_stage`, `write_stage`, …,
  and `run_stage` for a whole round.
-/
import TableSync.Proofs.Round.Site

namespace TableSync

/-! ## 1. Scenes -/

/-- What a proof about a round looks at. -/
structure Scene (τ ρ : Type) where
  inner : τ
  reads : List SourceRead
  client : Option (WriteClient (Site τ ρ))
  closed : Bool

variable {τ ρ α β : Type}

/-- The scene of a state. -/
def CommitState.scene (state : CommitState (Site τ ρ)) : Scene τ ρ :=
  ⟨state.outside.inner, state.outside.reads, state.client, state.closed⟩

/-- A step leads from scenes with `A` to scenes with `B`, or fails in a scene with `E`. -/
def Stage (A : Scene τ ρ → Prop) (step : RoundStep (Site τ ρ) α) (B : α → Scene τ ρ → Prop)
    (E : Scene τ ρ → Prop) : Prop :=
  Effect.Leads (fun state => A state.scene) step (fun a state => B a state.scene) fun _ state => E state.scene

/-- The step changes nothing in the scene, whether it fails or not. -/
def Neutral (step : RoundStep (Site τ ρ) α) : Prop := ∀ A : Scene τ ρ → Prop, Stage A step (fun _ => A) A

variable {A A' : Scene τ ρ → Prop} {B B' : α → Scene τ ρ → Prop} {E E' : Scene τ ρ → Prop}
variable {step : RoundStep (Site τ ρ) α}

namespace Stage

theorem weaken (h : Stage A step B E) (hA : ∀ s, A' s → A s) (hB : ∀ a s, B a s → B' a s)
    (hE : ∀ s, E s → E' s) : Stage A' step B' E' :=
  Effect.Leads.weaken h (fun _ => hA _) (fun a _ => hB a _) fun _ _ => hE _

theorem bind {C : β → Scene τ ρ → Prop} {f : α → RoundStep (Site τ ρ) β} (first : Stage A step B E)
    (second : ∀ a, Stage (B a) (f a) C E) : Stage A (step >>= f) C E :=
  Effect.Leads.bind first second

theorem ofPure {a : α} (h : ∀ s, A s → B a s) : Stage A (pure a) B E :=
  Effect.leads_pure fun _ => h _

theorem of_each (h : ∀ s, A s → Stage (fun t => t = s) step B E) : Stage A step B E :=
  fun w hw => h w.state.scene hw w rfl

theorem of_fact {p : Prop} (h : p → Stage A step B E) : Stage (fun s => p ∧ A s) step B E :=
  Effect.leads_of_fact h

theorem attempt (h : Stage A step B E) :
    Stage A step.attempt (fun outcome s => match outcome with
      | .ok a => B a s
      | .error _ => E s) E' := by
  refine Effect.Leads.weaken (Effect.Leads.attempt h) (fun _ hs => hs) ?_ fun _ _ hs => hs
  rintro (failure | a) s hs
  · exact hs
  · exact hs

theorem ofReport (h : ∀ s, A s → E s) (kind : FaultKind) (message : String) (context : Fields Value)
    (cause : Option Failure) : Stage A (Effect.report kind message context cause) B E :=
  Effect.leads_report (fun _ _ => h _) kind message context cause

theorem ofFail (h : ∀ s, A s → E s) (failure : Failure) : Stage A (Effect.fail failure) B E :=
  Effect.leads_fail fun _ => h _

theorem ofExcept (h : ∀ s, A s → E s) (outcome : Except Failure α) :
    Stage A (Effect.ofExcept outcome) (fun a s => outcome = .ok a ∧ A s) E :=
  (Effect.leads_ofExcept outcome).weaken (fun _ hs => hs) (fun _ _ hs => hs) fun _ _ hs => h _ hs.2

theorem ofLog (level : LogLevel) (topic : Topic) (message : String) :
    Stage A (Effect.log level topic message) (fun _ => A) E :=
  Effect.leads_log level topic message

theorem ofState {C : β → Scene τ ρ → Prop} {f : CommitState (Site τ ρ) → RoundStep (Site τ ρ) β}
    (h : ∀ state, A state.scene → Stage (fun s => s = state.scene) (f state) C E) :
    Stage A (Effect.state >>= f) C E :=
  fun w hw => h w.state hw w rfl

theorem ofModify {change : CommitState (Site τ ρ) → CommitState (Site τ ρ)} {B : Scene τ ρ → Prop}
    (h : ∀ state, A state.scene → B (change state).scene) :
    Stage A (Coordinator.modify change) (fun _ => B) E :=
  fun w hw => .inl ⟨(), { w with state := change w.state }, rfl, h _ hw⟩

theorem ofInner {step : Effect τ α}
    (h : ∀ s, A s → Effect.Leads (fun t => t = s.inner) step (fun a t => B a { s with inner := t })
      fun _ t => E { s with inner := t }) :
    Stage A (Coordinator.outside (Site.inInner step)) B E :=
  Effect.Leads.within fun state hs => Effect.Leads.within fun site hsite => by
    subst hsite
    exact h state.scene hs

end Stage

/-! ## 2. Neutral steps -/

namespace Neutral

/-- A neutral step keeps an assertion after which a round may fail. -/
theorem stage (h : Neutral step) (hE : ∀ s, A s → E s) : Stage A step (fun _ => A) E :=
  (h A).weaken (fun _ hs => hs) (fun _ _ hs => hs) hE

/-- With its failure as an answer, a neutral step cannot fail. -/
theorem attempt (h : Neutral step) : Stage A step.attempt (fun _ => A) E := by
  refine (h A).attempt.weaken (fun _ hs => hs) ?_ fun _ hs => hs
  rintro (failure | a) s hs
  · exact hs
  · exact hs

theorem ofExcept (outcome : Except Failure α) : Neutral (Effect.ofExcept outcome : RoundStep (Site τ ρ) α) :=
  fun _ => (Stage.ofExcept (fun _ hs => hs) outcome).weaken (fun _ hs => hs) (fun _ _ hs => hs.2) fun _ hs => hs

theorem now : Neutral (Effect.now : RoundStep (Site τ ρ) Timestamp) := fun _ => Effect.leads_now

theorem log (level : LogLevel) (topic : Topic) (message : String) :
    Neutral (Effect.log level topic message : RoundStep (Site τ ρ) Unit) := fun _ => Effect.leads_log _ _ _

theorem ofRest (step : Effect ρ α) :
    Neutral (Coordinator.outside (Site.inRest step) : RoundStep (Site τ ρ) α) := by
  intro A
  refine Effect.Leads.within fun state hs => Effect.Leads.within fun site hsite => ?_
  subst hsite
  intro w _
  rcases hrun : step.runIn w with ⟨failure | a, w'⟩
  · exact .inr ⟨failure, w', rfl, hs⟩
  · exact .inl ⟨a, w', rfl, hs⟩

end Neutral

/-! ## 3. Reading -/

/-- The site after a call of the source, which gives what `G` promises if it gives anything. -/
def ReadFrom (G : Option String → Delivery → Prop) (site : Site τ ρ) (asked : Option String)
    (given : Option Delivery) (after : Site τ ρ) : Prop :=
  (∀ delivery, given = some delivery → G asked delivery) ∧
    ∃ rest, after = { site with reads := site.reads ++ [⟨asked, given⟩], rest }

variable {G : Option String → Delivery → Prop} {asked : Option String} {limit : Int} {site : Site τ ρ}

theorem note_leads {E : Failure → Site τ ρ → Prop} (read : SourceRead) :
    Effect.Leads (fun t => t = site) (Site.note read)
      (fun _ t => t = { site with reads := site.reads ++ [read] }) E := by
  rintro w rfl
  exact .inl ⟨(), _, rfl, rfl⟩

/-- A call of a source leaves a read on record, whatever becomes of it. -/
theorem watched_leads {γ : Type} {form : Batch γ → Delivery} {fetch : Fetch ρ γ}
    (hsource : Effect.Leads (fun _ => True) (fetch asked limit) (fun batch _ => G asked (form batch)) fun _ _ => True) :
    Effect.Leads (fun t => t = site) (Site.watched form fetch asked limit)
      (fun batch => ReadFrom G site asked (some (form batch))) (fun _ => ReadFrom G site asked none) := by
  have hfetch : Effect.Leads (fun t => t = site) (Site.inRest (fetch asked limit))
      (fun batch t => G asked (form batch) ∧ ∃ rest, t = { site with rest })
      (fun _ t => ∃ rest, t = { site with rest }) := by
    refine Effect.Leads.within ?_
    rintro _ rfl
    exact hsource.weaken (fun _ _ => trivial) (fun _ rest hG => ⟨hG, rest, rfl⟩) fun _ rest _ => ⟨rest, rfl⟩
  refine hfetch.attempt.bind ?_
  rintro (failure | batch)
  · refine Effect.leads_of_each ?_
    rintro _ ⟨rest, rfl⟩
    refine (note_leads ⟨asked, none⟩).bind fun _ => ?_
    exact (Effect.leads_ofExcept _).weaken (fun _ hs => hs) (fun _ _ hs => nomatch hs.1)
      fun _ _ hs => ⟨nofun, rest, hs.2⟩
  · refine Effect.leads_of_fact fun hG => Effect.leads_of_each ?_
    rintro _ ⟨rest, rfl⟩
    refine (note_leads ⟨asked, some (form batch)⟩).bind fun _ => ?_
    refine (Effect.leads_ofExcept _).weaken (fun _ hs => hs) ?_ fun _ _ hs => nomatch hs.1
    rintro _ _ ⟨hbatch, rfl⟩
    cases hbatch
    refine ⟨?_, rest, rfl⟩
    rintro _ ⟨⟩
    exact hG

/-- A window in either shape comes from one delivery of the source with the same checkpoint. -/
def WindowFrom (G : Option String → Delivery → Prop) (site : Site τ ρ) (asked : Option String) {γ : Type}
    (batch : Batch γ) (after : Site τ ρ) : Prop :=
  ∃ delivery, delivery.checkpoint = batch.checkpoint ∧ ReadFrom G site asked (some delivery) after

/-- A window whose shape could not be changed comes from one call of the source, too. -/
theorem adapted_leads {γ δ : Type} {form : Batch γ → Delivery} {fetch : Fetch ρ γ}
    (adapt : Batch γ → Except Failure (Batch δ)) (hform : ∀ batch, (form batch).checkpoint = batch.checkpoint)
    (hadapt : ∀ batch window, adapt batch = .ok window → window.checkpoint = batch.checkpoint)
    (hsource : Effect.Leads (fun _ => True) (fetch asked limit) (fun batch _ => G asked (form batch)) fun _ _ => True) :
    Effect.Leads (fun t => t = site)
      (do Effect.ofExcept (adapt (← Site.watched form fetch asked limit)))
      (fun window => WindowFrom G site asked window)
      (fun _ t => ∃ given, ReadFrom G site asked given t) := by
  refine ((watched_leads hsource).weaken (fun _ hs => hs) (fun _ _ hs => hs) fun _ _ hs => ⟨none, hs⟩).bind
    fun batch => ?_
  refine (Effect.leads_ofExcept _).weaken (fun _ hs => hs) ?_ fun _ _ hs => ⟨some (form batch), hs.2⟩
  rintro window t ⟨hwindow, ht⟩
  exact ⟨form batch, by rw [hform, hadapt _ _ hwindow], ht⟩

theorem recordsOf_checkpoint {batch : Batch Frame} {window : Batch (List Record)}
    (h : Source.recordsOf batch = .ok window) : window.checkpoint = batch.checkpoint := by
  unfold Source.recordsOf at h
  dsimp only at h
  split at h
  all_goals
    obtain ⟨_, -, h⟩ := bind_eq_ok.mp h
    obtain ⟨_, -, h⟩ := bind_eq_ok.mp h
    cases h
    rfl

theorem withSchema_checkpoint {batch window : Batch (List Record)}
    (h : Source.withSchema batch = .ok window) : window.checkpoint = batch.checkpoint := by
  unfold Source.withSchema at h
  split at h
  · obtain ⟨_, -, h⟩ := bind_eq_ok.mp h
    cases h
    rfl
  · cases h
    rfl

theorem fetchRows_leads {source : Source ρ} (hsource : source.Gives G) :
    Effect.Leads (fun t => t = site) ((Site.source source).fetchRows asked limit)
      (fun window => WindowFrom G site asked window)
      (fun _ t => ∃ given, ReadFrom G site asked given t) := by
  cases source with
  | rows fetch =>
    exact (watched_leads (hsource asked limit)).weaken (fun _ hs => hs)
      (fun batch _ hs => ⟨.rows batch, rfl, hs⟩) fun _ _ hs => ⟨none, hs⟩
  | records fetch =>
    exact adapted_leads (fun batch => .ok (Source.rowsOf batch)) (fun _ => rfl)
      (by rintro _ _ ⟨⟩; rfl) (hsource asked limit)

theorem fetchRecords_leads {source : Source ρ} (hsource : source.Gives G) :
    Effect.Leads (fun t => t = site) ((Site.source source).fetchRecords asked limit)
      (fun window => WindowFrom G site asked window)
      (fun _ t => ∃ given, ReadFrom G site asked given t) := by
  cases source with
  | rows fetch =>
    exact adapted_leads Source.recordsOf (fun _ => rfl) (fun _ _ => recordsOf_checkpoint) (hsource asked limit)
  | records fetch =>
    exact adapted_leads Source.withSchema (fun _ => rfl) (fun _ _ => withSchema_checkpoint) (hsource asked limit)

/-- A window that a round fetches: the scene afterwards has one more read. -/
theorem fetched_stage {γ : Type} {fetch : Effect (Site τ ρ) (Batch γ)} {R : Option Delivery → Scene τ ρ → Prop}
    (hfetch : ∀ site, Effect.Leads (fun t => t = site) fetch (fun window => WindowFrom G site asked window)
      (fun _ t => ∃ given, ReadFrom G site asked given t))
    (hread : ∀ s given, A s → (∀ delivery, given = some delivery → G asked delivery) →
      R given { s with reads := s.reads ++ [⟨asked, given⟩] }) :
    Stage A (Coordinator.outside fetch)
      (fun window s => ∃ delivery, delivery.checkpoint = window.checkpoint ∧ R (some delivery) s)
      (fun s => ∃ given, R given s) := by
  refine Effect.Leads.within fun state hs => (hfetch state.outside).weaken (fun _ ht => ht) ?_ ?_
  · rintro window _ ⟨delivery, hcheckpoint, hG, rest, rfl⟩
    exact ⟨delivery, hcheckpoint, hread state.scene _ hs hG⟩
  · rintro _ _ ⟨given, hG, rest, rfl⟩
    exact ⟨given, hread state.scene _ hs hG⟩

variable (plan : Plan ρ) (inner : TableStore τ)

theorem readWindow_stage {R : Option Delivery → Scene τ ρ → Prop} (hsource : plan.source.Gives G)
    (hread : ∀ s given, A s → (∀ delivery, given = some delivery → G asked delivery) →
      R given { s with reads := s.reads ++ [⟨asked, given⟩] }) :
    Stage A ((plan.round inner).readWindow asked)
      (fun window s => ∃ delivery, delivery.checkpoint = window.checkpoint ∧ R (some delivery) s)
      (fun s => ∃ given, R given s) := by
  cases htransformer : plan.transformer with
  | none =>
    have hshape : (plan.round inner).readWindow asked = (plan.round inner).readRecords asked := by
      simp only [Round.readWindow, Plan.round, htransformer, Option.map_none]
    rw [hshape]
    refine (fetched_stage (fun _ => fetchRecords_leads hsource) hread).bind fun batch => ?_
    exact Stage.ofPure fun _ hs => hs
  | some transformer =>
    have hshape : (plan.round inner).readWindow asked =
        (plan.round inner).readRows (fun frame props => Site.inRest (transformer frame props)) asked := by
      simp only [Round.readWindow, Plan.round, htransformer, Option.map_some]
    rw [hshape]
    refine (fetched_stage (fun _ => fetchRows_leads hsource) hread).bind fun batch => ?_
    have hfail : ∀ s, (∃ delivery, delivery.checkpoint = batch.checkpoint ∧ R (some delivery) s) →
        ∃ given, R given s := fun _ ⟨delivery, _, hR⟩ => ⟨some delivery, hR⟩
    rcases hdata : batch.data with _ | frame
    · exact Stage.ofPure fun _ hs => hs
    · refine ((Neutral.ofRest _).stage hfail).bind fun transformed => ?_
      refine ((Neutral.ofExcept _).stage hfail).bind fun shaped => ?_
      refine ((Neutral.ofExcept _).stage hfail).bind fun records => ?_
      exact Stage.ofPure fun _ hs => hs

/-- What a round reads: either the checkpoint of the delivery is where it resumed, or there is input up to
that checkpoint. -/
def InputFrom (point : ResumePoint) (delivery : Delivery) : Option RoundInput → Prop
  | none => delivery.checkpoint = point.value
  | some input => delivery.checkpoint = some input.checkpoint ∧ delivery.checkpoint ≠ point.value

theorem read_stage {R : Option Delivery → Scene τ ρ → Prop} {point : ResumePoint} (hsource : plan.source.Gives G)
    (hread : ∀ s given, A s → (∀ delivery, given = some delivery → G point.value delivery) →
      R given { s with reads := s.reads ++ [⟨point.value, given⟩] }) :
    Stage A ((plan.round inner).read point)
      (fun input s => ∃ delivery, InputFrom point delivery input ∧ R (some delivery) s)
      (fun s => ∃ given, R given s) := by
  refine (readWindow_stage plan inner hsource hread).bind fun window => ?_
  have hfail : ∀ s, (∃ delivery, delivery.checkpoint = window.checkpoint ∧ R (some delivery) s) →
      ∃ given, R given s := fun _ ⟨delivery, _, hR⟩ => ⟨some delivery, hR⟩
  split
  next hsame =>
    refine ((Neutral.log _ _ _).stage hfail).bind fun _ => Stage.ofPure ?_
    rintro s ⟨delivery, hcheckpoint, hR⟩
    exact ⟨delivery, hcheckpoint.trans hsame, hR⟩
  next hmoved =>
    split
    next => exact Stage.ofReport hfail _ _ _ _
    next checkpoint hsome =>
      refine (Neutral.now.stage hfail).bind fun now => ?_
      refine ((Neutral.ofExcept _).stage hfail).bind fun records => Stage.ofPure ?_
      rintro s ⟨delivery, hcheckpoint, hR⟩
      exact ⟨delivery, ⟨hcheckpoint.trans hsome, fun h => hmoved (hcheckpoint.symm.trans h)⟩, hR⟩

/-! ## 4. Resuming -/

/-- The shell that a round registers for a table that is not there. -/
def SyncConfig.newShell (config : SyncConfig) : TableShell :=
  { basePath := config.targetBasePath, tableName := config.targetTable, tableType := config.tableType,
    payloadClass := config.payloadClass }

theorem refreshTimeline_stage {present : Bool → Scene τ ρ → Prop} {known : Option Timeline → Scene τ ρ → Prop}
    (hexists : Stage A (Coordinator.outside (Site.inInner (inner.metadataExists plan.config.targetBasePath))) present E)
    (hopen : Stage (present true) (Coordinator.outside (Site.inInner (inner.openMetadata plan.config.targetBasePath)))
      (fun metadata => known (some metadata.timeline)) E)
    (hinit : Stage (present false) (Coordinator.outside (Site.inInner (inner.initTable plan.config.newShell)))
      (fun _ => known none) E) :
    Stage A (plan.round inner).refreshTimeline known E := by
  refine hexists.bind fun exists_ => ?_
  cases exists_ with
  | true =>
    refine hopen.bind fun metadata => ?_
    dsimp only
    split
    · exact (Stage.ofLog _ _ _).bind fun _ => Stage.ofPure fun _ hs => hs
    · exact Stage.ofPure fun _ hs => hs
  | false =>
    refine (Stage.ofLog _ _ _).bind fun _ => hinit.bind fun _ => Stage.ofPure fun _ hs => hs

theorem resumePoint_stage {known : Option Timeline → Scene τ ρ → Prop}
    (hrefresh : Stage A (plan.round inner).refreshTimeline known E) (hfail : ∀ timeline s, known timeline s → E s) :
    Stage A (plan.round inner).resumePoint
      (fun point s => ∃ timeline now, ResumePoint.ofTimeline timeline plan.config.checkpoint now = .ok point ∧
        known timeline s) E := by
  refine hrefresh.bind fun timeline => ?_
  refine (Neutral.now.stage (hfail timeline)).bind fun now => ?_
  refine (Stage.ofExcept (hfail timeline) _).bind fun point => ?_
  refine (Stage.ofLog _ _ _).bind fun _ => Stage.ofPure fun _ hs => ⟨timeline, now, hs⟩

/-! ## 5. The write client -/

theorem ensureInitialized_stage {ready : Scene τ ρ → Prop} {provider : Option SchemaProvider} {allowMissing : Bool}
    (hkeep : ∀ s, A s → s.client.isSome → ready s)
    (hnew : ∀ config now s, plan.config.writeConfig provider now = .ok config → A s → s.client = none →
      s.closed = false → Effect.Leads (fun t => t = s.inner) (inner.createWriteClient config)
        (fun client t => ready { s with inner := t, client := some (Site.client client) })
        fun _ t => E { s with inner := t })
    (hfail : ∀ s, A s → E s) (hready : ∀ s, ready s → E s) :
    Stage A ((plan.coordinator inner).ensureInitialized provider allowMissing)
      (fun client s => (client.isSome ∧ ready s) ∨ ((provider.isNone ∧ allowMissing = false) ∧ A s)) E := by
  refine Stage.ofState fun state hA => ?_
  have hE : ∀ s, s = state.scene → E s := fun _ hs => hs ▸ hfail _ hA
  split
  next => exact Stage.ofReport hE _ _ _ _
  next hopen =>
    split
    next hsome =>
      refine Stage.ofPure ?_
      rintro _ rfl
      exact .inl ⟨hsome, hkeep _ hA hsome⟩
    next hnone =>
      split
      next hmissing =>
        refine Stage.ofPure ?_
        rintro _ rfl
        exact .inr ⟨by simpa using hmissing, hA⟩
      next =>
        refine (Stage.ofLog _ _ _).bind fun _ => (Neutral.now.stage hE).bind fun now => ?_
        refine (Stage.ofExcept hE _).bind fun config => Stage.of_fact fun hconfig => ?_
        refine (Stage.ofModify (B := fun s => s = state.scene) fun _ hs => hs).bind fun _ => ?_
        have hcreate : Stage (fun s => s = state.scene)
            (Coordinator.outside ((plan.coordinator inner).store.createWriteClient config))
            (fun client s => ready { s with client := some client }) E := by
          refine Effect.Leads.within fun known hknown => Effect.Leads.bind (Effect.Leads.within ?_) fun _ =>
            Effect.leads_pure fun _ hs => hs
          rintro _ rfl
          have habsent : state.client = none := by simpa using hnone
          have hclient := hnew config now state.scene hconfig hA habsent (Bool.not_eq_true _ ▸ hopen)
          rw [← hknown] at hclient
          exact hclient
        refine hcreate.bind fun client => (Stage.ofModify (B := ready) fun _ hs => by exact hs).bind fun _ => ?_
        refine ((Neutral.ofRest _).stage hready).bind fun _ => Stage.ofPure fun _ hs => ?_
        exact .inl ⟨rfl, hs⟩

theorem prepareClient_stage {ready : Scene τ ρ → Prop} (provider : Option SchemaProvider)
    (hkeep : ∀ s, A s → s.client.isSome → ready s)
    (hnew : ∀ config now s, plan.config.writeConfig provider now = .ok config → A s → s.client = none →
      s.closed = false → Effect.Leads (fun t => t = s.inner) (inner.createWriteClient config)
        (fun client t => ready { s with inner := t, client := some (Site.client client) })
        fun _ t => E { s with inner := t })
    (hfail : ∀ s, A s → E s) (hready : ∀ s, ready s → E s) :
    Stage A ((plan.round inner).prepareClient provider) (fun _ => ready) E := by
  have hmake : Stage A (discard ((plan.coordinator inner).ensureInitialized provider true))
      (fun _ => ready) E := by
    refine Effect.Leads.discard ?_
    refine Effect.Leads.weaken (ensureInitialized_stage plan inner hkeep hnew hfail hready) (fun _ hs => hs) ?_
      fun _ _ hs => hs
    rintro client state (⟨_, hs⟩ | ⟨⟨_, hmissing⟩, _⟩)
    · exact hs
    · cases hmissing
  refine Stage.ofState fun state hA => ?_
  have hscene : Stage (fun s => s = state.scene)
      (discard ((plan.coordinator inner).ensureInitialized provider true)) (fun _ => ready) E :=
    hmake.weaken (fun _ hs => hs ▸ hA) (fun _ _ hs => hs) fun _ hs => hs
  dsimp only
  split
  next =>
    split
    · exact (Stage.ofLog _ _ _).bind fun _ => hscene
    · exact hscene
  next hsome =>
    refine Stage.ofPure ?_
    rintro _ rfl
    exact hkeep _ hA (by simpa [CommitState.scene, Option.isSome_iff_ne_none] using hsome)

theorem setUp_stage {ready : Scene τ ρ → Prop}
    (hkeep : ∀ s, A s → s.client.isSome → ready s)
    (hnew : ∀ provider config now s, plan.config.writeConfig provider now = .ok config → A s → s.client = none →
      s.closed = false → Effect.Leads (fun t => t = s.inner) (inner.createWriteClient config)
        (fun client t => ready { s with inner := t, client := some (Site.client client) })
        fun _ t => ready { s with inner := t })
    (hA : ∀ s, A s → ready s) :
    Stage A (plan.setUp inner) (fun _ => ready) ready := by
  unfold Plan.setUp
  split
  next provider _ =>
    refine Effect.Leads.discard ?_
    refine Effect.Leads.weaken (ensureInitialized_stage plan inner hkeep (hnew (some provider)) hA fun _ hs => hs)
      (fun _ hs => hs) ?_ fun _ _ hs => hs
    rintro client state (⟨_, hs⟩ | ⟨_, hs⟩)
    · exact hs
    · exact hA _ hs
  next => exact Stage.ofPure hA

end TableSync
