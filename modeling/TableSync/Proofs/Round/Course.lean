/-
  TableSync/Proofs/Round/Course.lean
  ==================================
  **Courses** — rounds one after another, from an empty store on.

  A course is everything that can happen to a store and to the round in front
  of it while one round runs at a time: the round is opened, run, closed, and
  replaced by another one; the clock, the log and everything outside the store
  change as they like between two runs; and if the store is shared, anybody
  performs operations on it there.  `Course.lawful` and `Course.attached` are
  what every course keeps.
-/
import TableSync.Proofs.Round.Alone

namespace TableSync

variable {ρ : Type}

/-! ## 1. Setting up and closing -/

/-- The store and the reads are as they were, and a write client belongs to the plan. -/
def Undisturbed (plan : Plan ρ) (before after : Scene Exposed ρ) : Prop :=
  plan.Attached after ∧ after.store = before.store ∧ after.reads = before.reads

theorem setUp_account {plan : Plan ρ} {before : Scene Exposed ρ} (hfresh : before.client = none) :
    Stage (fun s => s = before) (plan.setUp Exposed.tableStore) (fun _ => Undisturbed plan before)
      (Undisturbed plan before) := by
  have hbefore : ∀ s, s = before → Undisturbed plan before s := by
    rintro _ rfl
    refine ⟨fun client hclient => ?_, rfl, rfl⟩
    rw [hfresh] at hclient
    cases hclient
  refine setUp_stage plan Exposed.tableStore (fun s hs _ => hbefore s hs) ?_ hbefore
  rintro provider config now s hconfig rfl - -
  have hstart : ∀ t, t = s.inner →
      t.Holds False s.inner.warehouse.clients s.inner.stagings fun store => store = s.inner.warehouse.store := by
    rintro _ rfl
    exact ⟨False.elim, rfl, rfl, rfl⟩
  refine (Exposed.createWriteClient_leads config).weaken hstart ?_ fun _ _ ht => ht
  rintro client t ⟨rfl, -, -, hclients, hstore⟩
  refine ⟨fun client hclient => ?_, hstore, rfl⟩
  cases hclient
  exact ⟨_, { config := config }, rfl, by rw [hclients]; simp, provider, now, hconfig⟩

theorem close_account {plan : Plan ρ} {before : Scene Exposed ρ} (hattached : plan.Attached before) :
    Stage (fun s => s = before) Round.close (fun _ => Undisturbed plan before) (Undisturbed plan before) := by
  have hlast : Stage (Undisturbed plan before) (Coordinator.modify fun state => { state with closed := true })
      (fun _ => Undisturbed plan before) (Undisturbed plan before) := Stage.ofModify fun _ hs => hs
  refine Stage.ofState fun state hstate => ?_
  subst hstate
  have hstart : Undisturbed plan state.scene state.scene := ⟨hattached, rfl, rfl⟩
  dsimp only
  split
  next client hclient =>
    obtain ⟨id, known, rfl, -, -⟩ := hattached client hclient
    refine (Stage.ofLog _ _ _).bind fun _ => ?_
    refine Stage.bind (B := fun _ => Undisturbed plan state.scene) (Stage.ofModify ?_) fun _ => ?_
    · intro last hsame
      have hscene : last.scene = state.scene := hsame
      refine ⟨nofun, ?_, ?_⟩
      · show last.scene.store = state.scene.store
        rw [hscene]
      · show last.scene.reads = state.scene.reads
        rw [hscene]
    · refine Stage.bind (B := fun _ => Undisturbed plan state.scene) (Stage.ofInner ?_) fun _ => hlast
      rintro s ⟨hs, hstore, hreads⟩
      refine Effect.Leads.within ?_
      rintro _ rfl w hw
      refine .inl ⟨(), { w with state := { w.state with
        clients := w.state.clients.modify id fun known => { known with closed := true } } }, rfl, ?_, ?_, hreads⟩
      · refine hs.of_stay rfl ?_
        rw [hw]
        exact Warehouse.ClientsStay.close _ _
      · rw [← hstore, Scene.store, hw]
        rfl
  next => exact hlast.weaken (fun _ hs => hs ▸ hstart) (fun _ _ hs => hs) fun _ hs => hs

/-! ## 2. Courses -/

/-- A round that was run: what it read, and its outcome. -/
structure RoundRecord where
  reads : List SourceRead
  outcome : Except Failure RoundResult

/-- The checkpoint that a round committed, if it did. -/
def RoundRecord.checkpoint? (record : RoundRecord) : Option String :=
  match record.outcome with
  | .ok result => if result.committed then result.checkpoint else none
  | .error _ => none

/-- The checkpoint of a round is that of a result which says that it committed. -/
theorem RoundRecord.checkpoint?_eq_some {record : RoundRecord} {checkpoint : String} :
    record.checkpoint? = some checkpoint ↔
      ∃ result, record.outcome = .ok result ∧ result.status = .committed ∧ result.checkpoint = some checkpoint := by
  rcases record with ⟨reads, failure | result⟩
  · simp [checkpoint?]
  · by_cases hcommitted : result.status = .committed
    · simp [checkpoint?, RoundResult.committed, hcommitted]
    · simp [checkpoint?, RoundResult.committed, hcommitted]

/-- The world in which a round is run. -/
abbrev RoundWorld (ρ : Type) := World (CommitState (Site Exposed ρ))

namespace RoundWorld

/-- The store. -/
def store (w : RoundWorld ρ) : Store := w.state.outside.inner.warehouse.store

/-- The reads so far. -/
def reads (w : RoundWorld ρ) : List SourceRead := w.state.outside.reads

/-- The rows that rounds have staged so far. -/
def stagings (w : RoundWorld ρ) : List StagedRow := w.state.outside.inner.stagings

/-- Nothing has happened yet. -/
def IsBlank (w : RoundWorld ρ) : Prop :=
  w.state.outside.inner.warehouse = {} ∧ w.reads = [] ∧ w.state.client = none

/-- Another round takes the place of the one that is there. -/
def renewed (w : RoundWorld ρ) : RoundWorld ρ := { w with state := { outside := w.state.outside } }

/-- The warehouse has changed. -/
def withWarehouse (w : RoundWorld ρ) (warehouse : Warehouse) : RoundWorld ρ :=
  { w with state := { w.state with outside := { w.state.outside with
    inner := { w.state.outside.inner with warehouse } } } }

/-- Everything but the warehouse, the reads and the round has changed. -/
def drifted (w : RoundWorld ρ) (now : Timestamp) (log : List LogLine) (sleeps : List Number)
    (incidents : List Incident) (rest : ρ) : RoundWorld ρ :=
  { now, log, sleeps, state := { w.state with outside := { w.state.outside with
    inner := { w.state.outside.inner with incidents }, rest } } }

end RoundWorld

/-- What has happened so far: the rounds that were run, the plan of the present one, and the world. The
plans are among those that are allowed, and others use the store between two runs only if it is shared. -/
inductive Course (allowed : Plan ρ → Prop) (shared : Prop) : List RoundRecord → Plan ρ → RoundWorld ρ → Prop where
  | opened {plan : Plan ρ} {w w' : RoundWorld ρ} {outcome : Except Failure Unit} : allowed plan → w.IsBlank →
      (plan.setUp Exposed.tableStore).runIn w = (outcome, w') → Course allowed shared [] plan w'
  | reopened {history : List RoundRecord} {old plan : Plan ρ} {w w' : RoundWorld ρ} {outcome : Except Failure Unit} :
      Course allowed shared history old w → allowed plan →
      (plan.setUp Exposed.tableStore).runIn w.renewed = (outcome, w') → Course allowed shared history plan w'
  | ran {history : List RoundRecord} {plan : Plan ρ} {w w' : RoundWorld ρ} {outcome : Except Failure RoundResult} :
      Course allowed shared history plan w → (plan.round Exposed.tableStore).run.runIn w = (outcome, w') →
      Course allowed shared (history ++ [⟨w'.reads.drop w.reads.length, outcome⟩]) plan w'
  | closed {history : List RoundRecord} {plan : Plan ρ} {w w' : RoundWorld ρ} {outcome : Except Failure Unit} :
      Course allowed shared history plan w → Round.close.runIn w = (outcome, w') → Course allowed shared history plan w'
  | visited {history : List RoundRecord} {plan : Plan ρ} {w : RoundWorld ρ} {v v' : World Warehouse}
      {operation : Warehouse.Operation} {reply : Except Failure Warehouse.Reply} :
      shared → Course allowed shared history plan w → v.state = w.state.outside.inner.warehouse →
      (Warehouse.perform operation).runIn v = (reply, v') →
      Course allowed shared history plan (w.withWarehouse v'.state)
  | drifted {history : List RoundRecord} {plan : Plan ρ} {w : RoundWorld ρ} (now : Timestamp) (log : List LogLine)
      (sleeps : List Number) (incidents : List Incident) (rest : ρ) :
      Course allowed shared history plan w →
      Course allowed shared history plan (w.drifted now log sleeps incidents rest)

/-! ## 3. From accounts to runs -/

/-- What a step leads to whether it succeeds or fails, said of one run of it. -/
theorem Stage.of_either {α : Type} {B : Scene Exposed ρ → Prop} {step : RoundStep (Site Exposed ρ) α}
    {w w' : RoundWorld ρ} (h : Stage (fun s => s = w.state.scene) step (fun _ => B) B)
    {outcome : Except Failure α} (hrun : step.runIn w = (outcome, w')) : B w'.state.scene := by
  cases outcome with
  | ok a => exact Effect.Leads.of_ok h rfl hrun
  | error failure => exact Effect.Leads.of_error h rfl hrun

/-- How a run leaves the scene, by its outcome. -/
def LeavesFrom (plan : Plan ρ) (G : Option String → Delivery → Prop) (clean : Prop) (before after : Scene Exposed ρ) :
    Except Failure RoundResult → Prop
  | .ok result => EndsFrom plan G clean before result after
  | .error _ => StopsFrom plan clean before after

/-! ## 4. What every course keeps -/

variable {plan : Plan ρ} {clean : Prop} {before : Scene Exposed ρ} {G : Option String → Delivery → Prop}

theorem LeavesFrom.asked {after : Scene Exposed ρ} {outcome : Except Failure RoundResult}
    (h : LeavesFrom plan G clean before after outcome) : ∀ read ∈ after.reads.drop before.reads.length,
    ∃ point opened, Resumes plan.config before.store point opened ∧ read.asked = point.value := by
  have hone : ∀ point opened given, Resumes plan.config before.store point opened →
      after.reads = before.reads ++ [⟨point.value, given⟩] →
      ∀ read ∈ after.reads.drop before.reads.length,
        ∃ point opened, Resumes plan.config before.store point opened ∧ read.asked = point.value := by
    intro point opened given hresumes hreads read hread
    rw [hreads, List.drop_left] at hread
    rw [List.mem_singleton.mp hread]
    exact ⟨point, opened, hresumes, rfl⟩
  cases outcome with
  | error failure =>
    obtain ⟨-, -, opened, config, -, -, hsame | ⟨point, given, hresumes, hreads⟩⟩ := h
    · intro read hread
      rw [hsame, List.drop_length] at hread
      cases hread
    · exact hone point opened given hresumes hreads
  | ok result =>
    obtain ⟨-, -, ⟨point, delivery, hidles⟩ | ⟨point, delivery, opened, config, checkpoint, time, hcommits⟩⟩ := h
    · exact hone point _ _ hidles.resumes hidles.reads
    · exact hone point opened _ hcommits.resumes hcommits.reads

theorem EndsFrom.lawful {result : RoundResult} {after : Scene Exposed ρ}
    (h : EndsFrom plan G clean before result after) (hbefore : before.store.Lawful) : after.store.Lawful := by
  obtain ⟨-, -, ⟨point, delivery, hidles⟩ | ⟨point, delivery, opened, config, checkpoint, time, hcommits⟩⟩ := h
  · exact hidles.resumes.opened.lawful hbefore
  · obtain ⟨outcome, rows, -, hended⟩ := hcommits.ended
    exact hended.lawful (hcommits.resumes.opened.lawful hbefore)

theorem StopsFrom.lawful {after : Scene Exposed ρ} (h : StopsFrom plan clean before after)
    (hbefore : before.store.Lawful) : after.store.Lawful := by
  obtain ⟨-, -, opened, config, hstops⟩ := h
  exact hstops.abandoned.lawful (hstops.start.lawful hbefore)

theorem run_account_of_run {w w' : RoundWorld ρ} {outcome : Except Failure RoundResult}
    (hlawful : w.store.Lawful) (hattached : plan.Attached w.state.scene) (hcalm : clean → w.state.outside.inner.Calm)
    (hsource : plan.source.Gives G) (hrun : (plan.round Exposed.tableStore).run.runIn w = (outcome, w')) :
    LeavesFrom plan G clean w.state.scene w'.state.scene outcome := by
  have haccount : Stage (fun s => s = w.state.scene) (plan.round Exposed.tableStore).run
      (EndsFrom plan G clean w.state.scene) (StopsFrom plan clean w.state.scene) :=
    run_account hlawful hattached hcalm hsource
  cases outcome with
  | ok result => exact Effect.Leads.of_ok haccount rfl hrun
  | error failure => exact Effect.Leads.of_error haccount rfl hrun

theorem setUp_account_of_run {w w' : RoundWorld ρ} {outcome : Except Failure Unit} (hfresh : w.state.client = none)
    (hrun : (plan.setUp Exposed.tableStore).runIn w = (outcome, w')) :
    Undisturbed plan w.state.scene w'.state.scene := by
  have haccount : Stage (fun s => s = w.state.scene) (plan.setUp Exposed.tableStore)
      (fun _ => Undisturbed plan w.state.scene) (Undisturbed plan w.state.scene) := setUp_account hfresh
  exact haccount.of_either hrun

/-- In every course the store is lawful, and the round's client is its own. -/
theorem Course.sound {allowed : Plan ρ → Prop} {shared : Prop} {history : List RoundRecord} {w : RoundWorld ρ}
    (h : Course allowed shared history plan w) : w.store.Lawful ∧ plan.Attached w.state.scene := by
  induction h with
  | @opened plan w w' outcome hallowed hblank hrun =>
    have hdone := setUp_account_of_run hblank.2.2 hrun
    refine ⟨?_, hdone.1⟩
    have hstore : w'.store = w.store := hdone.2.1
    rw [hstore, RoundWorld.store, hblank.1]
    exact Store.lawful_empty
  | @reopened history old plan w w' outcome _ hallowed hrun ih =>
    have hdone := setUp_account_of_run rfl hrun
    refine ⟨?_, hdone.1⟩
    have hstore : w'.store = w.store := hdone.2.1
    exact hstore ▸ ih.1
  | @ran history plan w w' outcome _ hrun ih =>
    have haccount := run_account_of_run ih.1 ih.2 False.elim plan.source.gives_anything hrun
    cases outcome with
    | ok result => exact ⟨EndsFrom.lawful haccount ih.1, haccount.1⟩
    | error failure => exact ⟨StopsFrom.lawful haccount ih.1, haccount.1⟩
  | @closed history plan w w' outcome _ hrun ih =>
    have hdone := (close_account ih.2).of_either hrun
    have hstore : w'.store = w.store := hdone.2.1
    exact ⟨hstore ▸ ih.1, hdone.1⟩
  | @visited history plan w v v' operation reply hshared _ hstate hrun ih =>
    have hleads := Warehouse.perform_leads operation v.state (by rw [hstate]; exact ih.1)
    have hafter : v'.state.store.Lawful ∧ Warehouse.ClientsStay v.state.clients v'.state.clients := by
      cases reply with
      | ok reply => exact hleads.of_ok rfl hrun
      | error failure => exact hleads.of_error rfl hrun
    exact ⟨hafter.1, ih.2.of_stay rfl (hstate ▸ hafter.2)⟩
  | drifted now log sleeps incidents rest _ ih => exact ⟨ih.1, ih.2.of_same rfl rfl⟩

/-! ## 5. A small course -/

/-- A world in which nothing has happened, at the beginning of 2025. -/
def sampleWorld : RoundWorld Unit :=
  { now := ⟨63871286400000000⟩, state := { outside := { inner := {}, rest := () } } }

theorem sampleCourse {allowed : Plan Unit → Prop} {shared : Prop} (hallowed : allowed samplePlan) :
    Course allowed shared [] samplePlan sampleWorld := by
  have hsetUp : (samplePlan.setUp Exposed.tableStore).runIn sampleWorld = (.ok (), sampleWorld) := rfl
  exact .opened hallowed ⟨rfl, rfl, rfl⟩ hsetUp

/-- The first round of the sample plan stages its one record and commits. -/
theorem sampleRun : ∃ outcome w', (samplePlan.round Exposed.tableStore).run.runIn sampleWorld = (outcome, w') ∧
    (RoundRecord.mk [] outcome).checkpoint? = some "1" ∧
    (RoundWorld.stagings w').map StagedRow.recordKey = ["a"] :=
  ⟨_, _, Prod.mk.eta.symm, by decide +kernel, by decide +kernel⟩

end TableSync
