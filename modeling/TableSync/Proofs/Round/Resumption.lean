/-
  TableSync/Proofs/Round/Resumption.lean
  ======================================
  **Never from scratch** — a round on a table that has a history.

  What a round asks the source for is decided before it asks: by the latest
  commit of the table and the override (`resumePoint_leads`).  Where these give
  a checkpoint, the rest of the round asks once, from that checkpoint, whatever
  the source answers and whatever the store and the write client do
  (`sync_asks_once`).  Where they give none, the round ends before it asks.
-/
import TableSync.Proofs.Round.Course
import TableSync.Proofs.Store.Latest

namespace TableSync

variable {τ ρ α : Type}

/-! ## 1. One call of the source -/

/-- What was read so far, in a scene in which a write client reaches the store only. -/
def Scene.HasRead (reads : List SourceRead) (s : Scene τ ρ) : Prop :=
  s.reads = reads ∧ ∀ client, s.client = some client → ∃ own, client = Site.client own

/-- An outline that says nothing about the store, so that every client and every store has it. -/
def WriteOutline.ofAny (inner : TableStore τ) (client : WriteClient τ) (operation : WriteOperation)
    (extra : Fields String) : WriteOutline inner client operation extra where
  ready _ := True
  started _ _ := True
  staged _ _ _ := True
  unstaged _ _ := True
  committed _ _ _ := True
  ended _ _ _ := True
  failed _ := True
  ready_failed _ _ := trivial
  start := Effect.leads_trivial
  write _ _ := Effect.leads_trivial
  undo _ := Effect.leads_trivial
  refuse _ _ _ := Effect.leads_trivial
  commit _ _ := Effect.leads_trivial.weaken (fun _ hs => hs) (fun done _ _ => by cases done <;> trivial)
    fun _ _ hs => hs
  compact _ _ := Effect.leads_trivial
  committed_ended _ _ _ _ := trivial
  describe _ _ _ := Effect.leads_trivial

variable {plan : Plan ρ} {inner : TableStore τ} {reads : List SourceRead} {point : ResumePoint}

/-- Writing what was read calls the source no more. -/
theorem write_reads (input : RoundInput) : Stage (Scene.HasRead reads) ((plan.round inner).write point input)
    (fun _ s => s.reads = reads) fun s => s.reads = reads := by
  have hprepare : Stage (Scene.HasRead reads) ((plan.round inner).prepareClient input.provider)
      (fun _ s => s.reads = reads ∧ ∃ own, s.client = some (Site.client own)) fun s => s.reads = reads := by
    refine prepareClient_stage plan inner input.provider ?_ ?_ (fun s hs => hs.1) fun s hs => hs.1
    · rintro s ⟨hreads, hclient⟩ hsome
      obtain ⟨client, hthere⟩ := Option.isSome_iff_exists.1 hsome
      obtain ⟨own, rfl⟩ := hclient client hthere
      exact ⟨hreads, own, hthere⟩
    · intro config now s _ hs _ _
      exact Effect.leads_trivial.weaken (fun _ ht => ht) (fun own _ _ => ⟨hs.1, own, rfl⟩) fun _ _ _ => hs.1
  refine roundWrite_stage point input hprepare (withoutDuplicates_stage input.records fun s hs => hs.1)
    fun records => ?_
  refine Stage.of_each ?_
  rintro s ⟨hreads, own, hclient⟩
  refine (write_stage (WriteOutline.ofAny inner own _ _) hclient records).weaken ?_ ?_ ?_
  · rintro t rfl
    exact ⟨t.inner, rfl, trivial⟩
  · rintro _ _ ⟨_, -, t, rfl, -⟩
    exact hreads
  · rintro _ ⟨t, rfl, -⟩
    exact hreads

/-- **A round that resumes asks the source once**, from where it resumes, however the call and what follows it end. -/
theorem sync_asks_once : Stage (Scene.HasRead reads) ((plan.round inner).sync point)
    (fun _ s => ∃ given, s.reads = reads ++ [⟨point.value, given⟩])
    fun s => ∃ given, s.reads = reads ++ [⟨point.value, given⟩] := by
  have hread : ∀ (s : Scene τ ρ) given, s.HasRead reads → (∀ delivery, given = some delivery → True) →
      Scene.HasRead (reads ++ [⟨point.value, given⟩]) { s with reads := s.reads ++ [⟨point.value, given⟩] } := by
    rintro s given ⟨rfl, hclient⟩ -
    exact ⟨rfl, hclient⟩
  refine sync_stage point plan.source.gives_anything hread (fun given s hs => ⟨given, hs.1⟩)
    (fun delivery s _ hs => ⟨some delivery, hs.1⟩) fun delivery input _ => ?_
  exact (write_reads input).weaken (fun _ hs => hs) (fun _ _ hs => ⟨some delivery, hs⟩) fun _ hs => ⟨some delivery, hs⟩

/-! ## 2. The start of the record -/

/-- The recorder, if there is one, answers the start of a round. -/
def Plan.StartsRecord (plan : Plan ρ) : Prop :=
  ∀ recorder, plan.recorder = some recorder →
    Effect.Leads (fun _ => True) (recorder.start plan.config.targetTable) (fun _ _ => True) fun _ _ => False

/-- A step outside the store that cannot fail. -/
theorem Stage.ofRest {A : Scene τ ρ → Prop} {step : Effect ρ α}
    (h : Effect.Leads (fun _ => True) step (fun _ _ => True) fun _ _ => False) :
    Stage A (Coordinator.outside (Site.inRest step)) (fun _ => A) fun _ => False := by
  refine Effect.Leads.within fun state hs => Effect.Leads.within fun site hsite => ?_
  subst hsite
  exact h.weaken (fun _ _ => trivial) (fun _ _ _ => hs) fun _ _ hnever => hnever

theorem recordStart_sure {A : Scene τ ρ → Prop} (hplan : plan.StartsRecord) :
    Stage A (plan.round inner).recordStart (fun _ => A) fun _ => False :=
  recordStart_of_recorder fun trail htrail => Stage.ofRest (hplan trail htrail)

/-! ## 3. What it finds -/

theorem Warehouse.openMetadata_sure {clients : List ClientRecord} {P : Store → Prop} {basePath : String}
    {shell : TableShell} (htable : ∀ s, P s → s.table? basePath = some shell) :
    Effect.Leads (Holds clients P) (openMetadata basePath)
      (fun metadata => Holds clients fun s => metadata.timeline = s.timelineOf basePath shell.tableType ∧ P s)
      fun _ => Holds clients fun _ => False := by
  intro w hw
  refine .inl ⟨⟨shell.tableName, shell.tableType, w.state.store.timelineOf basePath shell.tableType⟩, w, ?_,
    hw.1, rfl, hw.2⟩
  show (w.state.store.openMetadata basePath w.now, w) = _
  rw [Store.openMetadata, htable _ hw.2]

section Finds

variable {base : Scene Exposed ρ} {shell : TableShell} {latest : InstantRow} {found : Option String}

/-- The scene is as it was, but for incidents that are past. -/
def Unchanged (base : Scene Exposed ρ) : Scene Exposed ρ → Prop :=
  At base (base.inner.Still True fun s => s = base.store)

/-- An operation that cannot fail by its own rules cannot fail on a calm store. -/
theorem Stage.ofCalm {P : Store → Prop} {Q : α → Store → Prop} {step : Effect Warehouse α}
    (h : Effect.Leads (Warehouse.Holds base.inner.warehouse.clients P) step
      (fun a => Warehouse.Holds base.inner.warehouse.clients (Q a))
      fun _ => Warehouse.Holds base.inner.warehouse.clients fun _ => False) :
    Stage (At base (base.inner.Still True P)) (Coordinator.outside (Site.inInner (Exposed.operate step)))
      (fun a => At base (base.inner.Still True (Q a))) fun _ => False := by
  refine (Stage.ofStore (Exposed.operate_leads h fun hbroken => absurd trivial hbroken)).weaken (fun _ hs => hs)
    (fun _ _ hs => hs) ?_
  rintro s ⟨t, -, ht⟩
  exact ht.warehouse.2

theorem refreshTimeline_sure (htable : base.store.table? plan.config.targetBasePath = some shell) :
    Stage (Unchanged base) (plan.round Exposed.tableStore).refreshTimeline
      (fun timeline s => timeline = some (base.store.timelineOf plan.config.targetBasePath shell.tableType) ∧
        Unchanged base s) fun _ => False := by
  refine refreshTimeline_stage plan Exposed.tableStore (Stage.ofCalm (Warehouse.metadataExists_leads _)) ?_ ?_
  · have hknown : ∀ s, true = s.hasTable plan.config.targetBasePath ∧ s = base.store →
        s.table? plan.config.targetBasePath = some shell := by
      rintro s ⟨-, rfl⟩
      exact htable
    refine (Stage.ofCalm (Warehouse.openMetadata_sure hknown)).weaken (fun _ hs => hs) ?_ fun _ hs => hs
    rintro metadata s ⟨t, rfl, ht⟩
    obtain ⟨htimeline, -, hstore⟩ := ht.warehouse.2
    exact ⟨by rw [htimeline, hstore], t, rfl, ht.mono fun _ hs => hs.2.2⟩
  · rintro w ⟨t, -, ht⟩
    obtain ⟨habsent, hstore⟩ := ht.warehouse.2
    rw [hstore, Store.hasTable, htable] at habsent
    cases habsent

theorem resolve_leads {σ : Type} {P : σ → Prop} (timeline : Option Timeline) (override : Option String) :
    Effect.Leads P (ResumePoint.resolve timeline override)
      (fun point s => (∃ now, ResumePoint.ofTimeline timeline override now = .ok point) ∧ P s)
      fun failure s => (∃ now, ResumePoint.ofTimeline timeline override now = .error failure) ∧ P s := by
  refine Effect.leads_now.bind fun now => ?_
  refine ((Effect.leads_ofExcept _).weaken (fun _ hs => hs) (fun _ _ hs => hs)
    fun _ _ hs => ⟨⟨now, hs.1⟩, hs.2⟩).bind fun point => ?_
  exact (Effect.leads_log _ _ _).bind fun _ => Effect.leads_pure fun _ hs => ⟨⟨now, hs.1⟩, hs.2⟩

/-- The round goes on from the checkpoint that was found, in a scene that is as it was. -/
def GoesOnFrom (base : Scene Exposed ρ) (found : Option String) (point : ResumePoint) (s : Scene Exposed ρ) : Prop :=
  (∃ checkpoint, found = some checkpoint ∧ point.value = some checkpoint) ∧ Unchanged base s

/-- No checkpoint was found, and the failure says so, in a scene that is as it was. -/
def FindsNothing (base : Scene Exposed ρ) (found : Option String) (failure : Failure) (s : Scene Exposed ρ) : Prop :=
  (found = none ∧ failure.isOf (.fault .missingCheckpoint) = true) ∧ Unchanged base s

/-- The source was called once more, with the checkpoint that was found. -/
def AsksOnce (base : Scene Exposed ρ) (found : Option String) (s : Scene Exposed ρ) : Prop :=
  ∃ checkpoint, found = some checkpoint ∧ ∃ given, s.reads = base.reads ++ [⟨some checkpoint, given⟩]

/-- **The latest commit and the override decide where a round resumes**, and if there is no such place, the round finds
out. -/
theorem resumePoint_leads (base : Scene Exposed ρ) (htable : base.store.table? plan.config.targetBasePath = some shell)
    (hapart : base.store.TimesApart plan.config.targetBasePath)
    (hlatest : base.store.LatestCommit plan.config.targetBasePath shell.tableType latest)
    (hfound : ResumePoint.fromCommit? latest.metadata plan.config.checkpoint = found) :
    Effect.Leads (fun state => Unchanged base state.scene) (plan.round Exposed.tableStore).resumePoint
      (fun point state => GoesOnFrom base found point state.scene)
      fun failure state => FindsNothing base found failure state.scene := by
  subst hfound
  refine (Effect.Leads.sure (refreshTimeline_sure htable)).bind fun timeline => Effect.leads_of_fact ?_
  rintro rfl
  refine (resolve_leads _ _).weaken (fun _ hs => hs) ?_ ?_
  · rintro point state ⟨⟨now, hpoint⟩, hs⟩
    refine ⟨?_, hs⟩
    rcases hapart.ofTimeline_latest hlatest plan.config.checkpoint now with ⟨checkpoint, hfrom, hok⟩ | ⟨-, herror⟩
    · cases hok.symm.trans hpoint
      exact ⟨checkpoint, hfrom, rfl⟩
    · cases herror.symm.trans hpoint
  · rintro failure state ⟨⟨now, hfailure⟩, hs⟩
    refine ⟨?_, hs⟩
    rcases hapart.ofTimeline_latest hlatest plan.config.checkpoint now with ⟨checkpoint, -, hok⟩ | ⟨hfrom, herror⟩
    · cases hok.symm.trans hfailure
    · cases herror.symm.trans hfailure
      exact ⟨hfrom, rfl⟩

theorem sync_asksOnce (point : ResumePoint)
    (hclient : ∀ client, base.client = some client → ∃ own, client = Site.client own) :
    Stage (GoesOnFrom base found point) ((plan.round Exposed.tableStore).sync point) (fun _ => AsksOnce base found)
      (AsksOnce base found) := by
  refine Stage.of_fact ?_
  rintro ⟨checkpoint, hfound, hvalue⟩
  refine sync_asks_once.weaken (A := Scene.HasRead base.reads) ?_ ?_ ?_
  · rintro s ⟨t, rfl, -⟩
    exact ⟨rfl, hclient⟩
  · rintro _ s ⟨given, hreads⟩
    exact ⟨checkpoint, hfound, given, hvalue ▸ hreads⟩
  · rintro s ⟨given, hreads⟩
    exact ⟨checkpoint, hfound, given, hvalue ▸ hreads⟩

/-- A round on a table with a latest commit calls the source once, or ends as nothing was found. -/
theorem run_asksOnce (base : Scene Exposed ρ) (hrecord : plan.StartsRecord)
    (hclient : ∀ client, base.client = some client → ∃ own, client = Site.client own)
    (htable : base.store.table? plan.config.targetBasePath = some shell)
    (hapart : base.store.TimesApart plan.config.targetBasePath)
    (hlatest : base.store.LatestCommit plan.config.targetBasePath shell.tableType latest)
    (hfound : ResumePoint.fromCommit? latest.metadata plan.config.checkpoint = found) :
    Effect.Leads (fun state => Unchanged base state.scene) (plan.round Exposed.tableStore).run
      (fun _ state => AsksOnce base found state.scene)
      fun failure state => FindsNothing base found failure state.scene ∨ AsksOnce base found state.scene := by
  have hresume := resumePoint_leads base htable hapart hlatest hfound
  refine run_ends (R := GoesOnFrom base found)
    (E := fun failure s => FindsNothing base found failure s ∨ AsksOnce base found s)
    (Effect.Leads.sure (recordStart_sure hrecord)) ?_ fun point => ?_
  · exact hresume.weaken (fun _ hs => hs) (fun _ _ hs => hs) fun _ _ hs => .inl hs
  · exact Effect.Leads.weaken (sync_asksOnce point hclient) (fun _ hs => hs) (fun _ _ hs => hs) fun _ _ hs => .inr hs

end Finds

/-! ## 4. A round on a table with history -/

namespace RoundWorld

/-- The store is another one. -/
def withStore (w : RoundWorld ρ) (store : Store) : RoundWorld ρ :=
  w.withWarehouse { w.state.outside.inner.warehouse with store }

/-- A round ended as nothing says where to resume, and did not call the source. -/
structure Refused (w : RoundWorld ρ) (outcome : Except Failure RoundResult) (w' : RoundWorld ρ) : Prop where
  missing : ∃ failure, outcome = .error failure ∧ failure.isOf (.fault .missingCheckpoint) = true
  unread : w'.reads = w.reads

/-- The source was called once, with a checkpoint. -/
def Asked (w : RoundWorld ρ) (checkpoint : String) (w' : RoundWorld ρ) : Prop :=
  ∃ given, w'.reads = w.reads ++ [⟨some checkpoint, given⟩]

end RoundWorld

section History

variable {w w' : RoundWorld ρ} {outcome : Except Failure RoundResult} {shell : TableShell} {latest : InstantRow}
variable {checkpoint : String}

theorem RoundWorld.Asked.not_refused (h : w.Asked checkpoint w') : ¬ w.Refused outcome w' := by
  obtain ⟨given, hreads⟩ := h
  intro hrefused
  have hunread := hrefused.unread
  rw [hreads] at hunread
  simp at hunread

theorem RoundWorld.Asked.eq {other : String} (h : w.Asked checkpoint w') (h' : w.Asked other w') :
    checkpoint = other := by
  obtain ⟨given, hreads⟩ := h
  obtain ⟨given', hreads'⟩ := h'
  rw [hreads] at hreads'
  have hread := List.append_cancel_left hreads'
  cases hread
  rfl

/-- What a round needs to get as far as its source: a store none of whose operations fails by itself, a recorder that
answers, and a write client, if there is one already, that is one of a store. -/
structure Plan.Begins (plan : Plan ρ) (w : RoundWorld ρ) : Prop where
  calm : w.state.outside.inner.Calm
  record : plan.StartsRecord
  client : ∀ client, w.state.client = some client → ∃ own, client = Site.client own

/-- What the latest commit gives is what the source is asked from; if it gives nothing, the round is refused. -/
theorem Plan.Begins.run (hbegins : plan.Begins w) (htable : w.store.table? plan.config.targetBasePath = some shell)
    (hapart : w.store.TimesApart plan.config.targetBasePath)
    (hlatest : w.store.LatestCommit plan.config.targetBasePath shell.tableType latest)
    (hrun : (plan.round Exposed.tableStore).run.runIn w = (outcome, w')) :
    (∃ checkpoint, ResumePoint.fromCommit? latest.metadata plan.config.checkpoint = some checkpoint ∧
      w.Asked checkpoint w') ∨
      ResumePoint.fromCommit? latest.metadata plan.config.checkpoint = none ∧ w.Refused outcome w' := by
  have hstart : Unchanged w.state.scene w.state.scene := ⟨_, rfl, fun _ => hbegins.calm, rfl, rfl, rfl⟩
  have hends := run_asksOnce w.state.scene hbegins.record hbegins.client htable hapart hlatest rfl
  rcases hends.of_run hstart hrun with
    ⟨result, rfl, hasked⟩ | ⟨failure, rfl, ⟨⟨hnone, hkind⟩, t, hscene, -⟩ | hasked⟩
  · exact .inl hasked
  · have hunread : w'.state.scene.reads = w.state.scene.reads := by rw [hscene]
    exact .inr ⟨hnone, ⟨failure, rfl, hkind⟩, hunread⟩
  · exact .inl hasked

/-- Both ways in which such a round begins, by what the latest commit and the override give. -/
theorem Plan.Begins.run_iff (hbegins : plan.Begins w) (htable : w.store.table? plan.config.targetBasePath = some shell)
    (hapart : w.store.TimesApart plan.config.targetBasePath)
    (hlatest : w.store.LatestCommit plan.config.targetBasePath shell.tableType latest)
    (hrun : (plan.round Exposed.tableStore).run.runIn w = (outcome, w')) :
    (w.Refused outcome w' ↔ ResumePoint.fromCommit? latest.metadata plan.config.checkpoint = none) ∧
      ∀ checkpoint, w.Asked checkpoint w' ↔
        ResumePoint.fromCommit? latest.metadata plan.config.checkpoint = some checkpoint := by
  rcases hbegins.run htable hapart hlatest hrun with ⟨found, hfound, hasked⟩ | ⟨hnone, hrefused⟩
  · rw [hfound]
    refine ⟨iff_of_false hasked.not_refused nofun, fun checkpoint => ⟨fun h => congrArg some (hasked.eq h), ?_⟩⟩
    rintro ⟨⟩
    exact hasked
  · rw [hnone]
    exact ⟨iff_of_true hrefused rfl, fun checkpoint => iff_of_false (fun h => h.not_refused hrefused) nofun⟩

/-- **A table with history is never read from scratch.** The table is registered and has a completed commit of its type;
its instants are in any order and have any metadata, but no two of them one time. The round begins on a calm store, with
any override. It either calls the source once, with a checkpoint, or is refused before it calls it. It is refused if
and only if the latest commit has no checkpoint and there is no override or the commit has it as its reset marker. With
other metadata at all other instants the same happens: a round is refused if this one is, and asks from where this one
asks. -/
theorem Plan.Begins.never_from_scratch (hbegins : plan.Begins w)
    (htable : w.store.table? plan.config.targetBasePath = some shell)
    (hapart : w.store.TimesApart plan.config.targetBasePath)
    (hhistory : ∃ row ∈ w.store.instantsOf plan.config.targetBasePath, row.isCommitOf shell.tableType = true) :
    ∃ latest, w.store.LatestCommit plan.config.targetBasePath shell.tableType latest ∧
      ∀ outcome w', (plan.round Exposed.tableStore).run.runIn w = (outcome, w') →
        (w.Refused outcome w' ∨ ∃ checkpoint, w.Asked checkpoint w') ∧
        (w.Refused outcome w' ↔ latest.metadata.get? checkpointKey = none ∧
          ∀ override, plan.config.checkpoint = some override → latest.metadata.get? resetMarkerKey = some override) ∧
        ∀ change v, v = w.withStore (w.store.reworded latest change) →
          ∀ outcome' v', (plan.round Exposed.tableStore).run.runIn v = (outcome', v') →
            (v.Refused outcome' v' ↔ w.Refused outcome w') ∧
              ∀ checkpoint, v.Asked checkpoint v' ↔ w.Asked checkpoint w' := by
  obtain ⟨latest, hlatest⟩ := Store.exists_latestCommit hhistory
  refine ⟨latest, hlatest, fun outcome w' hrun => ?_⟩
  obtain ⟨hrefused, hasked⟩ := hbegins.run_iff htable hapart hlatest hrun
  refine ⟨?_, hrefused.trans ResumePoint.fromCommit?_eq_none, ?_⟩
  · cases hfound : ResumePoint.fromCommit? latest.metadata plan.config.checkpoint with
    | none => exact .inl (hrefused.2 hfound)
    | some checkpoint => exact .inr ⟨checkpoint, (hasked checkpoint).2 hfound⟩
  · rintro change v rfl outcome' v' hother
    have hbegins' : plan.Begins (w.withStore (w.store.reworded latest change)) :=
      ⟨hbegins.calm, hbegins.record, hbegins.client⟩
    obtain ⟨hrefused', hasked'⟩ := hbegins'.run_iff htable hapart.reworded hlatest.reworded hother
    exact ⟨hrefused'.trans hrefused.symm, fun checkpoint => (hasked' checkpoint).trans (hasked checkpoint).symm⟩

end History

/-! ## 5. A history that others wrote -/

/-- The last commit of others, without metadata. -/
def foreignCommit : InstantRow :=
  { basePath := "/t/events", time := "20250103000000000", action := .deltaCommit, state := .completed }

def foreignShell : TableShell :=
  { basePath := "/t/events", tableName := "events", tableType := .mergeOnRead, payloadClass := "P" }

/-- A table whose last commit comes first among its instants. Of the others that have a checkpoint one is older, one has
another action and one is not completed. -/
def foreignStore : Store where
  tables := [foreignShell]
  instants := [foreignCommit,
    { foreignCommit with time := "20250101000000000", extra := some [(checkpointKey, "7")] },
    { foreignCommit with time := "20250104000000000", action := .commit, extra := some [(checkpointKey, "8")] },
    { foreignCommit with time := "20250105000000000", state := .inflight, extra := some [(checkpointKey, "9")] }]

def foreignWorld : RoundWorld Unit := sampleWorld.withStore foreignStore

/-- The sample plan is refused on the table of others, although instants before and after the last commit have
checkpoints. -/
theorem foreignWorld_refused : samplePlan.Begins foreignWorld ∧
    foreignWorld.store.table? "/t/events" = some foreignShell ∧ foreignWorld.store.TimesApart "/t/events" ∧
    (∃ row ∈ foreignWorld.store.instantsOf "/t/events", row.isCommitOf .mergeOnRead = true) ∧
    ∀ outcome w', (samplePlan.round Exposed.tableStore).run.runIn foreignWorld = (outcome, w') →
      foreignWorld.Refused outcome w' := by
  have hbegins : samplePlan.Begins foreignWorld := by
    constructor
    · intro failure hmem
      cases hmem
    · intro recorder hrecorder
      cases hrecorder
    · intro client hclient
      cases hclient
  have htable : foreignWorld.store.table? "/t/events" = some foreignShell := rfl
  have hapart : foreignWorld.store.TimesApart "/t/events" := by
    unfold Store.TimesApart
    decide
  have hhistory : ∃ row ∈ foreignWorld.store.instantsOf "/t/events", row.isCommitOf .mergeOnRead = true :=
    ⟨foreignCommit, by decide, rfl⟩
  refine ⟨hbegins, htable, hapart, hhistory, fun outcome w' hrun => ?_⟩
  obtain ⟨latest, hlatest, hall⟩ := hbegins.never_from_scratch htable hapart hhistory
  have hforeign : foreignWorld.store.LatestCommit "/t/events" .mergeOnRead foreignCommit := ⟨by decide, rfl, by decide⟩
  have hsame : latest = foreignCommit :=
    Option.some_inj.1 ((hlatest.lastCommit? hapart).symm.trans (hforeign.lastCommit? hapart))
  exact (hall outcome w' hrun).2.1.2 ⟨by rw [hsame]; rfl, nofun⟩

end TableSync
