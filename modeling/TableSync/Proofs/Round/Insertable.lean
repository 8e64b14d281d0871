/-
  TableSync/Proofs/Round/Insertable.lean
  ======================================
  **A filtered batch can be inserted** — if no record key names two partitions.

  A round that filters duplicates inserts, and its write client filters once
  more.  Both know a record by its key and its partition, the examination by
  its key alone.  They agree on batches in which no record key occurs in two
  partitions (`Plan.filtered_batch_insertable`), and such a batch is committed if
  the database takes it.  On others they do not: the
  filter lets both records pass, the examination refuses the second, and the
  round rolls back what it staged (`moved_batch_refused`).
-/
import TableSync.Proofs.Record.Once
import TableSync.Proofs.Round.Course
import TableSync.Proofs.Round.Sure

namespace TableSync

open Store Dedup

variable {ρ : Type} {plan : Plan ρ} {records once : List PreparedRecord}

/-! ## 1. What is examined -/

theorem SyncConfig.effective_inserts {config : SyncConfig} (h : config.filterDupes = true) :
    config.effective.operation ≠ .upsert := by
  unfold SyncConfig.effective
  split
  next => simp
  next hkeeps =>
    intro hupsert
    exact hkeeps (by simp [SyncConfig.dedupReplacesMerge, h, hupsert])

/-- What the examination of a batch is handed by a round that filters duplicates, and by its write client. -/
structure Plan.HandsOver (plan : Plan ρ) (records once : List PreparedRecord) : Prop where
  inserts : plan.config.effective.operation ≠ .upsert
  filtered : ∀ w : RoundWorld ρ, ∃ log,
    ((plan.round Exposed.tableStore).withoutDuplicates records).runIn w = (.ok once, { w with log })
  examined : ∀ (w w' : World Warehouse) (id : Warehouse.ClientId) (known : ClientRecord) (time : String)
    (outcome : WriteOutcome), w.state.clients[id]? = some known →
    (Warehouse.write id plan.config.effective.operation once (some time)).runIn w = (.ok outcome, w') →
    outcome = outcomeOf (w.state.store.examined known.config plan.config.effective.operation once)

theorem Plan.filter_eq (hfilter : plan.config.filterDupes = true) (honce : Once records once) (now : Timestamp) :
    if plan.config.filterDupes && !records.isEmpty then keep records now = .ok once else once = records := by
  split
  next => exact honce.kept now
  next hkeeps =>
    have hnil : records = [] := by simpa [hfilter] using hkeeps
    subst hnil
    exact List.eq_nil_of_subset_nil honce.subset

/-- A write client of the round keeps what was filtered already. -/
theorem Dedup.Once.combines {config : WriteConfig} (honce : Once records once) (operation : WriteOperation) :
    config.Combines operation once once := by
  intro now
  split
  next => exact honce.again now
  next => rfl

theorem Plan.hands_over (hfilter : plan.config.filterDupes = true) (honce : Once records once) :
    plan.HandsOver records once where
  inserts := SyncConfig.effective_inserts hfilter
  filtered w := by
    have hkept := plan.filter_eq hfilter honce w.now
    unfold Round.withoutDuplicates
    split
    next hfilters => exact Dedup.run_runIn ((if_pos hfilters).mp hkept)
    next hkeeps => exact ⟨w.log, by rw [(if_neg hkeeps).mp hkept]; rfl⟩
  examined w w' id known time outcome hknown hrun := by
    have hleads : Effect.Leads (Warehouse.Holds w.state.clients fun s => s = w.state.store)
        (Warehouse.write id plan.config.effective.operation once (some time))
        (fun outcome => Warehouse.Holds w.state.clients fun _ =>
          outcome = outcomeOf (w.state.store.examined known.config plan.config.effective.operation once))
        (fun _ => Warehouse.Holds w.state.clients fun _ => True) := by
      refine Warehouse.write_leads (fun _ _ => trivial) ?_
      rintro found _ batch now outcome changed hfound - ⟨combined, rfl, hcombined⟩ rfl hstage
      obtain rfl : known = found := Option.some.inj (hknown.symm.trans hfound)
      have hsame : combined = once := by
        split at hcombined
        next =>
          obtain ⟨then', hthen⟩ := hcombined
          exact Except.ok.inj (hthen.symm.trans (honce.again then'))
        next => exact hcombined
      rw [(Store.stage_outcome hstage).2, hsame]
      rfl
    exact (hleads.of_ok ⟨rfl, rfl⟩ hrun).2

theorem Dedup.Once.arranged_nodup (honce : Once records once) (hone : OnePartition records) (operation : WriteOperation) :
    ((arranged operation once).map (·.key.recordKey)).Nodup := by
  have hone' : OnePartition once := fun record hrecord other hother =>
    hone record (honce.subset hrecord) other (honce.subset hother)
  exact ((arranged_perm operation once).map _).nodup_iff.mpr (hone'.nodup honce.distinct)

/-! ## 2. At the write -/

/-- In a course the write of a round finds a lawful store. -/
theorem Course.reaches {allowed : Plan ρ → Prop} {shared : Prop} {history : List RoundRecord} {w ready : RoundWorld ρ}
    {point : ResumePoint} {input : RoundInput} (h : Course allowed shared history plan w)
    (hreaches : (plan.round Exposed.tableStore).Reaches w point input ready) :
    ready.store.Lawful := by
  obtain ⟨hlawful, hattached⟩ := h.sound
  obtain ⟨handle, started, resumed, read, hstart, hresume, hread, hprepare⟩ := hreaches
  have hstarted : started.state.scene = w.state.scene :=
    Effect.Leads.of_ok (recordStart_stage (A := fun s => s = w.state.scene) (E := fun _ => True) fun _ _ => trivial)
      rfl hstart
  have hresume' : Stage (fun s => s = w.state.scene) (plan.round Exposed.tableStore).resumePoint
      (fun point => At w.state.scene (w.state.scene.inner.Still False (Resumes plan.config w.state.scene.store point)))
      (At w.state.scene (w.state.scene.inner.Still False (Opened plan.config w.state.scene.store))) :=
    resume_account False.elim
  have hresumed := Effect.Leads.of_ok hresume' hstarted hresume
  have hgave : ∀ s given, At w.state.scene (w.state.scene.inner.Still False
        (Resumes plan.config w.state.scene.store point)) s →
      (∀ delivery, given = some delivery → True) →
      AfterRead plan (fun _ _ => True) False w.state.scene point given
        { s with reads := s.reads ++ [⟨point.value, given⟩] } := by
    rintro s given ⟨t, rfl, ht⟩ hgiven
    exact ⟨hgiven, t, rfl, ht⟩
  obtain ⟨delivery, -, hafter⟩ := Effect.Leads.of_ok
    (read_stage plan Exposed.tableStore plan.source.gives_anything hgave) hresumed hread
  obtain ⟨opened, id, known, clients, hready⟩ := Effect.Leads.of_ok (prepare_account hattached input.provider)
    hafter hprepare
  have hstore : ready.store = opened := hready.inner.warehouse.2
  exact hstore ▸ hready.resumes.opened.lawful hlawful

/-- **A filtered batch can be inserted.** -/
theorem Plan.filtered_batch_insertable (hfilter : plan.config.filterDupes = true) (hordered : Ordered records)
    (hone : OnePartition records) : ∃ once, Once records once ∧ plan.HandsOver records once ∧
    ((arranged plan.config.effective.operation once).map (·.key.recordKey)).Nodup ∧
    (∀ (store : Store) (config : WriteConfig),
      ∀ entry ∈ store.examined config plan.config.effective.operation once, entry.2 ≠ some inBatch) ∧
    ∀ {allowed : Plan ρ → Prop} {shared : Prop} {history : List RoundRecord} {w ready : RoundWorld ρ}
      {point : ResumePoint} {input : RoundInput} {known : ClientRecord},
      Course allowed shared history plan w → (plan.round Exposed.tableStore).Reaches w point input ready →
      input.records = records → Poised (fun t => t) Exposed.writer ready.state.scene known →
      (∀ record ∈ records, missingFields known.config.requiredFields record.payload = [] ∧
        ready.store.hasKey known.config.basePath record.key.recordKey = false) →
      ready.store.TakesAll known.config plan.config.effective.operation once
        (Coordinator.commitMetadata input.checkpoint point.resetMarker) →
      ∃ result time outcome w', (plan.round Exposed.tableStore).run.runIn w = (.ok result, w') ∧
        result.Commits input.checkpoint time once ∧
        ready.store.Wrote known.config plan.config.effective.operation once
          (Coordinator.commitMetadata input.checkpoint point.resetMarker) time outcome (RoundWorld.store w') := by
  obtain ⟨once, honce⟩ := hordered.once
  have hnodup := honce.arranged_nodup hone plan.config.effective.operation
  refine ⟨once, honce, plan.hands_over hfilter honce, hnodup, fun store config => examine_distinct hnodup, ?_⟩
  rintro allowed shared history w ready point input known hcourse hreaches rfl hpoised hnew htakes
  have hsubset : ∀ record ∈ arranged plan.config.effective.operation once, record ∈ input.records :=
    fun record hrecord => honce.subset ((arranged_perm _ _).mem_iff.mp hrecord)
  have hclean : ∀ entry ∈ ready.store.examined known.config plan.config.effective.operation once, entry.2 = none :=
    examine_insertable (fun record hrecord => (hnew record (hsubset record hrecord)).1)
      (fun record hrecord => (hnew record (hsubset record hrecord)).2) hnodup
  obtain ⟨id, hclient, hknown⟩ := hpoised.client
  have hwrite : Stage (fun s => s = ready.state.scene) ((plan.round Exposed.tableStore).write point input)
      (fun result s => ∃ time outcome, result.Commits input.checkpoint time once ∧
        ready.store.Wrote known.config plan.config.effective.operation once
          (Coordinator.commitMetadata input.checkpoint point.resetMarker) time outcome s.inner.warehouse.store)
      fun _ => ¬(Poised (fun t => t) Exposed.writer ready.state.scene known ∧
        ready.store.TakesAll known.config plan.config.effective.operation once
          (Coordinator.commitMetadata input.checkpoint point.resetMarker)) :=
    exposed_houses.round_stage (hcourse.reaches hreaches) hclient hknown
      (plan.filter_eq hfilter honce) (honce.combines _) hclean
  have hreturns := hwrite.weaken (fun _ hs => hs) (fun _ _ hs => hs) fun _ hbroken => hbroken ⟨hpoised, htakes⟩
  obtain ⟨result, last, hrun, time, outcome, hcommits, hwrote⟩ := Effect.Leads.returns hreturns rfl
  have hclient : ready.state.client.isSome = true := by
    have hsame : ready.state.client = some (Site.client (Exposed.writer id known.config)) := hclient
    rw [hsame]
    rfl
  obtain ⟨w', hlast, hscene⟩ := hreaches.run hclient hrun
  refine ⟨result, time, outcome, w', hlast, hcommits, ?_⟩
  have hstore : RoundWorld.store w' = RoundWorld.store last := congrArg Scene.store hscene
  rw [hstore]
  exact hwrote

/-! ## 3. Two updates of one record -/

def updateOfA (region : String) (ts : Int) : Record := [("id", .text "a"), ("region", .text region), ("ts", .int ts)]

/-- The sample plan on a source of two updates, with a filter and with the regions as partitions. -/
def twoUpdatesPlan (region : String) : Plan Unit where
  config := { samplePlan.config with filterDupes := true }
  source := .records fun asked _ =>
    if asked = some "2" then pure ⟨none, asked, none⟩
    else pure ⟨some [updateOfA "eu" 1, updateOfA region 2], some "2", none⟩
  keyOf := (KeyGenerator.simple "id" (some "region")).key

def twoUpdates (region : String) : List PreparedRecord :=
  [⟨⟨"a", "eu"⟩, .int 1, updateOfA "eu" 1⟩, ⟨⟨"a", region⟩, .int 2, updateOfA region 2⟩]

/-- A blank store, the first operations of which nothing breaks. -/
def calmWorld : RoundWorld Unit :=
  sampleWorld.drifted sampleWorld.now [] [] (List.replicate 3 (.passes sampleWorld.now)) ()

theorem twoUpdates_course (region : String) : Course (fun _ => True) False [] (twoUpdatesPlan region) calmWorld := by
  have hsetUp : ((twoUpdatesPlan region).setUp Exposed.tableStore).runIn sampleWorld = (.ok (), sampleWorld) := rfl
  exact .drifted _ _ _ _ _ (.opened trivial ⟨rfl, rfl, rfl⟩ hsetUp)

theorem twoUpdates_ordered (region : String) : Ordered (twoUpdates region) := by
  have hint : ∀ record ∈ twoUpdates region, ∃ n, record.ordering = .int n := by
    simp [twoUpdates]
  intro candidate hcandidate current hcurrent _
  obtain ⟨m, hm⟩ := hint candidate hcandidate
  obtain ⟨n, hn⟩ := hint current hcurrent
  rw [hm, hn]
  exact .inr (.inr rfl)

/-- The plan reads the two updates, and nothing stands in the way of its first commit. -/
structure ReadsUpdates (region : String) (point : ResumePoint) (input : RoundInput) (ready : RoundWorld Unit)
    (known : ClientRecord) : Prop where
  reaches : ((twoUpdatesPlan region).round Exposed.tableStore).Reaches calmWorld point input ready
  records : input.records = twoUpdates region
  poised : Poised (fun t => t) Exposed.writer ready.state.scene known
  fits : ∀ record ∈ twoUpdates region, missingFields known.config.requiredFields record.payload = [] ∧
    (RoundWorld.store ready).hasKey known.config.basePath record.key.recordKey = false
  taken : (RoundWorld.store ready).TakesAll known.config (twoUpdatesPlan region).config.effective.operation
    [⟨⟨"a", region⟩, .int 2, updateOfA region 2⟩] (Coordinator.commitMetadata input.checkpoint point.resetMarker)

theorem twoUpdates_read {region : String} (h : region = "eu" ∨ region = "us") :
    ∃ point input ready known, ReadsUpdates region point input ready known := by
  rcases h with rfl | rfl
  all_goals
    refine ⟨_, _, _, { config := _ }, ⟨_, _, _, _, rfl, rfl, rfl, rfl⟩, rfl,
      ⟨⟨0, rfl, rfl⟩, rfl, ?_, _, _, rfl, rfl, ?_⟩, ?_, takes_iff.mpr rfl, rfl⟩
    · intro failure hfails
      exact nomatch List.mem_singleton.mp hfails
    · intro latest hlatest
      cases hlatest
    · exact fun record _ => ⟨rfl, rfl⟩

/-- Two updates of one record in one partition are inserted as one. -/
theorem sample_filtered_batch_insertable : ∃ result w',
    ((twoUpdatesPlan "eu").round Exposed.tableStore).run.runIn calmWorld = (.ok result, w') ∧
    result.status = .committed ∧ result.totalRecords = 1 ∧ result.totalErrorRecords = 0 := by
  obtain ⟨point, input, ready, known, hread⟩ := twoUpdates_read (.inl rfl)
  have hone : OnePartition (twoUpdates "eu") := by
    simp [OnePartition, twoUpdates]
  obtain ⟨once, honce, -, -, -, hcommits⟩ :=
    (twoUpdatesPlan "eu").filtered_batch_insertable rfl (twoUpdates_ordered "eu") hone
  have hnewest : once = [⟨⟨"a", "eu"⟩, .int 2, updateOfA "eu" 2⟩] :=
    Except.ok.inj ((honce.kept ⟨0⟩).symm.trans rfl)
  obtain ⟨result, time, outcome, w', hrun, hresult, -⟩ :=
    hcommits (twoUpdates_course "eu") hread.reaches hread.records hread.poised hread.fits (hnewest ▸ hread.taken)
  have htotal : result.totalRecords = 1 := by rw [hresult.totalRecords, hnewest]; rfl
  exact ⟨result, w', hrun, hresult.status, htotal, hresult.totalErrorRecords⟩

/-- Two updates of one record in two partitions are not: the second is refused, and the round fails. -/
theorem moved_batch_refused : ¬∀ (plan : Plan Unit) (history : List RoundRecord) (w ready : RoundWorld Unit)
    (point : ResumePoint) (input : RoundInput) (known : ClientRecord), plan.config.filterDupes = true →
    Course (fun _ => True) False history plan w → (plan.round Exposed.tableStore).Reaches w point input ready →
    Ordered input.records → Poised (fun t => t) Exposed.writer ready.state.scene known →
    (∀ record ∈ input.records, missingFields known.config.requiredFields record.payload = [] ∧
      (RoundWorld.store ready).hasKey known.config.basePath record.key.recordKey = false) →
    ∃ result w', (plan.round Exposed.tableStore).run.runIn w = (.ok result, w') ∧ result.totalErrorRecords = 0 := by
  intro hclaim
  obtain ⟨point, input, ready, known, hread⟩ := twoUpdates_read (.inr rfl)
  have hrecords := hread.records
  obtain ⟨result, w', hrun, -⟩ := hclaim (twoUpdatesPlan "us") [] calmWorld ready point input known rfl
    (twoUpdates_course "us") hread.reaches (hrecords ▸ twoUpdates_ordered "us") hread.poised (hrecords ▸ hread.fits)
  have hfails : (((twoUpdatesPlan "us").round Exposed.tableStore).run.runIn calmWorld).1.toOption.isNone = true := by
    decide +kernel
  rw [hrun] at hfails
  cases hfails

end TableSync
