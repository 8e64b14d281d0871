/-
  TableSync/Proofs/Round/Sure.lean
  ================================
  **A batch of which nothing is refused** — committed, or not at all.

  The store is left alone.  Then the outcome of staging a batch is what the
  examination says, and a batch of which nothing is refused is committed
  (`Houses.round_stage`) unless the store breaks, a client does not start, or the
  columns do not take the batch or what is recorded with it: all of this is said
  by `clean`, the promise that it does not happen.
-/
import TableSync.Proofs.Round.Alone
import TableSync.Proofs.Store.Accounting

namespace TableSync

open Store

variable {ρ : Type} {clean : Prop} {clients : List ClientRecord} {ledger : List StagedRow} {before : Store}
variable {id : Warehouse.ClientId} {known : ClientRecord} {operation : WriteOperation} {time : String}
variable {records combined : List PreparedRecord}

/-! ## 1. The examination of a batch -/

/-- What the examination of a batch finds when it is staged by a client. -/
def Store.examined (store : Store) (config : WriteConfig) (operation : WriteOperation)
    (records : List PreparedRecord) : List (PreparedRecord × Option String) :=
  examine config.requiredFields operation (store.hasKey config.basePath) [] (arranged operation records)

def Store.writtenRows (store : Store) (config : WriteConfig) (operation : WriteOperation)
    (records : List PreparedRecord) (time : String) : List StagedRow :=
  store.stagedRows config operation (arranged operation records) time

/-- What a client stages of a batch: what is kept of it, if it combines before the operation. -/
def WriteConfig.Combines (config : WriteConfig) (operation : WriteOperation) (records combined : List PreparedRecord) :
    Prop :=
  ∀ now, if config.combinesBefore operation then Dedup.keep records now = .ok combined else combined = records

theorem length_examined (store : Store) (config : WriteConfig) :
    (store.examined config operation records).length = records.length := by
  have hfst := congrArg List.length
    (examine_fst config.requiredFields operation (store.hasKey config.basePath) [] (arranged operation records))
  rw [List.length_map] at hfst
  exact hfst.trans (arranged_perm operation records).length_eq

theorem Store.examined_nil (store : Store) (config : WriteConfig) : store.examined config operation [] = [] :=
  List.length_eq_zero_iff.mp (length_examined store config)

theorem Store.writtenRows_nil (store : Store) (config : WriteConfig) : store.writtenRows config operation [] time = [] := by
  rw [writtenRows, List.perm_nil.mp (arranged_perm operation [])]
  rfl

/-- The database takes a batch that a client stages, and what is recorded with its commit. -/
structure Store.TakesAll (store : Store) (config : WriteConfig) (operation : WriteOperation)
    (records : List PreparedRecord) (extra : Fields String) : Prop where
  batch : store.Takes config operation (arranged operation records)
  recorded : isRecordable config (outcomeOf (store.examined config operation records)) extra = true

/-- A batch of no records brings nothing to the columns but what is recorded with its commit. -/
theorem Store.takesAll_nil {store : Store} {config : WriteConfig} {extra : Fields String} :
    store.TakesAll config operation [] extra ↔ isRecordable config ⟨[]⟩ extra = true := by
  have hnothing : arranged operation [] = [] := List.perm_nil.mp (arranged_perm operation [])
  constructor
  · intro h
    have hrecorded := h.recorded
    rwa [Store.examined_nil] at hrecorded
  · intro h
    refine ⟨?_, ?_⟩
    · rw [hnothing]
      exact takes_iff.mpr (by simp [canLookUp, examine, accepted])
    · rw [Store.examined_nil]
      exact h

/-! ## 2. The calls of a client -/

/-- The clock is past every instant of a table that is registered. -/
def Store.IsPast (store : Store) (basePath : String) (now : Timestamp) : Prop :=
  store.hasTable basePath = true ∧ ∀ latest, store.latestTime? basePath = some latest → latest < now.instantTime

theorem Store.IsPast.startCommit {store : Store} {config : WriteConfig} {now : Timestamp}
    (h : store.IsPast config.basePath now) : ∃ after, store.startCommit config now = .ok (now.instantTime, after) := by
  unfold Store.startCommit Store.newInstant
  dsimp only
  split
  next latest hlatest => exact ⟨_, if_neg (not_le.mpr (h.2 latest hlatest))⟩
  next => exact ⟨_, if_pos h.1⟩

/-- The store is calm, and its next operation finds the clock past every instant of the table. -/
def Exposed.Starts (exposed : Exposed) (basePath : String) : Prop :=
  exposed.Calm ∧ ∃ now rest, exposed.incidents = .passes now :: rest ∧ exposed.warehouse.store.IsPast basePath now

theorem sure_start (hlawful : before.Lawful) (hknown : clients[id]? = some known) (hopen : clean → known.closed = false) :
    Effect.Leads (fun t => t.Holds clean clients ledger (fun s => s = before) ∧ (clean → t.Starts known.config.basePath))
      (Exposed.writer id known.config).startCommit
      (fun time => Exposed.Holds clean clients ledger fun s =>
        known.closed = false ∧ before.Pending known.config (known.config.newInstant time) [] s)
      (fun _ t => ¬clean ∧ t.Holds clean clients ledger fun s => s = before) := by
  by_cases hclean : clean
  · rintro w ⟨hw, hstarts⟩
    obtain ⟨-, now, rest, hincidents, hpast⟩ := hstarts hclean
    -- Its incident only moves the clock, to a moment at which the store accepts a new instant.
    let met : World Exposed := { w with now, state := { w.state with incidents := rest } }
    have hmeet : Exposed.meet.runIn w = (.ok (), met) := by
      have hstate : (Effect.state : Effect Exposed Exposed).runIn w = (.ok w.state, w) := rfl
      unfold Exposed.meet
      rw [Effect.runIn_bind_ok hstate, hincidents]
      rfl
    let inner : World Warehouse := { met with state := met.state.warehouse }
    have hclient : (Warehouse.openClient id).runIn inner = (.ok known.config, inner) := by
      have hopened := Warehouse.openClient_runIn (w := inner) (hw.warehouse.1 ▸ hknown)
      rwa [hopen hclean, if_neg (by decide)] at hopened
    have hstarts : ∃ after, inner.state.store.startCommit known.config inner.now = .ok (now.instantTime, after) := by
      have hfound : inner.state.store = before := hw.warehouse.2
      exact hfound ▸ hpast.startCommit
    obtain ⟨after, hafter⟩ := hstarts
    have hinner : (Warehouse.startCommit id).runIn inner =
        (.ok now.instantTime, { inner with state := { inner.state with store := after } }) := by
      have htransact := Warehouse.transact_runIn (fun store now => store.startCommit known.config now) inner
      rw [Warehouse.startCommit, Effect.runIn_bind_ok hclient, htransact, hafter]
    have hrun : ∃ w', (Exposed.writer id known.config).startCommit.runIn w = (.ok now.instantTime, w') := by
      show ∃ w', (Exposed.meet >>= fun _ => Exposed.inWarehouse (Warehouse.startCommit id)).runIn w = _
      rw [Effect.runIn_bind_ok hmeet]
      exact ⟨_, Effect.runIn_within hinner⟩
    obtain ⟨w', hrun⟩ := hrun
    exact .inl ⟨_, w', hrun, (alone_start hlawful hknown).of_ok hw hrun⟩
  · exact (alone_start hlawful hknown).weaken (fun _ ht => ht.1) (fun _ _ ht => ht) fun _ _ ht => ⟨hclean, ht⟩

/-- A write of an open client under its instant stages what the examination accepts. -/
theorem sure_write (hknown : clients[id]? = some known) (hcombined : known.config.Combines operation records combined)
    (htakes : clean → before.Takes known.config operation (arranged operation combined)) :
    Effect.Leads (Exposed.Holds clean clients ledger fun s =>
        known.closed = false ∧ before.Pending known.config (known.config.newInstant time) [] s)
      ((Exposed.writer id known.config).write operation records time)
      (fun outcome t => outcome = outcomeOf (before.examined known.config operation combined) ∧
        t.Holds clean clients (ledger ++ before.writtenRows known.config operation combined time) fun s =>
          known.closed = false ∧ before.Pending known.config (known.config.newInstant time)
            (before.writtenRows known.config operation combined time) s)
      (fun _ _ => ¬clean) := by
  have hstage : Effect.Leads
      (Warehouse.Holds clients fun s =>
        known.closed = false ∧ before.Pending known.config (known.config.newInstant time) [] s)
      (Warehouse.write id operation records (some time))
      (fun outcome => Warehouse.Holds clients fun s => ∃ rows, s.staged = before.staged ++ rows ∧
        rows = before.writtenRows known.config operation combined time ∧
        outcome = outcomeOf (before.examined known.config operation combined) ∧
        known.closed = false ∧ before.Pending known.config (known.config.newInstant time) rows s)
      (fun _ => Warehouse.Holds clients fun _ => ¬clean) := by
    rintro w ⟨rfl, hopen, hpending⟩
    have hstage := hpending.stage_eq operation (arranged operation combined) w.now
    by_cases htaken : before.Takes known.config operation (arranged operation combined)
    · rw [if_pos htaken] at hstage
      obtain ⟨w', hrun, hw'⟩ := Warehouse.write_runIn hknown hopen (hcombined w.now) hstage
      have hafter := hpending.staged hstage
      refine .inl ⟨_, w', hrun, by rw [hw'], ?_⟩
      rw [hw']
      refine ⟨_, ?_, rfl, rfl, hopen, hafter⟩
      rw [hafter.eq]
      rfl
    · rw [if_neg htaken] at hstage
      obtain ⟨w', hrun, hw'⟩ := Warehouse.write_fails hknown hopen (hcombined w.now) hstage
      exact .inr ⟨_, w', hrun, by rw [hw'], fun hclean => htaken (htakes hclean)⟩
  have hnothing : ∀ s, known.closed = false ∧ before.Pending known.config (known.config.newInstant time) [] s →
      s.staged = before.staged := by
    rintro s ⟨-, hs⟩
    rw [hs.eq]
    exact List.append_nil _
  refine (Exposed.recorded_leads hnothing (Exposed.operate_leads hstage fun hbroken _ _ => hbroken)).weaken
    (fun _ ht => ht) ?_ fun _ _ ht => ht.warehouse.2
  rintro outcome t ⟨rows, ht⟩
  obtain ⟨rfl, houtcome, -⟩ := ht.warehouse.2
  exact ⟨houtcome, ht.mono fun _ hs => hs.2.2⟩

/-! ## 3. Stores that house an exposed one -/

/-- What readers see of a store: its records, and the completed instants. -/
def Store.look (store : Store) : List VisibleRow × List InstantRow := (store.records, store.completedInstants)

section Houses

variable {τ α : Type} (get : τ → Exposed)

/-- A step does to a part of the state whatever the plain step does. -/
def Carried (step : Effect τ α) (plain : Effect Exposed α) : Prop :=
  ∀ P Q E, Effect.Leads P plain Q E →
    Effect.Leads (fun t => P (get t)) step (fun a t => Q a (get t)) fun failure t => E failure (get t)

/-- A step leaves what readers see, however it ends. -/
def Keeps (step : Effect τ α) : Prop :=
  ∀ seen, Effect.Leads (fun t => (get t).warehouse.store.look = seen) step
    (fun _ t => (get t).warehouse.store.look = seen) fun _ t => (get t).warehouse.store.look = seen

/-- A table store whose clients write as those of an exposed store do. A request for compaction may do anything
that readers do not see. -/
structure Houses (inner : TableStore τ) (make : Warehouse.ClientId → WriteConfig → WriteClient τ) : Prop where
  start : ∀ id config, Carried get (make id config).startCommit (Exposed.writer id config).startCommit
  write : ∀ id config operation records time,
    Carried get ((make id config).write operation records time) ((Exposed.writer id config).write operation records time)
  commit : ∀ id config time outcome extra,
    Carried get ((make id config).commit time outcome extra) ((Exposed.writer id config).commit time outcome extra)
  compaction : ∀ id config, Keeps get (make id config).scheduleCompaction
  describe : ∀ basePath, Keeps get (inner.describeTable basePath)
  create : ∀ config clean clients ledger P,
    Effect.Leads (fun t => (get t).Holds clean clients ledger P) (inner.createWriteClient config)
      (fun client t => client = make clients.length config ∧
        (get t).Holds clean (clients ++ [{ config := config }]) ledger P) fun _ _ => False

end Houses

theorem Store.newInstant_look {store added : Store} {basePath time : String} {action : InstantAction}
    {state : InstantState} {now : Timestamp} (hstate : state ≠ .completed)
    (h : store.newInstant basePath action state now = .ok (time, added)) : added.look = store.look := by
  have hadded : ∃ row : InstantRow, row.state = state ∧ added = store.withInstant row := by
    unfold Store.newInstant at h
    dsimp only at h
    split at h
    · split at h
      · cases h
      · exact ⟨_, rfl, (Prod.mk.inj (Except.ok.inj h)).2.symm⟩
    · split at h
      · exact ⟨_, rfl, (Prod.mk.inj (Except.ok.inj h)).2.symm⟩
      · cases h
  obtain ⟨row, hrow, rfl⟩ := hadded
  have hnot : row.state ≠ .completed := hrow ▸ hstate
  simp [look, completedInstants, withInstant, hnot]

theorem Store.scheduleCompaction_look {store after : Store} {config : WriteConfig} {now : Timestamp}
    {asked : Option String} (h : store.scheduleCompaction config now = .ok (asked, after)) : after.look = store.look := by
  unfold Store.scheduleCompaction at h
  split at h
  · obtain ⟨⟨time, added⟩, hnew, hdone⟩ := bind_eq_ok.mp h
    cases hdone
    exact Store.newInstant_look (by decide) hnew
  · cases h
    rfl

/-- An operation of which a step keeps `P` keeps it, whatever happens to it. -/
theorem operate_preserves {α : Type} {step : Effect Warehouse α} {P : Store → Prop}
    (h : ∀ clients, Effect.Leads (Warehouse.Holds clients P) step (fun _ => Warehouse.Holds clients P)
      fun _ => Warehouse.Holds clients P) :
    Effect.Leads (fun t => P t.warehouse.store) (Exposed.operate step) (fun _ t => P t.warehouse.store)
      fun _ t => P t.warehouse.store := by
  intro w hw
  have hstart : w.state.Holds False w.state.warehouse.clients w.state.stagings P := ⟨False.elim, rfl, rfl, hw⟩
  rcases Exposed.operate_leads (h _) (fun _ _ hs => hs) w hstart with ⟨a, w', hrun, ht⟩ | ⟨failure, w', hrun, ht⟩
  · exact .inl ⟨a, w', hrun, ht.warehouse.2⟩
  · exact .inr ⟨failure, w', hrun, ht.warehouse.2⟩

theorem scheduleCompaction_keeps (id : Warehouse.ClientId) :
    Keeps (fun t => t) (Exposed.operate (Warehouse.scheduleCompaction id)) :=
  fun seen => operate_preserves (P := fun s => s.look = seen) fun _ => Warehouse.scheduleCompaction_leads (fun _ hs => hs)
    fun _ _ _ _ _ _ _ hs hschedule => (Store.scheduleCompaction_look hschedule).trans hs

theorem describeTable_keeps (basePath : String) : Keeps (fun t => t) (Exposed.tableStore.describeTable basePath) :=
  fun seen => operate_preserves (P := fun s => s.look = seen) fun _ => Warehouse.describeTable_leads basePath fun _ hs => hs

theorem exposed_houses : Houses (fun t => t) Exposed.tableStore Exposed.writer where
  start _ _ _ _ _ h := h
  write _ _ _ _ _ _ _ _ h := h
  commit _ _ _ _ _ _ _ _ h := h
  compaction id _ := scheduleCompaction_keeps id
  describe basePath := describeTable_keeps basePath
  create config _ _ _ _ := Exposed.createWriteClient_leads config

/-! ## 4. A write -/

section Write

variable {τ : Type} {get : τ → Exposed} {inner : TableStore τ} {make : Warehouse.ClientId → WriteConfig → WriteClient τ}
variable {plan : Plan ρ} {base : Scene τ ρ} {checkpoint : String} {marker : Option String}

/-- A batch was committed with its checkpoint, and readers see it. -/
structure Store.Wrote (before : Store) (config : WriteConfig) (operation : WriteOperation)
    (combined : List PreparedRecord) (extra : Fields String) (time : String) (outcome : WriteOutcome) (after : Store) :
    Prop where
  found : outcome = outcomeOf (before.examined config operation combined)
  shown : ∃ committed,
    before.Committed config (before.writtenRows config operation combined time) extra time outcome committed ∧
      after.look = committed.look

/-- A batch of which nothing is refused is committed. -/
theorem Houses.write_stage (houses : Houses get inner make) (hlawful : before.Lawful) (hknown : clients[id]? = some known)
    (hopen : clean → known.closed = false) (hbase : base.client = some (Site.client (make id known.config)))
    (hcombined : known.config.Combines operation records combined)
    (hclean : ∀ entry ∈ before.examined known.config operation combined, entry.2 = none)
    (htakes : clean → before.TakesAll known.config operation combined (Coordinator.commitMetadata checkpoint marker)) :
    Stage (At base fun t => (get t).Holds clean clients ledger (fun s => s = before) ∧
        (clean → (get t).Starts known.config.basePath))
      ((plan.coordinator inner).write records checkpoint marker (some operation.name))
      (fun result s => ∃ time outcome, (result.Reports time outcome ∧ outcome.totalErrorRecords = 0) ∧
        At base (fun t => before.Wrote known.config operation combined (Coordinator.commitMetadata checkpoint marker)
          time outcome (get t).warehouse.store) s) fun _ => ¬clean := by
  let found := outcomeOf (before.examined known.config operation combined)
  let rows := before.writtenRows known.config operation combined
  let extra := Coordinator.commitMetadata checkpoint marker
  have hnone : found.totalErrorRecords = 0 := (accepted_of_none hclean).2
  let staged (time : String) (outcome : WriteOutcome) (t : τ) : Prop :=
    outcome = found ∧ (get t).Holds clean clients (ledger ++ rows time) fun s =>
      known.closed = false ∧ before.Pending known.config (known.config.newInstant time) (rows time) s
  have hwrite : ∀ time, Effect.Leads
      (fun t => (get t).Holds clean clients ledger fun s =>
        known.closed = false ∧ before.Pending known.config (known.config.newInstant time) [] s)
      ((make id known.config).write operation records time) (staged time) fun _ _ => ¬clean :=
    fun time => houses.write _ _ _ _ _ _ _ _ (sure_write hknown hcombined fun hsure => (htakes hsure).batch)
  have hcommit : ∀ time outcome, Effect.Leads (staged time outcome) ((make id known.config).commit time outcome extra)
      (fun done t => if done then before.Wrote known.config operation combined extra time outcome (get t).warehouse.store
        else ¬clean)
      fun _ _ => ¬clean := by
    intro time outcome
    refine Effect.leads_of_fact fun houtcome => ?_
    have hplain : Effect.Leads
        (Exposed.Holds clean clients (ledger ++ rows time) fun s =>
          known.closed = false ∧ before.Pending known.config (known.config.newInstant time) (rows time) s)
        ((Exposed.writer id known.config).commit time outcome extra)
        (fun done => Exposed.Holds clean clients (ledger ++ rows time) fun s =>
          done = true ∧ before.Committed known.config (rows time) extra time outcome s)
        fun _ => Exposed.Holds clean clients (ledger ++ rows time) fun _ => ¬clean :=
      alone_commit hknown (fun hbroken _ _ => hbroken) fun huntaken _ _ hsure => by
        have hrecorded : isRecordable known.config found extra = true := (htakes hsure).recorded
        rw [← houtcome, huntaken] at hrecorded
        cases hrecorded
    refine (houses.commit _ _ _ _ _ _ _ _ hplain).weaken (fun _ ht => ht) ?_ fun _ _ ht => ht.warehouse.2
    intro done t ht
    obtain ⟨rfl, hcommitted⟩ := ht.warehouse.2
    exact ⟨houtcome, _, hcommitted, rfl⟩
  -- What follows a commit keeps what readers see.
  have hkept : ∀ {α : Type} {step : Effect τ α}, Keeps get step → ∀ time outcome, Effect.Leads
      (fun t => before.Wrote known.config operation combined extra time outcome (get t).warehouse.store) step
      (fun _ t => before.Wrote known.config operation combined extra time outcome (get t).warehouse.store)
      fun _ t => before.Wrote known.config operation combined extra time outcome (get t).warehouse.store := by
    rintro α step hkeeps time outcome w ⟨houtcome, committed, hcommitted, hlook⟩
    rcases hkeeps _ w hlook with ⟨a, w', hrun, hafter⟩ | ⟨failure, w', hrun, hafter⟩
    · exact .inl ⟨a, w', hrun, houtcome, committed, hcommitted, hafter⟩
    · exact .inr ⟨failure, w', hrun, houtcome, committed, hcommitted, hafter⟩
  -- A start that failed may be tried again from the store that it found.
  have hagain : ∀ t, (¬clean ∧ (get t).Holds clean clients ledger fun s => s = before) →
      ((get t).Holds clean clients ledger (fun s => s = before) ∧ (clean → (get t).Starts known.config.basePath)) ∧
        ¬clean :=
    fun _ ht => ⟨⟨ht.2, fun hsure => (ht.1 hsure).elim⟩, ht.1⟩
  have hrefuse : ∀ time outcome, outcome.hasErrors = true → Effect.Leads (staged time outcome)
      ((make id known.config).rollback time) (fun _ _ => ¬clean) fun _ _ => ¬clean := by
    rintro time outcome herrors w ⟨rfl, -⟩
    rw [WriteOutcome.hasErrors, hnone] at herrors
    cases herrors
  refine (batch_stage hbase (houses.start _ _ _ _ _ (sure_start hlawful hknown hopen)) hagain hwrite
    (fun _ => Effect.leads_const) hrefuse fun time outcome => Stage.of_each ?_).weaken (fun _ hs => hs)
    (fun _ _ hs => hs) ?_
  · rintro _ ⟨t, rfl, ht⟩
    refine (finish_stage hbase (hcommit time outcome) (fun _ => hkept (houses.compaction _ _) time outcome)
      (fun _ _ ht => ht) (fun _ basePath => hkept (houses.describe basePath) time outcome) fun _ _ ht => ht).weaken ?_ ?_
      fun _ hs => hs
    · rintro _ rfl
      exact ⟨t, rfl, ht⟩
    · rintro result s ⟨hreports, hs⟩
      exact ⟨time, outcome, ⟨hreports, ht.1 ▸ hnone⟩, hs⟩
  · rintro _ ⟨_, _, hbroken⟩
    exact hbroken

/-! ## 5. A round -/

/-- The result of a round that committed a batch without an error. -/
structure RoundResult.Commits (result : RoundResult) (checkpoint : String) (time : String)
    (combined : List PreparedRecord) : Prop where
  status : result.status = .committed
  checkpoint : result.checkpoint = some checkpoint
  instant : result.instantTime = some time
  totalRecords : result.totalRecords = combined.length
  totalErrorRecords : result.totalErrorRecords = 0

/-- The write client of the scene was handed out by the store, and will start a commit. -/
structure Poised (get : τ → Exposed) (make : Warehouse.ClientId → WriteConfig → WriteClient τ) (s : Scene τ ρ)
    (known : ClientRecord) : Prop where
  client : ∃ id, s.client = some (Site.client (make id known.config)) ∧ (get s.inner).warehouse.clients[id]? = some known
  opened : known.closed = false
  starts : (get s.inner).Starts known.config.basePath

theorem prepareClient_kept {A E : Scene τ ρ → Prop} (provider : Option SchemaProvider)
    (hclient : ∀ s, A s → s.client.isSome = true) :
    Stage A ((plan.round inner).prepareClient provider) (fun _ => A) E := by
  refine Stage.ofState fun state hA => ?_
  have hsome : state.client.isNone = false := by simpa [CommitState.scene] using hclient _ hA
  rw [hsome]
  refine Stage.ofPure ?_
  rintro _ rfl
  exact hA

/-- What a round leaves of the records at every moment, and the step that says so. -/
theorem withoutDuplicates_sure {A E : Scene τ ρ → Prop} {left : List PreparedRecord}
    (hleft : ∀ now, if plan.config.filterDupes && !records.isEmpty then Dedup.keep records now = .ok left
      else left = records) :
    Stage A ((plan.round inner).withoutDuplicates records) (fun kept s => kept = left ∧ A s) E := by
  unfold Round.withoutDuplicates
  split
  next hfilters =>
    intro w hw
    obtain ⟨log, hrun⟩ := Dedup.run_runIn ((if_pos hfilters).mp (hleft w.now))
    exact .inl ⟨left, _, hrun, rfl, hw⟩
  next hkeeps => exact Stage.ofPure fun _ hs => ⟨((if_neg hkeeps).mp (hleft ⟨0⟩)).symm, hs⟩

/-- **A batch of which nothing is refused is committed**, with its checkpoint and without an error; it fails only if
its client is not poised, or the database does not take it. -/
theorem Houses.round_stage (houses : Houses get inner make) (hlawful : (get base.inner).warehouse.store.Lawful)
    (hclient : base.client = some (Site.client (make id known.config)))
    (hknown : (get base.inner).warehouse.clients[id]? = some known) {point : ResumePoint}
    {input : RoundInput} {left : List PreparedRecord}
    (hleft : ∀ now, if plan.config.filterDupes && !input.records.isEmpty then Dedup.keep input.records now = .ok left
      else left = input.records)
    (hcombined : known.config.Combines plan.config.effective.operation left combined)
    (hclean : ∀ entry ∈ (get base.inner).warehouse.store.examined known.config plan.config.effective.operation combined,
      entry.2 = none) :
    Stage (fun s => s = base) ((plan.round inner).write point input)
      (fun result s => ∃ time outcome, result.Commits input.checkpoint time combined ∧
        (get base.inner).warehouse.store.Wrote known.config plan.config.effective.operation combined
          (Coordinator.commitMetadata input.checkpoint point.resetMarker) time outcome (get s.inner).warehouse.store)
      fun _ => ¬(Poised get make base known ∧
        (get base.inner).warehouse.store.TakesAll known.config plan.config.effective.operation combined
          (Coordinator.commitMetadata input.checkpoint point.resetMarker)) := by
  let found := (get base.inner).warehouse.store
  let extra := Coordinator.commitMetadata input.checkpoint point.resetMarker
  let poised := Poised get make base known ∧ found.TakesAll known.config plan.config.effective.operation combined extra
  have hwrite : Stage (At base fun t => (get t).Holds poised (get base.inner).warehouse.clients (get base.inner).stagings
        (fun s => s = found) ∧ (poised → (get t).Starts known.config.basePath))
      ((plan.coordinator inner).write left input.checkpoint point.resetMarker
        (some plan.config.effective.operation.name))
      (fun result s => ∃ time outcome, (result.Reports time outcome ∧ outcome.totalErrorRecords = 0) ∧
        At base (fun t => found.Wrote known.config plan.config.effective.operation combined extra time outcome
          (get t).warehouse.store) s) fun _ => ¬poised :=
    houses.write_stage hlawful hknown (fun hsure => hsure.1.opened) hclient hcombined hclean And.right
  have hstarts : poised → (get base.inner).Starts known.config.basePath := fun hsure => hsure.1.starts
  refine roundWrite_stage point input (prepareClient_kept _ ?_)
    (withoutDuplicates_sure hleft) fun records => Stage.of_fact fun hrecords => ?_
  · rintro _ rfl
    rw [hclient]
    rfl
  · subst hrecords
    refine hwrite.weaken ?_ ?_ fun _ hs => hs
    · rintro _ rfl
      exact ⟨_, rfl, ⟨fun hsure => (hstarts hsure).1, rfl, rfl, rfl⟩, hstarts⟩
    · rintro commit _ ⟨time, outcome, ⟨hreports, hnone⟩, t, rfl, hwrote⟩
      refine ⟨time, outcome, ⟨rfl, rfl, ?_, ?_, ?_⟩, hwrote⟩
      · exact congrArg some hreports.instantTime
      · show commit.totalRecords = _
        rw [hreports.totalRecords, hwrote.found, totalRecords_outcomeOf, length_examined]
      · exact hreports.totalErrorRecords.trans hnone

/-! ## 6. From the write to the run -/

/-- A run gets as far as the write: the input was read, and the write client is there. -/
def Round.Reaches {σ : Type} (round : Round σ) (w : World (CommitState σ)) (point : ResumePoint) (input : RoundInput)
    (ready : World (CommitState σ)) : Prop :=
  ∃ handle started resumed read, round.recordStart.runIn w = (.ok handle, started) ∧
    round.resumePoint.runIn started = (.ok point, resumed) ∧
    (round.read point).runIn resumed = (.ok (some input), read) ∧
    (round.prepareClient input.provider).runIn read = (.ok (), ready)

/-- The run goes on as the write ends, and only records its outcome. -/
theorem Round.Reaches.run_eq {w ready last : World (CommitState (Site τ ρ))} {point : ResumePoint} {input : RoundInput}
    {outcome : Except Failure RoundResult} (hreaches : (plan.round inner).Reaches w point input ready)
    (hclient : ready.state.client.isSome = true)
    (hwrite : ((plan.round inner).write point input).runIn ready = (outcome, last)) :
    ∃ handle, (plan.round inner).run.runIn w = (match outcome with
      | .ok result => (plan.round inner).succeeded handle result
      | .error failure => (plan.round inner).failed handle point.value failure).runIn last := by
  obtain ⟨handle, started, resumed, read, hstart, hresume, hread, hprepare⟩ := hreaches
  have hkept : ((plan.round inner).prepareClient input.provider).runIn ready = (.ok (), ready) := by
    have hstate : (Effect.state : RoundStep (Site τ ρ) _).runIn ready = (.ok ready.state, ready) := rfl
    have hsome : ready.state.client.isNone = false := by simpa using hclient
    rw [Round.prepareClient, Effect.runIn_bind_ok hstate, hsome]
    rfl
  have hsame : ((plan.round inner).write point input).runIn read = (outcome, last) := by
    rw [Round.write, Effect.runIn_bind_ok hkept] at hwrite
    rw [Round.write, Effect.runIn_bind_ok hprepare]
    exact hwrite
  have hsync : ((plan.round inner).sync point).runIn resumed = (outcome, last) := by
    rw [Round.sync, Effect.runIn_bind_ok hread]
    exact hsame
  refine ⟨handle, ?_⟩
  rw [Round.run, Effect.runIn_bind_ok hstart, Effect.runIn_bind_ok (Effect.runIn_attempt hresume)]
  dsimp only
  rw [Effect.runIn_bind_ok (Effect.runIn_attempt hsync)]
  cases outcome <;> rfl

theorem Round.Reaches.run {w ready last : World (CommitState (Site τ ρ))} {point : ResumePoint} {input : RoundInput}
    {result : RoundResult} (hreaches : (plan.round inner).Reaches w point input ready)
    (hclient : ready.state.client.isSome = true)
    (hwrite : ((plan.round inner).write point input).runIn ready = (.ok result, last)) :
    ∃ w', (plan.round inner).run.runIn w = (.ok result, w') ∧ w'.state.scene = last.state.scene := by
  obtain ⟨handle, hrun⟩ := hreaches.run_eq hclient hwrite
  have hrecord : Stage (fun s => s = last.state.scene) ((plan.round inner).succeeded handle result)
      (fun a s => a = result ∧ s = last.state.scene) fun _ => False :=
    (recordOutcome_stage handle _ fun _ _ => Neutral.ofRest _).bind fun _ => Stage.ofPure fun _ hs => ⟨rfl, hs⟩
  obtain ⟨_, w', hlast, rfl, hscene⟩ := hrecord.returns rfl
  exact ⟨w', hrun.trans hlast, hscene⟩

theorem Round.Reaches.write {w w' ready : World (CommitState (Site τ ρ))} {point : ResumePoint} {input : RoundInput}
    {result : RoundResult} (hreaches : (plan.round inner).Reaches w point input ready)
    (hclient : ready.state.client.isSome = true) (hrun : (plan.round inner).run.runIn w = (.ok result, w')) :
    ∃ last, ((plan.round inner).write point input).runIn ready = (.ok result, last) ∧
      w'.state.scene = last.state.scene := by
  rcases hwrite : ((plan.round inner).write point input).runIn ready with ⟨failure | found, last⟩
  · obtain ⟨handle, hfails⟩ := hreaches.run_eq hclient hwrite
    have hfailed : Stage (fun _ => True) ((plan.round inner).failed handle point.value failure) (fun _ _ => False)
        fun _ => True := failed_stage handle point.value failure
    exact (Effect.Leads.of_ok hfailed trivial (hfails.symm.trans hrun)).elim
  · obtain ⟨v, hfound, hscene⟩ := hreaches.run hclient hwrite
    cases hrun.symm.trans hfound
    exact ⟨last, rfl, hscene⟩

end Write

end TableSync
