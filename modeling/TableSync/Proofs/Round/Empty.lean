/-
  TableSync/Proofs/Round/Empty.lean
  =================================
  **A round without records** — a new checkpoint and nothing else.

  The checkpoint of the source has moved, and no record is left to write.  The
  round commits all the same: its instant carries the checkpoint and counts no
  records, readers see the records that they saw before, and the catalog is not
  told (`Round.Reaches.commits_nothing`).
-/
import TableSync.Proofs.Round.Aided

namespace TableSync

variable {ρ : Type}

/-! ## 1. What a commit of nothing shows -/

/-- A completed instant of the table has the checkpoint, and counts no records. -/
def Store.ShowsEmptyCommit (store : Store) (basePath time checkpoint : String) : Prop :=
  ∃ row ∈ store.completedInstants, row.basePath = basePath ∧ row.time = time ∧ row.checkpoint? = some checkpoint ∧
    row.totalRecords = 0 ∧ row.totalErrorRecords = 0

theorem Store.Wrote.shows {before after : Store} {config : WriteConfig} {operation : WriteOperation}
    {checkpoint time : String} {marker : Option String} {outcome : WriteOutcome}
    (h : before.Wrote config operation [] (Coordinator.commitMetadata checkpoint marker) time outcome after) :
    after.ShowsEmptyCommit config.basePath time checkpoint ∧ after.records = before.records := by
  obtain ⟨committed, hcommitted, hlook⟩ := h.shown
  rw [Store.writtenRows_nil] at hcommitted
  have hfound := h.found
  rw [Store.examined_nil] at hfound
  have hrecords : after.records = committed.records := congrArg Prod.fst hlook
  have hcompleted : after.completedInstants = committed.completedInstants := congrArg Prod.snd hlook
  constructor
  · obtain ⟨now, hinstants⟩ := hcommitted.instants
    let extra := Coordinator.commitMetadata checkpoint marker
    refine ⟨Store.completed outcome extra now (config.newInstant time), ?_, rfl, rfl, checkpoint?_completed _ _ _ _ _, ?_⟩
    · rw [hcompleted, Store.completedInstants, hinstants]
      exact List.mem_filter.mpr ⟨List.mem_append_right _ List.mem_cons_self, rfl⟩
    · rw [hfound]
      exact ⟨rfl, rfl⟩
  · obtain ⟨now, happlied⟩ := hcommitted.records
    rw [hrecords]
    exact (Option.some.inj happlied).symm

/-! ## 2. The round -/

theorem opens_lawful : Aided.Opens fun t => t.store.Lawful where
  metadataExists basePath := Aided.inExposed_carried _ _ _ _ <| operate_preserves fun _ =>
    (Warehouse.metadataExists_leads basePath).weaken (fun _ hw => hw) (fun _ _ hw => ⟨hw.1, hw.2.2⟩) fun _ _ hw => hw
  openMetadata basePath := Aided.inExposed_carried _ _ _ _ <| operate_preserves fun _ =>
    (Warehouse.openMetadata_leads basePath fun _ hs => hs).weaken (fun _ hw => hw) (fun _ _ hw => ⟨hw.1, hw.2.1⟩)
      fun _ _ hw => hw
  initTable shell := Aided.inExposed_carried _ _ _ _ <| operate_preserves fun _ =>
    Warehouse.initTable_leads (fun _ _ hs hinit => hs.initTable hinit) fun _ hs => hs
  newClient config := by
    have hnew : Effect.Leads (fun t => t.warehouse.store.Lawful) (Exposed.inWarehouse (Warehouse.newClient config))
        (fun _ t => t.warehouse.store.Lawful) fun _ t => t.warehouse.store.Lawful := by
      intro w hw
      exact .inl ⟨_, _, rfl, hw⟩
    exact Aided.inExposed_carried _ _ _ _ hnew

section Empty

variable {plan : Plan ρ} {point : ResumePoint} {input : RoundInput} {id : Warehouse.ClientId} {known : ClientRecord}

/-- The filter leaves nothing of nothing only. -/
theorem withoutDuplicates_nothing {τ : Type} {inner : TableStore τ} {records : List PreparedRecord}
    {w : World (CommitState (Site τ ρ))} (h : (((plan.round inner).withoutDuplicates records).runIn w).1 = .ok []) :
    records = [] := by
  unfold Round.withoutDuplicates at h
  split at h
  next =>
    have hfilter : Effect.Leads (fun _ => True) (Dedup.run records)
        (fun winners (_ : CommitState (Site τ ρ)) => (∃ now, Dedup.keep records now = .ok winners) ∧ True)
        fun _ _ => True := Dedup.leads_run records
    obtain ⟨⟨now, hkept⟩, -⟩ := hfilter.of_ok trivial (Prod.ext h rfl)
    exact (Dedup.keep_eq_nil_iff hkept).mp rfl
  next => exact Except.ok.inj h

/-- What a commit of nothing leaves. -/
structure EmptyCommit (known : ClientRecord) (checkpoint : String) (before : Store) (result : RoundResult)
    (after : Store) : Prop where
  shown : ∃ time, result.Commits checkpoint time [] ∧ after.ShowsEmptyCommit known.config.basePath time checkpoint
  records : after.records = before.records

theorem nothing_stage {base : Scene Aided ρ} (hlawful : base.inner.store.Lawful)
    (hclient : base.client = some (Site.client (Aided.writer id known.config)))
    (hknown : base.inner.exposed.warehouse.clients[id]? = some known) (hnothing : input.records = []) :
    Stage (fun s => s = base) ((plan.round Aided.tableStore).write point input)
      (fun result s => EmptyCommit known input.checkpoint base.inner.store result s.inner.store)
      fun _ => ¬(Poised Aided.exposed Aided.writer base known ∧
        Store.isRecordable known.config ⟨[]⟩ (Coordinator.commitMetadata input.checkpoint point.resetMarker) = true) := by
  have hleft : ∀ now, if plan.config.filterDupes && !input.records.isEmpty then Dedup.keep input.records now = .ok []
      else [] = input.records := by
    intro now
    simp [hnothing]
  have hcombined : known.config.Combines plan.config.effective.operation [] [] := by
    intro now
    split <;> rfl
  have hclean : ∀ entry ∈ base.inner.store.examined known.config plan.config.effective.operation [], entry.2 = none := by
    intro entry hentry
    rw [Store.examined_nil] at hentry
    cases hentry
  refine (aided_houses.round_stage hlawful hclient hknown hleft hcombined hclean).weaken (fun _ hs => hs) ?_ ?_
  · rintro result s ⟨time, outcome, hcommits, hwrote⟩
    exact ⟨⟨time, hcommits, hwrote.shows.1⟩, hwrote.shows.2⟩
  · rintro s hbroken ⟨hpoised, hrecordable⟩
    exact hbroken ⟨hpoised, Store.takesAll_nil.mpr hrecordable⟩

/-- **A round without records commits its checkpoint**: whenever it has a result, and it has one if its client is
poised and the columns take the checkpoint, the marker of an override and the schema. -/
theorem Round.Reaches.commits_nothing {w ready : AidedWorld ρ} (hw : Keeping (fun t => t.store.Lawful) w.state.scene)
    (hreaches : (plan.round Aided.tableStore).Reaches w point input ready)
    (hleft : (((plan.round Aided.tableStore).withoutDuplicates input.records).runIn ready).1 = .ok [])
    (hclient : ready.state.client = some (Site.client (Aided.writer id known.config)))
    (hknown : ready.state.scene.inner.exposed.warehouse.clients[id]? = some known) :
    (∀ result w', (plan.round Aided.tableStore).run.runIn w = (.ok result, w') →
      EmptyCommit known input.checkpoint ready.state.scene.inner.store result w'.state.scene.inner.store) ∧
    (Poised Aided.exposed Aided.writer ready.state.scene known →
      Store.isRecordable known.config ⟨[]⟩ (Coordinator.commitMetadata input.checkpoint point.resetMarker) = true →
      ∃ result w', (plan.round Aided.tableStore).run.runIn w = (.ok result, w')) := by
  have hwrite : Stage (fun s => s = ready.state.scene) ((plan.round Aided.tableStore).write point input)
      (fun result s => EmptyCommit known input.checkpoint ready.state.scene.inner.store result s.inner.store)
      fun _ => ¬(Poised Aided.exposed Aided.writer ready.state.scene known ∧
        Store.isRecordable known.config ⟨[]⟩ (Coordinator.commitMetadata input.checkpoint point.resetMarker) = true) :=
    nothing_stage (hreaches.keeping opens_lawful hw).2 hclient hknown (withoutDuplicates_nothing hleft)
  have hsome : ready.state.client.isSome = true := by
    rw [hclient]
    rfl
  constructor
  · intro result w' hrun
    obtain ⟨last, hlast, hscene⟩ := hreaches.write hsome hrun
    rw [hscene]
    exact Effect.Leads.of_ok hwrite rfl hlast
  · intro hpoised hrecordable
    have hreturns := hwrite.weaken (fun _ hs => hs) (fun _ _ hs => hs) fun _ hbroken => hbroken ⟨hpoised, hrecordable⟩
    obtain ⟨result, last, hlast, -⟩ := Effect.Leads.returns hreturns rfl
    obtain ⟨w', hrun, -⟩ := hreaches.run hsome hlast
    exact ⟨result, w', hrun⟩

end Empty

end TableSync
