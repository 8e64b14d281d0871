/-
  TableSync/Proofs/Store/Completion.lean
  ======================================
  **What completes an instant** — a commit, and nothing else.

  Whoever performs an operation on a lawful store, and whatever the clock says:
  every instant that is completed afterwards was completed before, or the
  operation was a commit that was answered with yes, and then the instant
  carries the checkpoint of that commit.  A timeline that is read shows the
  commits that are there.  Both are said of `Warehouse.perform`, so they hold at
  every step of every history.
-/
import TableSync.Proofs.Store.Warehouse

namespace TableSync

namespace Store

variable {store after : Store} {config : WriteConfig} {now : Timestamp} {row : InstantRow}

/-! ## 1. Transactions -/

/-- Every completed instant was completed before. -/
def CompletesNothing (before after : Store) : Prop :=
  ∀ row ∈ after.completedInstants, row ∈ before.completedInstants

theorem mem_completedInstants : row ∈ store.completedInstants ↔ row ∈ store.instants ∧ row.state = .completed := by
  simp [completedInstants]

theorem CompletesNothing.of_instants (h : after.instants = store.instants) : CompletesNothing store after := by
  intro row hrow
  rw [mem_completedInstants, h] at hrow
  rw [mem_completedInstants]
  exact hrow

theorem CompletesNothing.of_withInstant (hrow : row.state ≠ .completed) :
    CompletesNothing store (store.withInstant row) := by
  intro other hother
  obtain ⟨hmem, hcompleted⟩ := mem_completedInstants.mp hother
  rcases List.mem_append.mp hmem with hold | hlast
  · exact mem_completedInstants.mpr ⟨hold, hcompleted⟩
  · rw [List.mem_singleton.mp hlast] at hcompleted
    exact absurd hcompleted hrow

theorem CompletesNothing.of_initTable {shell : TableShell} (h : store.initTable shell = .ok after) :
    CompletesNothing store after := by
  apply CompletesNothing.of_instants
  unfold initTable at h
  split at h
  · cases h
    rfl
  · split at h
    · cases h
    · cases h
      rfl

theorem mem_updateInstant {basePath time : String} {change : InstantRow → InstantRow}
    (h : row ∈ (store.updateInstant basePath time change).instants) :
    row ∈ store.instants ∨ ∃ old, row = change old := by
  obtain ⟨old, hold, hrow⟩ := List.mem_map.mp h
  split at hrow
  · exact .inr ⟨old, hrow.symm⟩
  · exact .inl (hrow ▸ hold)

/-- A rollback completes nothing, for what it changes is rolled back. -/
theorem CompletesNothing.of_rollback {named : Option String} :
    CompletesNothing store (store.rollback config named now).2 := by
  unfold rollback
  split
  · exact .of_instants rfl
  · split
    · intro row hrow
      obtain ⟨hmem, hcompleted⟩ := mem_completedInstants.mp hrow
      rcases mem_updateInstant hmem with hold | ⟨old, rfl⟩
      · exact mem_completedInstants.mpr ⟨hold, hcompleted⟩
      · cases hcompleted
    · exact .of_instants rfl

/-- A commit completes instants with its own metadata at most. -/
theorem commit_completes {named : Option String} {outcome : WriteOutcome} {extra : Fields String}
    (hcommit : store.commit config named outcome extra now = .ok after) : ∀ row ∈ after.completedInstants,
    row ∈ store.completedInstants ∨ row.checkpoint? = Fields.get? extra checkpointKey := by
  obtain ⟨instant, -, records, -, -, -, -, rfl⟩ := commit_eq_ok hcommit
  intro row hrow
  obtain ⟨hmem, hcompleted⟩ := mem_completedInstants.mp hrow
  have hkept : ∀ s : Store, (s.recordSchema config).instants = s.instants := by
    intro s
    unfold recordSchema
    split <;> rfl
  rw [hkept] at hmem
  rcases mem_updateInstant hmem with hold | ⟨old, rfl⟩
  · exact .inl (mem_completedInstants.mpr ⟨hold, hcompleted⟩)
  · exact .inr rfl

end Store

/-! ## 2. Operations -/

namespace Warehouse

/-- The metadata of a commit that was answered with yes. -/
def committed? : Operation → Reply → Option (Fields String)
  | .commit _ _ _ extra, .truth true => some extra
  | _, _ => none

/-- What an operation that was answered has completed, and what it has shown. -/
structure Accounts (before : Store) (operation : Operation) (reply : Reply) (after : Store) : Prop where
  completed : ∀ row ∈ after.completedInstants, row ∈ before.completedInstants ∨
    ∃ extra, committed? operation reply = some extra ∧ row.checkpoint? = Fields.get? extra checkpointKey
  shown : ∀ metadata, reply = .metadata metadata →
    ∃ basePath tableType, metadata.timeline = before.timelineOf basePath tableType

variable {store : Store}

theorem Accounts.of_nothing {operation : Operation} {reply : Reply} {after : Store}
    (h : store.CompletesNothing after) (hreply : ∀ metadata, reply ≠ .metadata metadata) :
    Accounts store operation reply after where
  completed row hrow := .inl (h row hrow)
  shown metadata hmetadata := absurd hmetadata (hreply metadata)

/-- Every operation accounts for what it completes, and one that fails completes nothing. -/
theorem perform_accounts (operation : Operation) (warehouse : Warehouse) (hlawful : warehouse.store.Lawful) :
    Effect.Leads (fun w => w = warehouse) (perform operation)
      (fun reply w => Accounts warehouse.store operation reply w.store)
      (fun _ w => warehouse.store.CompletesNothing w.store) := by
  have hstart : ∀ w : Warehouse, w = warehouse → Holds warehouse.clients (fun s => s = warehouse.store) w := by
    rintro _ rfl
    exact ⟨rfl, rfl⟩
  have hfail : ∀ s : Store, s = warehouse.store → warehouse.store.CompletesNothing s := by
    rintro _ rfl
    exact .of_instants rfl
  have hquiet : ∀ {β : Type} {step : Effect Warehouse β} (f : β → Reply),
      (∀ a metadata, f a ≠ .metadata metadata) →
      Effect.Leads (Holds warehouse.clients fun s => s = warehouse.store) step
        (fun _ => Holds warehouse.clients warehouse.store.CompletesNothing)
        (fun _ => Holds warehouse.clients warehouse.store.CompletesNothing) →
      Effect.Leads (fun w => w = warehouse) (do return f (← step))
        (fun reply w => Accounts warehouse.store operation reply w.store)
        (fun _ w => warehouse.store.CompletesNothing w.store) := by
    intro β step f hf h
    refine (h.weaken hstart (fun _ _ hw => hw) fun _ w hw => hw.2).bind fun a => Effect.leads_pure fun w hw => ?_
    exact .of_nothing hw.2 (hf a)
  cases operation with
  | initTable shell =>
    refine hquiet (fun _ => .done) nofun (initTable_leads ?_ hfail)
    rintro s changed rfl hinit
    exact .of_initTable hinit
  | metadataExists basePath =>
    refine hquiet .truth nofun ((metadataExists_leads basePath).weaken (fun _ hw => hw) ?_ fun _ _ hw => hw)
    exact fun _ _ hw => ⟨hw.1, hfail _ hw.2.2⟩
  | openMetadata basePath =>
    have hopen : Effect.Leads (Holds warehouse.clients fun s => s = warehouse.store) (openMetadata basePath)
        (fun metadata => Holds warehouse.clients fun s => s = warehouse.store ∧
          ∃ shell, s.table? basePath = some shell ∧ metadata.timeline = s.timelineOf basePath shell.tableType)
        (fun _ => Holds warehouse.clients warehouse.store.CompletesNothing) := openMetadata_leads basePath hfail
    refine (hopen.weaken hstart (fun _ _ hw => hw) fun _ w hw => hw.2).bind fun metadata => Effect.leads_pure ?_
    rintro w ⟨-, hsame, shell, -, htimeline⟩
    rw [hsame] at htimeline ⊢
    refine ⟨fun row hrow => .inl hrow, fun other hother => ?_⟩
    cases hother
    exact ⟨basePath, shell.tableType, htimeline⟩
  | describeTable basePath =>
    refine hquiet .description nofun ((describeTable_leads basePath hfail).weaken (fun _ hw => hw) ?_ fun _ _ hw => hw)
    exact fun _ _ hw => ⟨hw.1, hfail _ hw.2⟩
  | newClient config =>
    rintro w rfl
    exact .inl ⟨.client w.state.clients.length, _, rfl, .of_nothing (.of_instants rfl) nofun⟩
  | startCommit client =>
    refine hquiet .instant nofun (startCommit_leads hfail ?_)
    rintro known s now time changed - - rfl hstart
    obtain ⟨-, -, rfl⟩ := Store.newInstant_eq_ok hlawful hstart
    exact .of_withInstant nofun
  | write client operation records time =>
    refine hquiet .outcome nofun (write_leads hfail ?_)
    rintro known s batch now outcome changed - - - rfl hstage
    obtain ⟨instant, -, -, -, -, rfl⟩ := Store.stage_eq_ok hstage
    exact .of_instants rfl
  | commit client time outcome extra =>
    have hcommit : Effect.Leads (Holds warehouse.clients fun s => s = warehouse.store)
        (commit client time outcome extra)
        (fun done => Holds warehouse.clients
          (Accounts warehouse.store (.commit client time outcome extra) (.truth done)))
        (fun _ => Holds warehouse.clients warehouse.store.CompletesNothing) := by
      refine commit_leads (fun _ => hfail) ?_ ?_ ?_
      · rintro known s now changed - - rfl hdone
        refine ⟨fun row hrow => ?_, nofun⟩
        rcases Store.commit_completes hdone row hrow with hold | hnew
        · exact .inl hold
        · exact .inr ⟨extra, rfl, hnew⟩
      · rintro known s now refusal - - rfl - -
        exact .of_nothing (.of_instants rfl) nofun
      · rintro known s now - - hs -
        exact hfail s hs
    refine (hcommit.weaken hstart (fun _ _ hw => hw) fun _ w hw => hw.2).bind fun done => ?_
    exact Effect.leads_pure fun w hw => hw.2
  | rollback client time =>
    refine hquiet .truth nofun (rollback_leads (fun _ => hfail) ?_)
    rintro known s now - - rfl
    exact .of_rollback
  | scheduleCompaction client =>
    refine hquiet .compaction nofun (scheduleCompaction_leads hfail ?_)
    rintro known s now asked changed - - rfl hschedule
    rcases Store.scheduleCompaction_eq_ok hlawful hschedule with ⟨-, rfl⟩ | ⟨time, -, -, -, rfl⟩
    · exact .of_instants rfl
    · exact .of_withInstant nofun
  | close client =>
    rintro w rfl
    exact .inl ⟨.done, _, rfl, .of_nothing (.of_instants rfl) nofun⟩

end Warehouse

end TableSync
