/-
  TableSync/Proofs/Round/AllOrNothing.lean
  ========================================
  **All or nothing** — a round commits one instant, or leaves no trace.

  A round that has a calm store to itself either commits, and then exactly one
  instant is completed with the checkpoint that the round returns and exactly
  the rows staged under it become visible; or it has nothing new or fails, and
  then readers see what they saw before and nothing that it staged is left.
  The store may be any that a course leads to, with anybody's operations in
  between.

  There is one exception.  The checkpoint of a commit comes from outside, and no
  column takes it if it holds the character zero.  Nobody rolls back then: the
  round fails, readers see what they saw before, but the instant stays inflight
  with what was staged under it (`Plan.Strands`).
-/
import TableSync.Proofs.Round.Course

namespace TableSync

variable {ρ : Type}

namespace Store

/-! ## 1. The two ends of a round -/

/-- One instant became completed, and the rows staged under it became visible, all of them and nothing else.
Beside that, a compaction may have been asked for. -/
structure Gains (before after : Store) (config : WriteConfig) (rows : List StagedRow) (row : InstantRow) : Prop where
  path : row.basePath = config.basePath
  isNew : before.IsNew row.basePath row.time
  state : row.state = .completed
  completed : after.completedInstants = before.completedInstants ++ [row]
  instants : ∃ later, after.instants = before.instants ++ row :: later ∧
    later.length ≤ 1 ∧ ∀ other ∈ later, other.action = .compaction ∧ other.state = .requested
  under : ∀ staged ∈ rows, staged.isUnder row.basePath row.time = true
  records : ∃ now, applyStaged before.records rows now = some after.records
  staged : after.staged = before.staged

/-- Nothing became visible, no instant became completed, and nothing stays staged. At most a table without
instants and records was registered, and an instant rolled back. -/
structure KeepsAll (before after : Store) : Prop where
  records : after.records = before.records
  completed : after.completedInstants = before.completedInstants
  staged : after.staged = before.staged
  tables : after.tables = before.tables ∨ ∃ shell, after.tables = before.tables ++ [shell] ∧
    before.hasTable shell.basePath = false ∧ shell.schema = none ∧
    (∀ row ∈ after.records, row.basePath ≠ shell.basePath) ∧
    ∀ row ∈ after.instants, row.basePath = shell.basePath → row.state = .rolledBack
  instants : after.instants = before.instants ∨
    ∃ row, row.state = .rolledBack ∧ after.instants = before.instants ++ [row]

variable {before opened after : Store} {config : WriteConfig} {rows : List StagedRow}
variable {extra : Fields String} {time : String} {outcome : WriteOutcome}

theorem completedInstants_eq {store : Store} {instants later : List InstantRow} {row : InstantRow}
    (h : store.instants = instants ++ row :: later) (hrow : row.state = .completed)
    (hlater : ∀ other ∈ later, other.state = .requested) :
    store.completedInstants = instants.filter (fun row => row.state == .completed) ++ [row] := by
  have hnone : later.filter (fun row => row.state == .completed) = [] := by
    rw [List.filter_eq_nil_iff]
    intro other hother
    rw [hlater other hother]
    decide
  rw [completedInstants, h, List.filter_append, List.filter_cons, hrow, hnone]
  rfl

/-- A committed write completes its instant alone. -/
theorem Ended.gains (h : before.Ended config rows extra time outcome after) : ∃ now,
    before.Gains after config rows (completed outcome extra now (config.newInstant time)) := by
  obtain ⟨committed, hcommitted, hafter⟩ := h
  obtain ⟨now, hinstants⟩ := hcommitted.instants
  refine ⟨now, ?_⟩
  have hlater : ∃ later,
      after.instants = before.instants ++ completed outcome extra now (config.newInstant time) :: later ∧
      later.length ≤ 1 ∧ ∀ other ∈ later, other.action = .compaction ∧ other.state = .requested := by
    rcases hafter with rfl | ⟨later, -, -, rfl⟩
    · exact ⟨[], hinstants, Nat.zero_le _, nofun⟩
    · refine ⟨[compactionRequest config.basePath later], ?_, le_refl _, ?_⟩
      · show committed.instants ++ _ = _
        rw [hinstants, List.append_assoc]
        rfl
      · intro other hother
        rw [List.mem_singleton.mp hother]
        exact ⟨rfl, rfl⟩
  have hrest : after.records = committed.records ∧ after.staged = committed.staged := by
    rcases hafter with rfl | ⟨later, -, -, rfl⟩
    · exact ⟨rfl, rfl⟩
    · exact ⟨rfl, rfl⟩
  obtain ⟨moment, happlied⟩ := hcommitted.records
  have hcompleted : after.completedInstants =
      before.completedInstants ++ [completed outcome extra now (config.newInstant time)] := by
    obtain ⟨later, heq, -, hrequested⟩ := hlater
    exact completedInstants_eq heq rfl fun other hother => (hrequested other hother).2
  exact {
    path := rfl
    isNew := hcommitted.isNew
    state := rfl
    completed := hcompleted
    instants := hlater
    under := hcommitted.under
    records := ⟨moment, by rw [hrest.1]; exact happlied⟩
    staged := hrest.2.trans hcommitted.staged }

/-- Registering a table first makes no difference to what a write gains. -/
theorem Gains.of_opened {sync : SyncConfig} (hopened : Opened sync before opened) {row : InstantRow}
    (h : opened.Gains after config rows row) : before.Gains after config rows row := by
  rcases hopened with rfl | ⟨-, rfl⟩
  · exact h
  · exact ⟨h.path, h.isNew, h.state, h.completed, h.instants, h.under, h.records, h.staged⟩

/-- A write that was undone leaves what was there, and at most its instant, rolled back. -/
structure Undone (opened after : Store) : Prop where
  tables : after.tables = opened.tables
  records : after.records = opened.records
  completed : after.completedInstants = opened.completedInstants
  staged : after.staged = opened.staged
  instants : after.instants = opened.instants ∨
    ∃ row, row.state = .rolledBack ∧ after.instants = opened.instants ++ [row]

/-- A write that failed on a store that did not break was undone, or the columns did not take what it tried to
record. -/
theorem Abandoned.undone {tried : Fields String → Prop} (h : opened.Abandoned True tried config after) :
    opened.Undone after ∨ ∃ operation records extra time, tried extra ∧
      opened.Unrecorded config operation records extra time after := by
  have hcompleted := h.completedInstants
  cases h with
  | untouched => exact .inl ⟨rfl, rfl, hcompleted, rfl, .inl rfl⟩
  | rolledBack _ _ => exact .inl ⟨rfl, rfl, hcompleted, rfl, .inr ⟨_, rfl, rfl⟩⟩
  | unrecorded htried hunrecorded => exact .inr ⟨_, _, _, _, htried, hunrecorded⟩
  | stuck hbroken _ => exact absurd trivial hbroken

theorem Undone.keepsAll {sync : SyncConfig} (hbefore : before.Lawful) (hopened : Opened sync before opened)
    (h : opened.Undone after) : before.KeepsAll after := by
  obtain ⟨htables, hrecords, hcompleted, hstaged, hinstants⟩ := h
  have hsame := hopened.same
  rw [hsame.2.2] at hinstants
  refine ⟨hrecords.trans hsame.1, hcompleted.trans hopened.completedInstants, hstaged.trans hsame.2.1, ?_, hinstants⟩
  · rcases hopened with rfl | ⟨habsent, rfl⟩
    · exact .inl htables
    · have hnew : before.hasTable sync.newShell.basePath = false := by
        rw [hasTable]
        exact congrArg Option.isSome habsent
      have helsewhere : ∀ path, before.hasTable path = true → path ≠ sync.newShell.basePath := by
        rintro path hpath rfl
        rw [hnew] at hpath
        cases hpath
      refine .inr ⟨sync.newShell, htables, hnew, rfl, ?_, ?_⟩
      · intro row hrow
        rw [hrecords] at hrow
        exact helsewhere _ (hbefore.visible row hrow)
      · intro row hrow hpath
        have hold : row ∈ before.instants → row.state = .rolledBack :=
          fun hmem => absurd hpath (helsewhere _ (hbefore.registered row hmem))
        rcases hinstants with heq | ⟨last, hlast, heq⟩
        · exact hold (heq ▸ hrow)
        · rw [heq] at hrow
          rcases List.mem_append.mp hrow with hmem | hmem
          · exact hold hmem
          · rw [List.mem_singleton.mp hmem]
            exact hlast

end Store

/-! ## 2. The round -/

/-- A round left its instant inflight, with what was staged under it: the columns did not take what it tried to record
with its commit. -/
def Plan.Strands (plan : Plan ρ) (before after : RoundWorld ρ) : Prop :=
  ∃ opened config extra operation records time, Opened plan.config before.store opened ∧
    plan.Tries before.state.scene after.state.scene opened config extra ∧
    opened.Unrecorded config operation records extra time after.store

section Strands

variable {plan : Plan ρ} {w w' : RoundWorld ρ}

/-- Readers see what they saw before. -/
theorem Plan.Strands.unseen (h : plan.Strands w w') :
    w'.store.records = w.store.records ∧ w'.store.completedInstants = w.store.completedInstants := by
  obtain ⟨opened, config, extra, operation, records, time, hopened, -, hunrecorded⟩ := h
  have habandoned : opened.Abandoned True (fun _ => True) config w'.store := .unrecorded trivial hunrecorded
  have hrecords : w'.store.records = opened.records := by
    rw [hunrecorded.pending.eq]
    rfl
  exact ⟨hrecords.trans hopened.same.1, habandoned.completedInstants.trans hopened.completedInstants⟩

theorem Plan.Strands.instants (h : plan.Strands w w') :
    ∃ row, row.state = .inflight ∧ w'.store.instants = w.store.instants ++ [row] := by
  obtain ⟨opened, config, extra, operation, records, time, hopened, -, hunrecorded⟩ := h
  refine ⟨config.newInstant time, rfl, ?_⟩
  rw [hunrecorded.pending.eq, ← hopened.same.2.2]
  rfl

theorem Plan.Strands.not_keepsAll (h : plan.Strands w w') : ¬w.store.KeepsAll w'.store := by
  intro hkeeps
  obtain ⟨row, hinflight, hinstants⟩ := h.instants
  rcases hkeeps.instants with hsame | ⟨last, hrolled, hlast⟩
  · rw [hsame] at hinstants
    simp at hinstants
  · obtain rfl : last = row := List.singleton_inj.mp (List.append_cancel_left (hlast.symm.trans hinstants))
    rw [hinflight] at hrolled
    cases hrolled

end Strands

/-- A round commits one instant with the checkpoint that it returns, and what it staged becomes visible, or it
keeps everything as it was. -/
def Plan.AllOrNothing (plan : Plan ρ) (before after : RoundWorld ρ) : Except Failure RoundResult → Prop
  | .ok result =>
    (result.status = .committed ∧ ∃ config rows row, plan.Configures config ∧
      after.stagings = before.stagings ++ rows ∧ before.store.Gains after.store config rows row ∧
      result.instantTime = some row.time ∧ result.checkpoint = row.checkpoint? ∧ row.checkpoint?.isSome) ∨
    (result.status = .noNewData ∧ before.store.KeepsAll after.store)
  | .error _ => before.store.KeepsAll after.store

theorem Plan.AllOrNothing.not_strands {plan : Plan ρ} {w w' : RoundWorld ρ} {result : RoundResult}
    (h : plan.AllOrNothing w w' (.ok result)) : ¬plan.Strands w w' := by
  intro hstrands
  rcases h with ⟨-, config, rows, row, -, -, hgains, -⟩ | ⟨-, hkeeps⟩
  · have hcompleted := hgains.completed
    rw [hstrands.unseen.2] at hcompleted
    simp at hcompleted
  · exact hstrands.not_keepsAll hkeeps

/-- Whatever the plan of a round does outside the tables, and whatever has happened before: a round on a calm
store that it has to itself is all or nothing, unless the columns do not take what it tries to record. Then it fails and
its instant stays inflight, with what is staged under it, though readers see what they saw before. -/
theorem Course.run_allOrNothing {plan : Plan ρ} {history : List RoundRecord} {w w' : RoundWorld ρ}
    {outcome : Except Failure RoundResult} (hcourse : Course (fun _ => True) True history plan w)
    (hcalm : w.state.outside.inner.Calm)
    (hrun : (plan.round Exposed.tableStore).run.runIn w = (outcome, w')) :
    (plan.AllOrNothing w w' outcome ↔ ¬plan.Strands w w') ∧
      (plan.Strands w w' → (∃ failure, outcome = .error failure) ∧
        w'.store.records = w.store.records ∧ w'.store.completedInstants = w.store.completedInstants) := by
  obtain ⟨hlawful, hattached⟩ := hcourse.sound
  have haccount := run_account_of_run hlawful hattached (fun _ : True => hcalm) plan.source.gives_anything hrun
  cases outcome with
  | error failure =>
    obtain ⟨-, -, opened, config, hstops⟩ := haccount
    refine ⟨⟨fun hkeeps hstrands => hstrands.not_keepsAll hkeeps, fun hnot => ?_⟩, fun hstrands => ?_⟩
    · rcases hstops.abandoned.undone with hundone | ⟨operation, records, extra, time, htries, hunrecorded⟩
      · exact hundone.keepsAll hlawful hstops.start
      · exact absurd ⟨opened, config, extra, operation, records, time, hstops.start, htries, hunrecorded⟩ hnot
    · exact ⟨⟨failure, rfl⟩, hstrands.unseen⟩
  | ok result =>
    have hdone : plan.AllOrNothing w w' (.ok result) := by
      obtain ⟨-, -, ⟨point, delivery, hidles⟩ | ⟨point, delivery, opened, config, checkpoint, time, hcommits⟩⟩ := haccount
      · have hundone : w'.store.Undone w'.store := ⟨rfl, rfl, rfl, rfl, .inl rfl⟩
        exact .inr ⟨hidles.status, hundone.keepsAll hlawful hidles.resumes.opened⟩
      · obtain ⟨written, rows, hstagings, hended⟩ := hcommits.ended
        obtain ⟨now, hgains⟩ := hended.gains
        have hcheckpoint := checkpoint?_completed written checkpoint point.resetMarker now (config.newInstant time)
        refine .inl ⟨hcommits.status, config, rows, _, hcommits.configures, hstagings,
          hgains.of_opened hcommits.resumes.opened, hcommits.instant, ?_, ?_⟩
        · rw [hcommits.returned, hcheckpoint]
        · rw [hcheckpoint]
          rfl
    exact ⟨⟨fun _ => hdone.not_strands, fun _ => hdone⟩, fun hstrands => absurd hstrands hdone.not_strands⟩

/-- The first round of the sample plan stages a record and commits, and it is all or nothing. -/
theorem sampleRun_allOrNothing : ∃ outcome w',
    (samplePlan.round Exposed.tableStore).run.runIn sampleWorld = (outcome, w') ∧
    (RoundRecord.mk [] outcome).checkpoint? = some "1" ∧ (RoundWorld.stagings w').map StagedRow.recordKey = ["a"] ∧
    samplePlan.AllOrNothing sampleWorld w' outcome := by
  obtain ⟨outcome, w', hrun, hcheckpoint, hstaged⟩ := sampleRun
  have hcalm : sampleWorld.state.outside.inner.Calm := fun _ hmem => nomatch hmem
  have hexactly := Course.run_allOrNothing (sampleCourse trivial) hcalm hrun
  refine ⟨outcome, w', hrun, hcheckpoint, hstaged, hexactly.1.mpr fun hstrands => ?_⟩
  obtain ⟨⟨failure, rfl⟩, -⟩ := hexactly.2 hstrands
  cases hcheckpoint

/-- The sample plan with a checkpoint that no column takes. -/
def unrecordedPlan : Plan Unit :=
  { samplePlan with source := .records fun _ _ => pure ⟨some [[("id", .text "a"), ("ts", .int 1)]], some "\x00", none⟩ }

/-- Its first round fails, and leaves an instant inflight and a staged row. -/
theorem unrecordedRun : ∃ (failure : Failure) (w' : RoundWorld Unit),
    (unrecordedPlan.round Exposed.tableStore).run.runIn sampleWorld = (.error failure, w') ∧
    w'.store.instants.map (·.state) = [.inflight] ∧ w'.store.staged.map StagedRow.recordKey = ["a"] := by
  have hfails : ((unrecordedPlan.round Exposed.tableStore).run.runIn sampleWorld).1.toBool = false := by
    decide +kernel
  rcases hrun : (unrecordedPlan.round Exposed.tableStore).run.runIn sampleWorld with ⟨failure | result, w'⟩
  · refine ⟨failure, w', rfl, ?_, ?_⟩
    · obtain rfl : ((unrecordedPlan.round Exposed.tableStore).run.runIn sampleWorld).2 = w' := by rw [hrun]
      decide +kernel
    · obtain rfl : ((unrecordedPlan.round Exposed.tableStore).run.runIn sampleWorld).2 = w' := by rw [hrun]
      decide +kernel
  · rw [hrun] at hfails
    cases hfails

/-- So not every round on a calm store is all or nothing. -/
theorem not_always_allOrNothing : ¬∀ (history : List RoundRecord) (plan : Plan Unit) (w w' : RoundWorld Unit)
    (outcome : Except Failure RoundResult), Course (fun _ => True) True history plan w →
    w.state.outside.inner.Calm → (plan.round Exposed.tableStore).run.runIn w = (outcome, w') →
    plan.AllOrNothing w w' outcome := by
  intro hclaim
  obtain ⟨failure, w', hrun, hinflight, -⟩ := unrecordedRun
  have hsetUp : (unrecordedPlan.setUp Exposed.tableStore).runIn sampleWorld = (.ok (), sampleWorld) := rfl
  have hcourse : Course (fun _ => True) True [] unrecordedPlan sampleWorld := .opened trivial ⟨rfl, rfl, rfl⟩ hsetUp
  have hcalm : sampleWorld.state.outside.inner.Calm := fun _ hmem => nomatch hmem
  have hkeeps : sampleWorld.store.KeepsAll w'.store := hclaim [] unrecordedPlan sampleWorld w' _ hcourse hcalm hrun
  rcases hkeeps.instants with hsame | ⟨row, hrolled, hlast⟩
  · rw [hsame] at hinflight
    cases hinflight
  · rw [hlast] at hinflight
    have hstate : row.state = .inflight := List.singleton_inj.mp hinflight
    rw [hrolled] at hstate
    cases hstate

end TableSync
