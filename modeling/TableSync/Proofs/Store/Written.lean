/-
  TableSync/Proofs/Store/Written.lean
  ===================================
  **What a write leaves** — its instant completed, rolled back, or stuck.

  A write that nobody disturbs ends in one of three ways.  `Committed` says
  exactly what the store is after a commit, `Ended` allows for the compaction
  that may be asked for afterwards, and `Abandoned` is what a failed write
  leaves.  A commit that the columns do not take is `Unrecorded`: nobody rolls
  its instant back.  The second section draws the consequences that matter to readers:
  which records they see, and which instants are completed.
-/
import TableSync.Proofs.Store.Commits

namespace TableSync

/-- The instant that a write client starts. -/
def WriteConfig.newInstant (config : WriteConfig) (time : String) : InstantRow :=
  { basePath := config.basePath, time, action := config.tableType.commitAction, state := .inflight }

namespace Store

/-! ## 1. What a write leaves -/

/-- A committed write: the rows staged under its instant are applied, and the instant is completed. -/
structure Committed (before : Store) (config : WriteConfig) (rows : List StagedRow) (extra : Fields String)
    (time : String) (outcome : WriteOutcome) (after : Store) : Prop where
  isNew : before.IsNew config.basePath time
  registered : before.hasTable config.basePath = true
  under : ∀ row ∈ rows, row.isUnder config.basePath time = true
  applied : ∃ now visible, applyStaged before.records rows now = some visible ∧
    after = ({ before with records := visible }.withInstant
      (completed outcome extra now (config.newInstant time))).recordSchema config

/-- The instant of a compaction that was asked for. -/
def compactionRequest (basePath time : String) : InstantRow :=
  { basePath, time, action := .compaction, state := .requested }

/-- A committed write and what follows it: a compaction may have been asked for. -/
def Ended (before : Store) (config : WriteConfig) (rows : List StagedRow) (extra : Fields String)
    (time : String) (outcome : WriteOutcome) (after : Store) : Prop :=
  ∃ committed, before.Committed config rows extra time outcome committed ∧
    (after = committed ∨ ∃ later,
      committed.IsNew config.basePath later ∧ committed.hasTable config.basePath = true ∧
      after = committed.withInstant (compactionRequest config.basePath later))

/-- A write whose commit the columns do not take: its instant stays inflight, with what is staged under it. -/
structure Unrecorded (before : Store) (config : WriteConfig) (operation : WriteOperation)
    (records : List PreparedRecord) (extra : Fields String) (time : String) (after : Store) : Prop where
  pending : before.Pending config (config.newInstant time) (before.stagedRows config operation records time) after
  untaken : isRecordable config (before.stagedOutcome config operation records) extra = false

/-- A write that failed: nothing is left of it, or its instant rolled back. Only where the store itself broke, or the
columns did not take what it tried to record, may the instant stay inflight with what is staged under it. -/
inductive Abandoned (clean : Prop) (tried : Fields String → Prop) (before : Store) (config : WriteConfig) :
    Store → Prop where
  | untouched : Abandoned clean tried before config before
  | rolledBack {time : String} {now : Timestamp} :
      before.IsNew config.basePath time → before.hasTable config.basePath = true →
      Abandoned clean tried before config
        (before.withInstant { config.newInstant time with state := .rolledBack, completedAt := some now })
  | unrecorded {operation : WriteOperation} {records : List PreparedRecord} {extra : Fields String} {time : String}
      {after : Store} : tried extra → before.Unrecorded config operation records extra time after →
      Abandoned clean tried before config after
  | stuck {time : String} {rows : List StagedRow} {after : Store} :
      ¬clean → before.Pending config (config.newInstant time) rows after → Abandoned clean tried before config after

variable {clean : Prop} {tried : Fields String → Prop} {before after : Store} {config : WriteConfig}
variable {operation : WriteOperation} {rows : List StagedRow}
variable {extra : Fields String} {time : String} {outcome : WriteOutcome}

theorem Lawful.startCommit_pending (h : before.Lawful) {now : Timestamp}
    (hstart : before.startCommit config now = .ok (time, after)) :
    before.Pending config (config.newInstant time) [] after := by
  obtain ⟨hnew, htable, rfl⟩ := newInstant_eq_ok h hstart
  refine ⟨h, rfl, rfl, hnew, htable, nofun, ?_⟩
  show _ = ({ before.withInstant (config.newInstant time) with staged := before.staged ++ [] } : Store)
  rw [List.append_nil]
  rfl

theorem Pending.staged {current : Store} {records : List PreparedRecord} {now : Timestamp}
    (h : before.Pending config (config.newInstant time) [] current)
    (hstage : current.stage config operation records (some time) now = .ok (outcome, after)) :
    before.Pending config (config.newInstant time) (before.stagedRows config operation records time) after := by
  have htakes : current.Takes config operation records := (stage_outcome hstage).1
  rw [h.eq] at htakes
  obtain ⟨other, staged, hother, hpending⟩ := h.stage now htakes
  have hsame : current.stage config operation records (some time) now = .ok (other, staged) := hother
  rw [hsame] at hstage
  cases hstage
  exact hpending

theorem Pending.outcome_eq {current : Store} {records : List PreparedRecord} {now : Timestamp}
    (h : before.Pending config (config.newInstant time) [] current)
    (hstage : current.stage config operation records (some time) now = .ok (outcome, after)) :
    outcome = before.stagedOutcome config operation records := by
  rw [(stage_outcome hstage).2, h.eq]
  rfl

theorem Pending.committed {current : Store} {records : List PreparedRecord} {now : Timestamp}
    (h : before.Pending config (config.newInstant time) (before.stagedRows config operation records time) current)
    (hcommit : current.commit config (some time) outcome extra now = .ok after) :
    before.Committed config (before.stagedRows config operation records time) extra time outcome after := by
  obtain ⟨visible, hvisible, hdone⟩ := h.commit now outcome extra
  have hsame : current.commit config (some time) outcome extra now = _ := hdone
  rw [hsame] at hcommit
  split at hcommit
  next => exact ⟨h.isNew, h.registered, h.under, now, visible, hvisible, (Except.ok.inj hcommit).symm⟩
  next => cases hcommit

/-- A store that is left alone refuses no commit that the columns take. -/
theorem Pending.refused {current : Store} {records : List PreparedRecord} {now : Timestamp} {refusal : Refusal}
    (h : before.Pending config (config.newInstant time) (before.stagedRows config operation records time) current)
    (hrefused : current.commit config (some time) outcome extra now = .error refusal) :
    refusal = .unrecordable ∧ isRecordable config outcome extra = false := by
  obtain ⟨visible, -, hdone⟩ := h.commit now outcome extra
  have hsame : current.commit config (some time) outcome extra now = _ := hdone
  rw [hsame] at hrefused
  split at hrefused
  next => cases hrefused
  next huntaken => exact ⟨(Except.error.inj hrefused).symm, eq_false_of_ne_true huntaken⟩

theorem Pending.abandoned {current : Store} {now : Timestamp}
    (h : before.Pending config (config.newInstant time) rows current) :
    Abandoned clean tried before config (current.rollback config (some time) now).2 := by
  have hsame : current.rollback config (some time) now = _ := h.rollback now
  rw [hsame]
  exact .rolledBack h.isNew h.registered

/-! ## 2. What readers see of it -/

theorem recordSchema_instants (store : Store) : (store.recordSchema config).instants = store.instants := by
  unfold recordSchema
  split <;> rfl

theorem recordSchema_records (store : Store) : (store.recordSchema config).records = store.records := by
  unfold recordSchema
  split <;> rfl

theorem recordSchema_staged (store : Store) : (store.recordSchema config).staged = store.staged := by
  unfold recordSchema
  split <;> rfl

namespace Committed

/-- Exactly one instant is new, and it is completed with the metadata of the commit. -/
theorem instants (h : before.Committed config rows extra time outcome after) :
    ∃ now, after.instants = before.instants ++ [completed outcome extra now (config.newInstant time)] := by
  obtain ⟨now, _, _, rfl⟩ := h.applied
  exact ⟨now, recordSchema_instants _⟩

/-- What becomes visible is what was staged under the instant. -/
theorem records (h : before.Committed config rows extra time outcome after) :
    ∃ now, applyStaged before.records rows now = some after.records := by
  obtain ⟨now, visible, happlied, rfl⟩ := h.applied
  exact ⟨now, by rw [recordSchema_records]; exact happlied⟩

theorem staged (h : before.Committed config rows extra time outcome after) : after.staged = before.staged := by
  obtain ⟨_, _, _, rfl⟩ := h.applied
  exact recordSchema_staged _

theorem hasTable (h : before.Committed config rows extra time outcome after) (path : String) :
    after.hasTable path = before.hasTable path := by
  obtain ⟨_, _, _, rfl⟩ := h.applied
  exact hasTable_recordSchema

theorem lawful (h : before.Committed config rows extra time outcome after) (hbefore : before.Lawful) :
    after.Lawful := by
  obtain ⟨now, visible, happlied, rfl⟩ := h.applied
  have hvisible : ({ before with records := visible } : Store).Lawful := by
    refine ⟨hbefore.increasing, hbefore.registered, fun row hrow => ?_, hbefore.inflight⟩
    rcases mem_applyStaged happlied hrow with hold | ⟨new, hnew, rfl⟩
    · exact hbefore.visible row hold
    · have hpath := (isUnder_iff.mp (h.under new hnew)).1
      show before.hasTable new.basePath = true
      rw [hpath]
      exact h.registered
  have hrow : (({ before with records := visible } : Store).withInstant
      (completed outcome extra now (config.newInstant time))).Lawful := hvisible.withInstant h.isNew h.registered
  exact hrow.recordSchema

end Committed

theorem Ended.lawful (h : before.Ended config rows extra time outcome after) (hbefore : before.Lawful) :
    after.Lawful := by
  obtain ⟨committed, hcommitted, rfl | ⟨later, hnew, htable, rfl⟩⟩ := h
  · exact hcommitted.lawful hbefore
  · exact (hcommitted.lawful hbefore).withInstant hnew htable

/-- The commits of a table after a write: one more if the write was made for that table and its type. -/
theorem Ended.completedCommits (h : before.Ended config rows extra time outcome after) (hbefore : before.Lawful)
    (path : String) (tableType : TableType) : ∃ now,
    after.completedCommits path tableType = before.completedCommits path tableType ++
      if config.basePath = path ∧ config.tableType.commitAction = tableType.commitAction
      then [completed outcome extra now (config.newInstant time)] else [] := by
  have hlawful := h.lawful hbefore
  obtain ⟨committed, hcommitted, hafter⟩ := h
  obtain ⟨now, hinstants⟩ := hcommitted.instants
  refine ⟨now, ?_⟩
  have hrow : (before.withInstant (completed outcome extra now (config.newInstant time))).Lawful :=
    hbefore.withInstant hcommitted.isNew hcommitted.registered
  have hcommits : committed.completedCommits path tableType = before.completedCommits path tableType ++
      if config.basePath = path ∧ config.tableType.commitAction = tableType.commitAction
      then [completed outcome extra now (config.newInstant time)] else [] := by
    have hsame : committed.completedCommits path tableType =
        (before.withInstant (completed outcome extra now (config.newInstant time))).completedCommits path tableType := by
      simp only [Store.completedCommits, instantsOf, hinstants, withInstant]
    rw [hsame, hbefore.completedCommits_withInstant hrow]
    simp [InstantRow.isCommitOf, completed, WriteConfig.newInstant]
  rcases hafter with rfl | ⟨later, -, -, rfl⟩
  · exact hcommits
  · have hrequest : (compactionRequest config.basePath later).isCommitOf tableType = false := by
      cases tableType <;> rfl
    rw [(hcommitted.lawful hbefore).completedCommits_withInstant hlawful, hrequest, hcommits]
    simp

theorem Abandoned.mono {more : Fields String → Prop} (h : before.Abandoned clean tried config after)
    (hmore : ∀ extra, tried extra → more extra) : before.Abandoned clean more config after := by
  cases h with
  | untouched => exact .untouched
  | rolledBack hnew htable => exact .rolledBack hnew htable
  | unrecorded htried hunrecorded => exact .unrecorded (hmore _ htried) hunrecorded
  | stuck hbroken hpending => exact .stuck hbroken hpending

theorem Abandoned.completedInstants (h : before.Abandoned clean tried config after) :
    after.completedInstants = before.completedInstants := by
  have hlast : ∀ row : InstantRow, row.state ≠ .completed →
      (before.withInstant row).completedInstants = before.completedInstants := by
    intro row hrow
    have hskip : ([row].filter fun row => row.state == .completed) = [] := by simpa using hrow
    show (before.instants ++ [row]).filter _ = before.instants.filter _
    rw [List.filter_append, hskip, List.append_nil]
  cases h with
  | untouched => rfl
  | rolledBack _ _ => exact hlast _ nofun
  | unrecorded _ hunrecorded =>
    rw [hunrecorded.pending.eq]
    exact hlast _ nofun
  | stuck _ hpending =>
    rw [hpending.eq]
    exact hlast _ nofun

theorem Abandoned.tables (h : before.Abandoned clean tried config after) : after.tables = before.tables := by
  cases h with
  | untouched => rfl
  | rolledBack _ _ => rfl
  | unrecorded _ hunrecorded =>
    rw [hunrecorded.pending.eq]
    rfl
  | stuck _ hpending =>
    rw [hpending.eq]
    rfl

/-- A shell is found where it was, however it has changed in its place. -/
theorem table?_updateTable {store : Store} {path basePath : String} {change : TableShell → TableShell}
    (hchange : ∀ shell, (change shell).basePath = shell.basePath) :
    (store.updateTable basePath change).table? path =
      (store.table? path).map fun shell => if path = basePath then change shell else shell := by
  have hpath : ((fun other : TableShell => other.basePath == path) ∘ fun other =>
      if other.basePath == basePath then change other else other) = fun other => other.basePath == path := by
    funext other
    simp only [Function.comp_apply]
    split
    · rw [hchange]
    · rfl
  rw [table?, updateTable, List.find?_map, hpath]
  refine Option.map_congr fun shell hshell => ?_
  have hfound : shell.basePath = path := by simpa using List.find?_some hshell
  simp [hfound]

theorem table?_recordSchema {store : Store} {path : String} {shell : TableShell}
    (h : (store.recordSchema config).table? path = some shell) :
    ∃ old, store.table? path = some old ∧ shell.tableType = old.tableType := by
  unfold recordSchema at h
  split at h
  next => exact ⟨shell, h, rfl⟩
  next schema _ =>
    rw [table?_updateTable] at h
    · obtain ⟨old, hold, rfl⟩ := Option.map_eq_some_iff.mp h
      refine ⟨old, hold, ?_⟩
      split <;> rfl
    · exact fun _ => rfl

theorem Ended.table? (h : before.Ended config rows extra time outcome after) {path : String} {shell : TableShell}
    (hshell : after.table? path = some shell) :
    ∃ old, before.table? path = some old ∧ shell.tableType = old.tableType := by
  obtain ⟨committed, hcommitted, hafter⟩ := h
  have hsame : committed.table? path = some shell := by
    rcases hafter with rfl | ⟨later, -, -, rfl⟩
    · exact hshell
    · exact hshell
  obtain ⟨_, _, _, rfl⟩ := hcommitted.applied
  obtain ⟨old, hold, htype⟩ := table?_recordSchema hsame
  exact ⟨old, hold, htype⟩

theorem Pending.lawful_current {row : InstantRow} {rows : List StagedRow} {current : Store}
    (h : before.Pending config row rows current) : current.Lawful := by
  have hrow : (before.withInstant row).Lawful :=
    h.lawful.withInstant (h.path ▸ h.isNew) (h.path ▸ h.registered)
  rw [h.eq]
  refine hrow.withStaged fun staged hstaged => ⟨row, List.mem_append_right _ List.mem_cons_self, ?_, h.inflight⟩
  obtain ⟨hpath, htime⟩ := isUnder_iff.mp (h.under staged hstaged)
  exact isAt_iff.mpr ⟨h.path.trans hpath.symm, htime.symm⟩

theorem Abandoned.lawful (h : before.Abandoned clean tried config after) (hbefore : before.Lawful) :
    after.Lawful := by
  cases h with
  | untouched => exact hbefore
  | rolledBack hnew htable => exact hbefore.withInstant hnew htable
  | unrecorded _ hunrecorded => exact hunrecorded.pending.lawful_current
  | stuck _ hpending => exact hpending.lawful_current

end Store

end TableSync
