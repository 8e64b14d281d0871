/-
  TableSync/Proofs/Store/Change.lean
  ==================================
  **Changes** — everything that one operation can do to a store.

  A store changes in five ways: a table is registered, an instant is created,
  rows are staged, an instant is committed, an instant is rolled back.
  `Store.Change` has one constructor for each, with everything that is known
  when it happens, and one for an operation that changes nothing.  A change is
  labelled by a `Deed`, the part of it that whoever asked for the operation was
  told.  An invariant of a store is therefore proved by going through six
  cases, and none of its proofs opens a transaction.
-/
import TableSync.Proofs.Store.Written

namespace TableSync

/-! ## 1. Deeds -/

/-- A commit that was answered with yes: the instant, the moment, and what was to be recorded with it. -/
structure CommitEntry where
  basePath : String
  time : String
  now : Timestamp
  outcome : WriteOutcome
  extra : Fields String

/-- What was to be recorded, as a timeline shows it. -/
def CommitEntry.metadata (entry : CommitEntry) : CommitMetadata :=
  ⟨entry.extra, entry.outcome.totalRecords, entry.outcome.totalErrorRecords⟩

/-- What an operation did, as far as its answer tells. -/
inductive Deed where
  | nothing
  | created (basePath time : String)
  | staged (rows : List StagedRow)
  | committed (entry : CommitEntry)

namespace Deed

/-- The time of an instant that was created in a table. -/
def created? (basePath : String) : Deed → Option String
  | .created path time => if path = basePath then some time else none
  | _ => none

def rows : Deed → List StagedRow
  | .staged rows => rows
  | _ => []

def committed? : Deed → Option CommitEntry
  | .committed entry => some entry
  | _ => none

/-- The times of the instants of a table, in the order in which they were created. -/
def createdIn (basePath : String) (deeds : List Deed) : List String := deeds.filterMap (created? basePath)

/-- Everything that was staged, in the order of staging. -/
def stagings (deeds : List Deed) : List StagedRow := deeds.flatMap rows

/-- The commits that were answered with yes, in the order in which they happened. -/
def commits (deeds : List Deed) : List CommitEntry := deeds.filterMap committed?

@[simp] theorem createdIn_snoc (basePath : String) (deeds : List Deed) (deed : Deed) :
    createdIn basePath (deeds ++ [deed]) = createdIn basePath deeds ++ (deed.created? basePath).toList := by
  cases h : deed.created? basePath <;> simp [createdIn, h]

@[simp] theorem stagings_snoc (deeds : List Deed) (deed : Deed) :
    stagings (deeds ++ [deed]) = stagings deeds ++ deed.rows := by
  simp [stagings]

@[simp] theorem commits_snoc (deeds : List Deed) (deed : Deed) :
    commits (deeds ++ [deed]) = commits deeds ++ deed.committed?.toList := by
  cases h : deed.committed? <;> simp [commits, h]

end Deed

/-! ## 2. Changes -/

/-- A new instant: one of a commit, inflight, or one of a compaction, requested. -/
def InstantRow.Begins (row : InstantRow) : Prop :=
  (row.action ≠ .compaction ∧ row.state = .inflight) ∨ (row.action = .compaction ∧ row.state = .requested)

namespace Store

/-- Everything that an operation can do to a store. -/
inductive Change (store : Store) : Deed → Store → Prop where
  | unchanged : Change store .nothing store
  | registered {shell : TableShell} : store.hasTable shell.basePath = false →
      Change store .nothing { store with tables := store.tables ++ [shell] }
  | created {row : InstantRow} : row.Begins → store.IsNew row.basePath row.time →
      store.hasTable row.basePath = true → Change store (.created row.basePath row.time) (store.withInstant row)
  | staged {instant : InstantRow} {rows : List StagedRow} : instant ∈ store.instants → instant.state = .inflight →
      (∀ row ∈ rows, row.isUnder instant.basePath instant.time = true) →
      Change store (.staged rows) { store with staged := store.staged ++ rows }
  | committed {instant : InstantRow} {config : WriteConfig} {outcome : WriteOutcome} {extra : Fields String}
      {now : Timestamp} {records : List VisibleRow} : instant ∈ store.instants → instant.state = .inflight →
      instant.basePath = config.basePath →
      applyStaged store.records (store.stagedUnder instant.basePath instant.time) now = some records →
      Change store (.committed ⟨instant.basePath, instant.time, now, outcome, extra⟩)
        ((({ store with records }.dropStaged instant.basePath instant.time).updateInstant
          instant.basePath instant.time (completed outcome extra now)).recordSchema config)
  | rolledBack {instant : InstantRow} {now : Timestamp} : instant ∈ store.instants → instant.state ≠ .completed →
      Change store .nothing ((store.dropStaged instant.basePath instant.time).updateInstant
        instant.basePath instant.time fun row => { row with state := .rolledBack, completedAt := some now })

variable {store after : Store} {config : WriteConfig} {now : Timestamp} {named : Option String}

theorem Change.of_initTable {shell : TableShell} (h : store.initTable shell = .ok after) :
    Change store .nothing after := by
  unfold initTable at h
  split at h
  · cases h
    exact .unchanged
  next habsent =>
    split at h
    · cases h
    · cases h
      exact .registered (by simpa using habsent)

theorem Change.of_startCommit (hlawful : store.Lawful) {time : String}
    (h : store.startCommit config now = .ok (time, after)) : Change store (.created config.basePath time) after := by
  obtain ⟨hnew, htable, rfl⟩ := newInstant_eq_ok hlawful h
  have hbegins : (config.newInstant time).Begins := by
    refine .inl ⟨?_, rfl⟩
    show config.tableType.commitAction ≠ .compaction
    cases config.tableType <;> decide
  exact .created hbegins hnew htable

/-- Asking for a compaction creates its instant, or does nothing. -/
theorem Change.of_scheduleCompaction (hlawful : store.Lawful) {asked : Option String}
    (h : store.scheduleCompaction config now = .ok (asked, after)) :
    Change store (match asked with
      | some time => .created config.basePath time
      | none => .nothing) after := by
  rcases scheduleCompaction_eq_ok hlawful h with ⟨rfl, rfl⟩ | ⟨time, rfl, hnew, htable, rfl⟩
  · exact .unchanged
  · have hbegins : (compactionRequest config.basePath time).Begins := .inr ⟨rfl, rfl⟩
    exact .created hbegins hnew htable

/-- What a write stages is what the store has staged beyond what it had. -/
theorem Change.of_stage {operation : WriteOperation} {records : List PreparedRecord} {outcome : WriteOutcome}
    (h : store.stage config operation records named now = .ok (outcome, after)) :
    Change store (.staged (after.staged.drop store.staged.length)) after := by
  obtain ⟨instant, hmem, hpath, -, hstate, rfl⟩ := stage_eq_ok h
  have hadded : (store.staged ++ store.stagedRows config operation records instant.time).drop store.staged.length =
      store.stagedRows config operation records instant.time := List.drop_left
  rw [hadded]
  refine .staged hmem hstate fun row hrow => ?_
  rw [hpath]
  exact isUnder_of_mem_stagedRows hrow

theorem Change.of_commit {outcome : WriteOutcome} {extra : Fields String}
    (h : store.commit config named outcome extra now = .ok after) :
    ∃ time, named = some time ∧ Change store (.committed ⟨config.basePath, time, now, outcome, extra⟩) after := by
  obtain ⟨instant, hmem, records, hpath, htime, hstate, happlied, rfl⟩ := commit_eq_ok h
  rw [← hpath] at happlied ⊢
  exact ⟨instant.time, htime, .committed hmem hstate hpath happlied⟩

theorem Change.of_rollback : Change store .nothing (store.rollback config named now).2 := by
  unfold rollback
  split
  · exact .unchanged
  next instant hinstant =>
    split
    next hcan =>
      obtain ⟨hmem, hpath, -⟩ := instant?_eq_some hinstant
      rw [← hpath]
      exact .rolledBack hmem (by simpa [canRollBack] using hcan)
    next => exact .unchanged

end Store

end TableSync
