/-
  TableSync/Proofs/Store/Part.lean
  ================================
  **The part of a store that belongs to one table** — what its transactions see,
  and what they leave alone.

  All tables share the four lists of a store.  `Store.part` keeps the rows of
  one path.  A transaction of a table sees no more than this part of the store:
  run on the part alone it answers the same and leaves the same part
  (`newInstant_part`, `stage_part`, `commit_part`, …).  And it touches nothing
  else: the part of every other table is what it was, and so are the names of
  all tables (`Store.Touches`).  Registering a table is the one transaction that
  looks at other tables, because their names are taken.
-/
import TableSync.Proofs.Store.Transaction

namespace TableSync.Store

variable {store after : Store} {path other : String} {now : Timestamp} {config : WriteConfig} {named : Option String}

/-! ## 1. Parts -/

/-- The rows of a store that belong to the table at a path. -/
def part (store : Store) (path : String) : Store where
  tables := store.tables.filter fun shell => shell.basePath == path
  instants := store.instants.filter fun row => row.basePath == path
  records := store.records.filter fun row => row.basePath == path
  staged := store.staged.filter fun row => row.basePath == path

/-- The staged rows of a table, in the order of staging. -/
def stagedOf (store : Store) (path : String) : List StagedRow := store.staged.filter fun row => row.basePath == path

/-- The names that are taken. -/
def names (store : Store) : List String := store.tables.map (·.tableName)

@[simp] theorem table?_part : (store.part path).table? path = store.table? path := by
  simp only [table?, part, List.find?_filter, and_self, Bool.decide_eq_true]

@[simp] theorem hasTable_part : (store.part path).hasTable path = store.hasTable path := by
  simp [hasTable]

@[simp] theorem instantsOf_part : (store.part path).instantsOf path = store.instantsOf path := by
  simp [instantsOf, part]

@[simp] theorem recordsOf_part : (store.part path).recordsOf path = store.recordsOf path := by
  simp [recordsOf, part]

@[simp] theorem stagedOf_part : (store.part path).stagedOf path = store.stagedOf path := by
  simp [stagedOf, part]

@[simp] theorem instant?_part : (store.part path).instant? path named = store.instant? path named := by
  cases named with
  | none => rfl
  | some time =>
    have hat : ∀ row : InstantRow, (row.basePath == path) = true ∧ row.isAt path time = true ↔
        row.isAt path time = true := by
      intro row
      simp [InstantRow.isAt]
    simp only [instant?, part, Option.bind_some, List.find?_filter, hat, Bool.decide_eq_true]

@[simp] theorem stagedUnder_part (time : String) :
    (store.part path).stagedUnder path time = store.stagedUnder path time := by
  simp only [stagedUnder, part, List.filter_filter]
  refine List.filter_congr fun row _ => ?_
  by_cases h : row.basePath = path <;> simp [StagedRow.isUnder, h]

@[simp] theorem hasKey_part : (store.part path).hasKey path = store.hasKey path := by
  funext key
  simp [hasKey, part, List.any_filter]

@[simp] theorem latestTime?_part : (store.part path).latestTime? path = store.latestTime? path := by
  simp [latestTime?]

@[simp] theorem uncompacted_part : (store.part path).uncompacted path = store.uncompacted path := by
  simp [uncompacted, lastCompaction?]

@[simp] theorem timelineOf_part (tableType : TableType) :
    (store.part path).timelineOf path tableType = store.timelineOf path tableType := by
  simp [timelineOf, completedCommits]

@[simp] theorem partitions_part : (store.part path).partitions path = store.partitions path := by
  simp [partitions]

theorem openMetadata_part : (store.part path).openMetadata path now = store.openMetadata path now := by
  simp [openMetadata]

theorem describeTable_part : (store.part path).describeTable path now = store.describeTable path now := by
  simp [describeTable]

/-- Stores with the same part of a table show the same of it. -/
theorem shown_of_part_eq (h : after.part path = store.part path) :
    after.table? path = store.table? path ∧ after.instantsOf path = store.instantsOf path ∧
      after.stagedOf path = store.stagedOf path ∧ after.recordsOf path = store.recordsOf path := by
  refine ⟨?_, ?_, ?_, ?_⟩
  · rw [← table?_part, h, table?_part]
  · rw [← instantsOf_part, h, instantsOf_part]
  · rw [← stagedOf_part, h, stagedOf_part]
  · rw [← recordsOf_part, h, recordsOf_part]

/-! ## 2. Single changes -/

/-- A change of the table at a path: no other part changes, and no name. -/
structure Touches (path : String) (store after : Store) : Prop where
  elsewhere : ∀ other, other ≠ path → after.part other = store.part other
  names : after.names = store.names

theorem Touches.refl (path : String) (store : Store) : store.Touches path store := ⟨fun _ _ => rfl, rfl⟩

theorem Touches.trans {between : Store} (h : Touches path store between) (hmore : Touches path between after) :
    Touches path store after where
  elsewhere other hne := (hmore.elsewhere other hne).trans (h.elsewhere other hne)
  names := hmore.names.trans h.names

theorem part_withInstant {row : InstantRow} (h : row.basePath = path) :
    (store.withInstant row).part path = (store.part path).withInstant row := by
  simp [part, withInstant, h]

theorem touches_withInstant (row : InstantRow) : store.Touches row.basePath (store.withInstant row) where
  elsewhere other hne := by simp [part, withInstant, hne.symm]
  names := rfl

theorem part_withStaged {rows : List StagedRow} (h : ∀ row ∈ rows, row.basePath = path) :
    ({ store with staged := store.staged ++ rows } : Store).part path =
      { store.part path with staged := (store.part path).staged ++ rows } := by
  have hall : rows.filter (fun row => row.basePath == path) = rows :=
    List.filter_eq_self.mpr fun row hrow => by simp [h row hrow]
  simp [part, hall]

theorem touches_withStaged {rows : List StagedRow} (h : ∀ row ∈ rows, row.basePath = path) :
    store.Touches path { store with staged := store.staged ++ rows } where
  elsewhere other hne := by
    have hnone : rows.filter (fun row => row.basePath == other) = [] :=
      List.filter_eq_nil_iff.mpr fun row hrow => by simp [h row hrow, hne.symm]
    simp [part, hnone]
  names := rfl

theorem part_dropStaged (time : String) :
    (store.dropStaged path time).part path = (store.part path).dropStaged path time := by
  simp [part, dropStaged, Bool.and_comm]

theorem touches_dropStaged (time : String) : store.Touches path (store.dropStaged path time) where
  elsewhere other hne := by
    have hkept : (store.staged.filter fun row => !row.isUnder path time).filter (fun row => row.basePath == other) =
        store.staged.filter fun row => row.basePath == other := by
      rw [List.filter_filter]
      refine List.filter_congr fun row _ => ?_
      by_cases h : row.basePath = other <;> simp [StagedRow.isUnder, h, hne]
    simp only [part, dropStaged, hkept]
  names := rfl

section InPlace

variable {α : Type} {pathOf : α → String} {change : α → α} {test : α → Bool}

theorem filter_map_path (hchange : ∀ row, pathOf (change row) = pathOf row) (rows : List α) :
    (rows.map fun row => if test row then change row else row).filter (fun row => pathOf row == other) =
      (rows.filter fun row => pathOf row == other).map fun row => if test row then change row else row := by
  rw [List.filter_map]
  congr 1
  refine List.filter_congr fun row _ => ?_
  by_cases h : test row = true <;> simp [h, hchange]

theorem filter_map_elsewhere (hchange : ∀ row, pathOf (change row) = pathOf row)
    (htest : ∀ row, pathOf row = other → test row = false) (rows : List α) :
    (rows.map fun row => if test row then change row else row).filter (fun row => pathOf row == other) =
      rows.filter fun row => pathOf row == other := by
  rw [filter_map_path hchange]
  refine (List.map_congr_left fun row hrow => ?_).trans (List.map_id _)
  have hpath : pathOf row = other := by simpa using (List.mem_filter.mp hrow).2
  simp [htest row hpath]

end InPlace

section Instant

variable {change : InstantRow → InstantRow}

theorem part_updateInstant (hchange : InPlace change) (time : String) :
    (store.updateInstant path time change).part path = (store.part path).updateInstant path time change := by
  simp only [part, updateInstant, filter_map_path fun row => (hchange row).1]

theorem touches_updateInstant (hchange : InPlace change) (time : String) :
    store.Touches path (store.updateInstant path time change) where
  elsewhere other hne := by
    have htest : ∀ row : InstantRow, row.basePath = other → row.isAt path time = false := by
      intro row hrow
      simp [InstantRow.isAt, hrow, hne]
    simp only [part, updateInstant, filter_map_elsewhere (fun row => (hchange row).1) htest]
  names := rfl

end Instant

section Shell

variable {change : TableShell → TableShell}

theorem part_updateTable (hpath : ∀ shell, (change shell).basePath = shell.basePath) :
    (store.updateTable path change).part path = (store.part path).updateTable path change := by
  simp only [part, updateTable, filter_map_path hpath]

theorem touches_updateTable (hpath : ∀ shell, (change shell).basePath = shell.basePath)
    (hname : ∀ shell, (change shell).tableName = shell.tableName) :
    store.Touches path (store.updateTable path change) where
  elsewhere other hne := by
    have htest : ∀ shell : TableShell, shell.basePath = other → (shell.basePath == path) = false := by
      intro shell hshell
      simp [hshell, hne]
    simp only [part, updateTable, filter_map_elsewhere hpath htest]
  names := by
    simp only [names, updateTable, List.map_map]
    refine List.map_congr_left fun shell _ => ?_
    by_cases h : shell.basePath = path <;> simp [h, hname]

end Shell

theorem part_recordSchema : (store.recordSchema config).part config.basePath =
    (store.part config.basePath).recordSchema config := by
  unfold recordSchema
  split
  · rfl
  · exact part_updateTable fun _ => rfl

theorem touches_recordSchema (store : Store) (config : WriteConfig) :
    store.Touches config.basePath (store.recordSchema config) := by
  unfold recordSchema
  split
  · exact Touches.refl _ _
  · exact touches_updateTable (fun _ => rfl) fun _ => rfl

/-! ## 3. Visible records -/

/-- The rows of a table among visible ones. -/
def rowsOf (path : String) (rows : List VisibleRow) : List VisibleRow := rows.filter fun row => row.basePath == path

section Visible

variable {row : VisibleRow} {rows new result : List VisibleRow} {staged : List StagedRow}

theorem path_of_sameRecord {a b : VisibleRow} (h : sameRecord a b = true) : a.basePath = b.basePath := by
  simp only [sameRecord, Bool.and_eq_true, beq_iff_eq] at h
  exact h.1

theorem insertRow_rowsOf (h : row.basePath = path) :
    insertRow (rowsOf path rows) row = (insertRow rows row).map (rowsOf path) := by
  have htest : ∀ old : VisibleRow, (old.basePath == path && sameRecord row old) = sameRecord row old := by
    intro old
    by_cases hsame : sameRecord row old = true
    · simp [hsame, ← path_of_sameRecord hsame, h]
    · simp [hsame]
  have hany : (rowsOf path rows).any (sameRecord row) = rows.any (sameRecord row) := by
    simp only [rowsOf, List.any_filter, htest]
  unfold insertRow
  rw [hany]
  split
  · rfl
  · simp [rowsOf, h]

theorem upsertRow_rowsOf (h : row.basePath = path) :
    upsertRow (rowsOf path rows) row = rowsOf path (upsertRow rows row) := by
  induction rows with
  | nil => simp [rowsOf, upsertRow, h]
  | cons old rest ih =>
    by_cases hsame : sameRecord old row = true
    · have hold : old.basePath = path := (path_of_sameRecord hsame).trans h
      simp [rowsOf, upsertRow, hsame, hold, h]
    · by_cases hold : old.basePath = path
      · simpa [rowsOf, upsertRow, hsame, hold] using ih
      · simpa [rowsOf, upsertRow, hsame, hold] using ih

theorem rowsOf_upsertRow_elsewhere (h : row.basePath ≠ path) : rowsOf path (upsertRow rows row) = rowsOf path rows := by
  induction rows with
  | nil => simp [rowsOf, upsertRow, h]
  | cons old rest ih =>
    by_cases hsame : sameRecord old row = true
    · have hold : old.basePath ≠ path := by
        rw [path_of_sameRecord hsame]
        exact h
      simp [rowsOf, upsertRow, hsame, hold, h]
    · by_cases hold : old.basePath = path
      · simpa [rowsOf, upsertRow, hsame, hold] using ih
      · simpa [rowsOf, upsertRow, hsame, hold] using ih

theorem foldlM_insertRow_rowsOf (h : ∀ row ∈ new, row.basePath = path) :
    new.foldlM insertRow (rowsOf path rows) = (new.foldlM insertRow rows).map (rowsOf path) := by
  induction new generalizing rows with
  | nil => rfl
  | cons first rest ih =>
    have hrest : ∀ row ∈ rest, row.basePath = path := fun row hrow => h row (List.mem_cons_of_mem _ hrow)
    rw [List.foldlM_cons, List.foldlM_cons, insertRow_rowsOf (h first List.mem_cons_self)]
    cases insertRow rows first with
    | none => rfl
    | some next => exact ih hrest

theorem foldl_upsertRow_rowsOf (h : ∀ row ∈ new, row.basePath = path) :
    new.foldl upsertRow (rowsOf path rows) = rowsOf path (new.foldl upsertRow rows) := by
  induction new generalizing rows with
  | nil => rfl
  | cons first rest ih =>
    rw [List.foldl_cons, List.foldl_cons, upsertRow_rowsOf (h first List.mem_cons_self)]
    exact ih fun row hrow => h row (List.mem_cons_of_mem _ hrow)

theorem rowsOf_foldl_upsertRow_elsewhere (h : ∀ row ∈ new, row.basePath ≠ path) :
    rowsOf path (new.foldl upsertRow rows) = rowsOf path rows := by
  induction new generalizing rows with
  | nil => rfl
  | cons first rest ih =>
    rw [List.foldl_cons, ih fun row hrow => h row (List.mem_cons_of_mem _ hrow)]
    exact rowsOf_upsertRow_elsewhere (h first List.mem_cons_self)

theorem path_of_mem_visible {test : StagedRow → Bool} (h : ∀ row ∈ staged, row.basePath = path)
    (hrow : row ∈ (staged.filter test).map (visibleRow now)) : row.basePath = path := by
  obtain ⟨new, hnew, rfl⟩ := List.mem_map.mp hrow
  exact h new (List.mem_of_mem_filter hnew)

theorem applyStaged_rowsOf (h : ∀ row ∈ staged, row.basePath = path) :
    applyStaged (rowsOf path rows) staged now = (applyStaged rows staged now).map (rowsOf path) := by
  rw [applyStaged_eq, applyStaged_eq, foldlM_insertRow_rowsOf fun _ => path_of_mem_visible h, Option.map_map,
    Option.map_map]
  congr 1
  funext inserted
  exact foldl_upsertRow_rowsOf fun _ => path_of_mem_visible h

theorem rowsOf_applyStaged_elsewhere (h : ∀ row ∈ staged, row.basePath = path) (hne : other ≠ path)
    (happlied : applyStaged rows staged now = some result) : rowsOf other result = rowsOf other rows := by
  have helsewhere : ∀ test : StagedRow → Bool, ∀ row ∈ (staged.filter test).map (visibleRow now),
      row.basePath ≠ other := fun test row hrow => path_of_mem_visible h hrow ▸ hne.symm
  rw [applyStaged_eq] at happlied
  obtain ⟨inserted, hinserted, rfl⟩ := Option.map_eq_some_iff.mp happlied
  rw [rowsOf_foldl_upsertRow_elsewhere (helsewhere _), foldlM_insertRow hinserted, rowsOf, rowsOf, List.filter_append]
  have hnone : ((staged.filter fun row => !(row.operation == .upsert)).map (visibleRow now)).filter
      (fun row => row.basePath == other) = [] :=
    List.filter_eq_nil_iff.mpr fun row hrow => by simpa using helsewhere _ row hrow
  rw [hnone, List.append_nil]

end Visible

/-! ## 4. Transactions -/

theorem newInstant_part (action : InstantAction) (state : InstantState) :
    (store.part path).newInstant path action state now =
      (store.newInstant path action state now).map fun answer => (answer.1, answer.2.part path) := by
  have hadded : (store.part path).withInstant { basePath := path, time := now.instantTime, action, state } =
      (store.withInstant { basePath := path, time := now.instantTime, action, state }).part path := by
    rw [part_withInstant rfl]
  simp only [withInstant] at hadded
  unfold newInstant
  rw [latestTime?_part, hasTable_part]
  dsimp only
  rw [hadded]
  split
  · split <;> rfl
  · split <;> rfl

theorem newInstant_touches {action : InstantAction} {state : InstantState} {time : String}
    (h : store.newInstant path action state now = .ok (time, after)) : store.Touches path after := by
  let row : InstantRow := { basePath := path, time := now.instantTime, action, state }
  have hadded : store.Touches path (store.withInstant row) := touches_withInstant row
  unfold newInstant at h
  dsimp only at h
  split at h
  · split at h
    · cases h
    · obtain ⟨-, rfl⟩ := Prod.mk.inj (Except.ok.inj h)
      exact hadded
  · split at h
    · obtain ⟨-, rfl⟩ := Prod.mk.inj (Except.ok.inj h)
      exact hadded
    · cases h

theorem startCommit_part (h : config.basePath = path) : (store.part path).startCommit config now =
    (store.startCommit config now).map fun answer => (answer.1, answer.2.part path) := by
  subst h
  exact newInstant_part _ _

theorem startCommit_touches {time : String} (h : store.startCommit config now = .ok (time, after)) :
    store.Touches config.basePath after :=
  newInstant_touches h

theorem scheduleCompaction_part (h : config.basePath = path) : (store.part path).scheduleCompaction config now =
    (store.scheduleCompaction config now).map fun answer => (answer.1, answer.2.part path) := by
  subst h
  unfold scheduleCompaction
  rw [uncompacted_part, newInstant_part]
  split
  · cases store.newInstant config.basePath .compaction .requested now <;> rfl
  · rfl

theorem scheduleCompaction_touches {asked : Option String}
    (h : store.scheduleCompaction config now = .ok (asked, after)) : store.Touches config.basePath after := by
  unfold scheduleCompaction at h
  split at h
  · cases hnew : store.newInstant config.basePath .compaction .requested now with
    | error failure =>
      rw [hnew] at h
      cases h
    | ok answer =>
      rw [hnew] at h
      cases h
      exact newInstant_touches hnew
  · cases h
    exact Touches.refl _ _

theorem path_of_mem_stagedRows {operation : WriteOperation} {records : List PreparedRecord} {time : String}
    {row : StagedRow} (h : row ∈ store.stagedRows config operation records time) : row.basePath = config.basePath :=
  (isUnder_iff.mp (isUnder_of_mem_stagedRows h)).1

theorem stage_part (operation : WriteOperation) (records : List PreparedRecord) (h : config.basePath = path) :
    (store.part path).stage config operation records named now =
      (store.stage config operation records named now).map fun answer => (answer.1, answer.2.part path) := by
  subst h
  unfold stage
  rw [instant?_part, hasKey_part]
  split
  · rfl
  next instant _ =>
    split
    · rfl
    · dsimp only
      split
      next =>
        have hrows : ∀ row ∈ store.stagedRows config operation records instant.time, row.basePath = config.basePath :=
          fun row => path_of_mem_stagedRows
        exact congrArg (fun after => Except.ok (_, after)) (part_withStaged hrows).symm
      next => rfl

theorem stage_touches {operation : WriteOperation} {records : List PreparedRecord} {outcome : WriteOutcome}
    (h : store.stage config operation records named now = .ok (outcome, after)) :
    store.Touches config.basePath after := by
  obtain ⟨instant, -, -, -, -, rfl⟩ := stage_eq_ok h
  exact touches_withStaged fun row hrow => path_of_mem_stagedRows hrow

theorem path_of_mem_stagedUnder {time : String} {row : StagedRow} (h : row ∈ store.stagedUnder path time) :
    row.basePath = path :=
  (isUnder_iff.mp (List.mem_filter.mp h).2).1

theorem part_settled {records : List VisibleRow} {time : String} {change : InstantRow → InstantRow}
    (hchange : InPlace change) :
    ((({ store with records }.dropStaged config.basePath time).updateInstant config.basePath time
      change).recordSchema config).part config.basePath =
    ((({ store.part config.basePath with records := rowsOf config.basePath records }.dropStaged
      config.basePath time).updateInstant config.basePath time change).recordSchema config) := by
  rw [part_recordSchema, part_updateInstant hchange, part_dropStaged]
  rfl

theorem commit_part (outcome : WriteOutcome) (extra : Fields String) (h : config.basePath = path) :
    (store.part path).commit config named outcome extra now =
      (store.commit config named outcome extra now).map fun after => after.part path := by
  subst h
  unfold commit
  rw [instant?_part]
  split
  · rfl
  next instant _ =>
    split
    · rfl
    · have hstaged : ∀ row ∈ store.stagedUnder config.basePath instant.time, row.basePath = config.basePath :=
        fun row => path_of_mem_stagedUnder
      have hrecords : (store.part config.basePath).records = rowsOf config.basePath store.records := rfl
      rw [stagedUnder_part, hrecords, applyStaged_rowsOf hstaged]
      cases applyStaged store.records (store.stagedUnder config.basePath instant.time) now with
      | none => rfl
      | some records =>
        dsimp only [Option.map_some]
        split
        next => exact congrArg Except.ok (part_settled (inPlace_completed outcome extra now)).symm
        next => rfl

theorem commit_touches {outcome : WriteOutcome} {extra : Fields String}
    (h : store.commit config named outcome extra now = .ok after) : store.Touches config.basePath after := by
  obtain ⟨instant, -, records, hpath, -, -, happlied, rfl⟩ := commit_eq_ok h
  have hrecords : store.Touches config.basePath { store with records } := by
    refine ⟨fun other hne => ?_, rfl⟩
    have hrows : rowsOf other records = rowsOf other store.records :=
      rowsOf_applyStaged_elsewhere (fun row => path_of_mem_stagedUnder) hne happlied
    simp only [rowsOf] at hrows
    simp only [part, hrows]
  have hdropped := hrecords.trans (touches_dropStaged instant.time)
  have hcompleted := hdropped.trans (touches_updateInstant (inPlace_completed outcome extra now) instant.time)
  exact hcompleted.trans (touches_recordSchema _ config)

theorem rollback_part (h : config.basePath = path) : (store.part path).rollback config named now =
    ((store.rollback config named now).1, (store.rollback config named now).2.part path) := by
  subst h
  unfold rollback
  rw [instant?_part]
  split
  · rfl
  next instant _ =>
    split
    · rw [part_updateInstant (inPlace_rolledBack now), part_dropStaged]
    · rfl

theorem rollback_touches : store.Touches config.basePath (store.rollback config named now).2 := by
  unfold rollback
  split
  · exact Touches.refl _ _
  next instant _ =>
    split
    · exact (touches_dropStaged instant.time).trans (touches_updateInstant (inPlace_rolledBack now) instant.time)
    · exact Touches.refl _ _

end TableSync.Store
