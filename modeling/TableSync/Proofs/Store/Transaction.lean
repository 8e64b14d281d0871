/-
  TableSync/Proofs/Store/Transaction.lean
  =======================================
  **Transactions** — what each operation of a store does when it succeeds.

  Every operation keeps the laws of a store.  For a store that is left alone
  after an instant was started, the following steps are known exactly: the
  instant is the last one, nothing but what was staged under it is staged under
  it, and so staging and rolling back give the closed forms below, and a commit
  is never refused (`commit_staged`).
-/
import TableSync.Proofs.Effect
import TableSync.Proofs.Store.Applied

namespace TableSync.Store

variable {store after : Store} {config : WriteConfig} {now : Timestamp} {time : String}

/-! ## 1. The laws are kept -/

theorem Lawful.initTable (h : store.Lawful) {shell : TableShell} (hinit : store.initTable shell = .ok after) :
    after.Lawful := by
  unfold Store.initTable at hinit
  split at hinit
  · cases hinit
    exact h
  · split at hinit
    · cases hinit
    · cases hinit
      refine h.withTables fun path hpath => ?_
      obtain ⟨other, hmem, hother⟩ := hasTable_iff.mp hpath
      exact hasTable_iff.mpr ⟨other, List.mem_append_left _ hmem, hother⟩

theorem Lawful.newInstant (h : store.Lawful) {basePath : String} {action : InstantAction} {state : InstantState}
    (hnew : store.newInstant basePath action state now = .ok (time, after)) : after.Lawful := by
  obtain ⟨hafter, htable, rfl⟩ := newInstant_eq_ok h hnew
  exact h.withInstant hafter htable

theorem Lawful.startCommit (h : store.Lawful) (hstart : store.startCommit config now = .ok (time, after)) :
    after.Lawful :=
  h.newInstant hstart

/-- Everything that asking for a compaction can do when it succeeds. -/
theorem scheduleCompaction_eq_ok (h : store.Lawful) {asked : Option String}
    (hschedule : store.scheduleCompaction config now = .ok (asked, after)) :
    (asked = none ∧ after = store) ∨
      ∃ time, asked = some time ∧ store.IsNew config.basePath time ∧ store.hasTable config.basePath = true ∧
        after = store.withInstant { basePath := config.basePath, time, action := .compaction, state := .requested } := by
  unfold Store.scheduleCompaction at hschedule
  split at hschedule
  · obtain ⟨⟨time, added⟩, hnew, hdone⟩ := bind_eq_ok.mp hschedule
    cases hdone
    exact .inr ⟨time, rfl, newInstant_eq_ok h hnew⟩
  · cases hschedule
    exact .inl ⟨rfl, rfl⟩

theorem Lawful.scheduleCompaction (h : store.Lawful) {asked : Option String}
    (hschedule : store.scheduleCompaction config now = .ok (asked, after)) : after.Lawful := by
  rcases scheduleCompaction_eq_ok h hschedule with ⟨-, rfl⟩ | ⟨time, -, hnew, htable, rfl⟩
  · exact h
  · exact h.withInstant hnew htable

/-- Everything that staging can do when it succeeds. -/
theorem stage_eq_ok {operation : WriteOperation} {records : List PreparedRecord} {named : Option String}
    {outcome : WriteOutcome} (hstage : store.stage config operation records named now = .ok (outcome, after)) :
    ∃ instant ∈ store.instants, instant.basePath = config.basePath ∧ named = some instant.time ∧
      instant.state = .inflight ∧
      after = { store with staged := store.staged ++ store.stagedRows config operation records instant.time } := by
  unfold Store.stage at hstage
  split at hstage
  · cases hstage
  next instant hinstant =>
    split at hstage
    · cases hstage
    next hstate =>
      dsimp only at hstage
      split at hstage
      next =>
        cases hstage
        obtain ⟨hmem, hpath, htime⟩ := instant?_eq_some hinstant
        exact ⟨instant, hmem, hpath, htime, by simpa using hstate, rfl⟩
      next => cases hstage

/-- What is staged is taken by the database, and the outcome is that of the batch. -/
theorem stage_outcome {operation : WriteOperation} {records : List PreparedRecord} {named : Option String}
    {outcome : WriteOutcome} (hstage : store.stage config operation records named now = .ok (outcome, after)) :
    store.Takes config operation records ∧ outcome = store.stagedOutcome config operation records := by
  unfold Store.stage at hstage
  split at hstage
  · cases hstage
  · split at hstage
    · cases hstage
    · dsimp only at hstage
      split at hstage
      next htakes =>
        cases hstage
        exact ⟨takes_iff.mpr htakes, rfl⟩
      next => cases hstage

theorem Lawful.withStaged (h : store.Lawful) {rows : List StagedRow}
    (hrows : ∀ row ∈ rows, ∃ instant ∈ store.instants,
      instant.isAt row.basePath row.instantTime = true ∧ instant.state = .inflight) :
    ({ store with staged := store.staged ++ rows } : Store).Lawful where
  increasing := h.increasing
  registered := h.registered
  visible := h.visible
  inflight row hrow := by
    rcases List.mem_append.mp hrow with hold | hnew
    · exact h.inflight row hold
    · exact hrows row hnew

theorem Lawful.stage (h : store.Lawful) {operation : WriteOperation} {records : List PreparedRecord}
    {named : Option String} {outcome : WriteOutcome}
    (hstage : store.stage config operation records named now = .ok (outcome, after)) : after.Lawful := by
  obtain ⟨instant, hmem, hpath, -, hstate, rfl⟩ := stage_eq_ok hstage
  refine h.withStaged fun row hrow => ⟨instant, hmem, ?_, hstate⟩
  obtain ⟨hrowPath, hrowTime⟩ := isUnder_iff.mp (isUnder_of_mem_stagedRows hrow)
  exact isAt_iff.mpr ⟨hpath.trans hrowPath.symm, hrowTime.symm⟩

theorem inPlace_rolledBack (now : Timestamp) :
    InPlace fun row => { row with state := .rolledBack, completedAt := some now } :=
  fun _ => ⟨rfl, rfl⟩

theorem inPlace_completed (outcome : WriteOutcome) (extra : Fields String) (now : Timestamp) :
    InPlace (completed outcome extra now) :=
  fun _ => ⟨rfl, rfl⟩

theorem Lawful.rollback (h : store.Lawful) {named : Option String} : (store.rollback config named now).2.Lawful := by
  unfold Store.rollback
  split
  · exact h
  · split
    · exact h.dropStaged.updateInstant (inPlace_rolledBack now) fun _ hmem => not_isUnder_of_mem_dropStaged hmem
    · exact h

/-- A rollback that is refused changes nothing. -/
theorem rollback_refused {named : Option String} (h : (store.rollback config named now).1 = false) :
    (store.rollback config named now).2 = store := by
  unfold Store.rollback at h ⊢
  split
  · rfl
  · split
    next hrow hcan =>
      rw [hrow] at h
      dsimp only at h
      rw [if_pos hcan] at h
      cases h
    next => rfl

/-- Everything that a commit can do when it succeeds. -/
theorem commit_eq_ok {named : Option String} {outcome : WriteOutcome} {extra : Fields String}
    (hcommit : store.commit config named outcome extra now = .ok after) :
    ∃ instant ∈ store.instants, ∃ records, instant.basePath = config.basePath ∧ named = some instant.time ∧
      instant.state = .inflight ∧
      applyStaged store.records (store.stagedUnder config.basePath instant.time) now = some records ∧
      after = (({ store with records }.dropStaged config.basePath instant.time).updateInstant
        config.basePath instant.time (completed outcome extra now)).recordSchema config := by
  unfold Store.commit at hcommit
  split at hcommit
  · cases hcommit
  next instant hinstant =>
    split at hcommit
    · cases hcommit
    next hstate =>
      split at hcommit
      · cases hcommit
      next records happlied =>
        split at hcommit
        next =>
          cases hcommit
          obtain ⟨hmem, hpath, htime⟩ := instant?_eq_some hinstant
          exact ⟨instant, hmem, records, hpath, htime, by simpa using hstate, happlied, rfl⟩
        next => cases hcommit

theorem Lawful.recordSchema (h : store.Lawful) : (store.recordSchema config).Lawful := by
  have hkept : ∀ path, store.hasTable path = true → (store.recordSchema config).hasTable path = true :=
    fun path hpath => hasTable_recordSchema.trans hpath
  unfold Store.recordSchema at hkept ⊢
  split
  next => exact h
  next schema hschema =>
    rw [hschema] at hkept
    exact h.withTables hkept

theorem Lawful.commit (h : store.Lawful) {named : Option String} {outcome : WriteOutcome} {extra : Fields String}
    (hcommit : store.commit config named outcome extra now = .ok after) : after.Lawful := by
  obtain ⟨instant, hmem, records, hpath, -, -, happlied, rfl⟩ := commit_eq_ok hcommit
  have hrecords : ({ store with records } : Store).Lawful := by
    refine ⟨h.increasing, h.registered, fun row hrow => ?_, h.inflight⟩
    rcases mem_applyStaged happlied hrow with hold | ⟨new, hnew, rfl⟩
    · exact h.visible row hold
    · obtain ⟨started, hstarted, hat, -⟩ := h.inflight new (List.mem_of_mem_filter hnew)
      show store.hasTable new.basePath = true
      rw [← (isAt_iff.mp hat).1]
      exact h.registered started hstarted
  exact (hrecords.dropStaged.updateInstant (inPlace_completed outcome extra now)
    fun _ hdropped => not_isUnder_of_mem_dropStaged hdropped).recordSchema

/-! ## 2. A store that is left alone -/

/-- The store in the middle of a write: an inflight instant was started last, and rows are staged under
it. -/
structure Pending (store : Store) (config : WriteConfig) (row : InstantRow) (rows : List StagedRow)
    (current : Store) : Prop where
  lawful : store.Lawful
  path : row.basePath = config.basePath
  inflight : row.state = .inflight
  isNew : store.IsNew config.basePath row.time
  registered : store.hasTable config.basePath = true
  under : ∀ staged ∈ rows, staged.isUnder config.basePath row.time = true
  eq : current = { store.withInstant row with staged := store.staged ++ rows }

namespace Pending

variable {row : InstantRow} {rows : List StagedRow} {current : Store}

theorem not_isAt (h : Pending store config row rows current) {old : InstantRow} (hold : old ∈ store.instants) :
    old.isAt config.basePath row.time = false := by
  by_contra hat
  obtain ⟨hpath, htime⟩ := isAt_iff.mp ((Bool.not_eq_false _).mp hat)
  exact absurd htime (ne_of_lt (h.isNew old (mem_instantsOf.mpr ⟨hold, hpath⟩)))

theorem not_isUnder (h : Pending store config row rows current) {old : StagedRow} (hold : old ∈ store.staged) :
    old.isUnder config.basePath row.time = false := by
  by_contra hunder
  obtain ⟨hpath, htime⟩ := isUnder_iff.mp ((Bool.not_eq_false _).mp hunder)
  obtain ⟨instant, hmem, hat, -⟩ := h.lawful.inflight old hold
  rw [hpath, htime, h.not_isAt hmem] at hat
  cases hat

theorem instant? (h : Pending store config row rows current) :
    current.instant? config.basePath (some row.time) = some row := by
  have hself : row.isAt config.basePath row.time = true := isAt_iff.mpr ⟨h.path, rfl⟩
  have hbefore : store.instants.find? (InstantRow.isAt config.basePath row.time) = none := by
    rw [List.find?_eq_none]
    intro old hold
    rw [h.not_isAt hold]
    decide
  rw [h.eq]
  show (store.instants ++ [row]).find? (InstantRow.isAt config.basePath row.time) = some row
  rw [List.find?_append, hbefore, List.find?_cons, hself]
  rfl

theorem stagedUnder (h : Pending store config row rows current) :
    current.stagedUnder config.basePath row.time = rows := by
  rw [h.eq]
  show (store.staged ++ rows).filter (StagedRow.isUnder config.basePath row.time) = rows
  have hold : store.staged.filter (StagedRow.isUnder config.basePath row.time) = [] := by
    rw [List.filter_eq_nil_iff]
    intro old hold
    rw [h.not_isUnder hold]
    decide
  rw [List.filter_append, hold, List.filter_eq_self.mpr h.under, List.nil_append]

theorem dropStaged (h : Pending store config row rows current) :
    current.dropStaged config.basePath row.time = store.withInstant row := by
  have hdropped : (store.staged ++ rows).filter (fun staged => !staged.isUnder config.basePath row.time) =
      store.staged := by
    have hold : store.staged.filter (fun staged => !staged.isUnder config.basePath row.time) = store.staged := by
      rw [List.filter_eq_self]
      intro old hold
      rw [h.not_isUnder hold]
      rfl
    have hnew : rows.filter (fun staged => !staged.isUnder config.basePath row.time) = [] := by
      rw [List.filter_eq_nil_iff]
      intro staged hstaged
      rw [h.under staged hstaged]
      decide
    rw [List.filter_append, hold, hnew, List.append_nil]
  rw [h.eq]
  show ({ store.withInstant row with staged := _ } : Store) = _
  rw [hdropped]
  rfl

theorem updateInstant (h : Pending store config row rows current) (change : InstantRow → InstantRow) :
    (store.withInstant row).updateInstant config.basePath row.time change = store.withInstant (change row) := by
  have hself : row.isAt config.basePath row.time = true := isAt_iff.mpr ⟨h.path, rfl⟩
  have hold : (store.instants.map fun old => if old.isAt config.basePath row.time then change old else old) =
      store.instants := by
    rw [List.map_congr_left (g := id) fun old hold => by rw [h.not_isAt hold]; rfl, List.map_id]
  show ({ store with instants := (store.instants ++ [row]).map _ } : Store) = _
  rw [List.map_append, hold, List.map_singleton, hself]
  rfl

/-- What a failed or refused write leaves: the instant, rolled back. -/
theorem rollback (h : Pending store config row rows current) (now : Timestamp) :
    current.rollback config (some row.time) now =
      (true, store.withInstant { row with state := .rolledBack, completedAt := some now }) := by
  unfold Store.rollback
  rw [h.instant?]
  have hcan : canRollBack row = true := by rw [canRollBack, h.inflight]; decide
  dsimp only
  rw [if_pos hcan, h.dropStaged, h.updateInstant]

theorem stage (h : Pending store config row rows current) (now : Timestamp) {operation : WriteOperation}
    {records : List PreparedRecord} (htakes : store.Takes config operation records) :
    ∃ outcome staged, current.stage config operation records (some row.time) now = .ok (outcome, staged) ∧
      Pending store config row (rows ++ store.stagedRows config operation records row.time) staged := by
  have hcurrent : current.Takes config operation records := by
    rw [h.eq]
    exact htakes
  unfold Store.stage
  rw [h.instant?]
  dsimp only
  rw [if_neg (by rw [h.inflight]; decide), if_pos (takes_iff.mp hcurrent)]
  refine ⟨_, _, rfl, h.lawful, h.path, h.inflight, h.isNew, h.registered, ?_, ?_⟩
  · intro staged hstaged
    rcases List.mem_append.mp hstaged with hold | hnew
    · exact h.under staged hold
    · exact isUnder_of_mem_stagedRows hnew
  · rw [h.eq, ← List.append_assoc]
    rfl

/-- The commit of a staged batch is never refused: if the columns take what it records, its rows become visible and
its instant completes. -/
theorem commit {operation : WriteOperation} {records : List PreparedRecord}
    (h : Pending store config row (store.stagedRows config operation records row.time) current)
    (now : Timestamp) (outcome : WriteOutcome) (extra : Fields String) :
    ∃ visible, applyStaged store.records (store.stagedRows config operation records row.time) now = some visible ∧
      current.commit config (some row.time) outcome extra now =
        if isRecordable config outcome extra then
          .ok (({ store with records := visible }.withInstant (completed outcome extra now row)).recordSchema config)
        else .error .unrecordable := by
  obtain ⟨visible, hvisible⟩ := Option.isSome_iff_exists.mp
    (applyStaged_stagedRows : (applyStaged store.records
      (store.stagedRows config operation records row.time) now).isSome = true)
  refine ⟨visible, hvisible, ?_⟩
  have hrecords : current.records = store.records := by rw [h.eq]; rfl
  have hdropped : ({ current with records := visible } : Store).dropStaged config.basePath row.time =
      { store.withInstant row with records := visible } :=
    congrArg (fun s : Store => { s with records := visible }) h.dropStaged
  have hcompleted : ({ store.withInstant row with records := visible } : Store).updateInstant config.basePath row.time
      (completed outcome extra now) =
        ({ store with records := visible } : Store).withInstant (completed outcome extra now row) :=
    congrArg (fun s : Store => { s with records := visible }) (h.updateInstant (completed outcome extra now))
  unfold Store.commit
  rw [h.instant?]
  dsimp only
  rw [if_neg (by rw [h.inflight]; decide), h.stagedUnder, hrecords, hvisible]
  dsimp only
  rw [hdropped, hcompleted]

end Pending

end TableSync.Store
