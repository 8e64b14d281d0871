/-
  TableSync/Proofs/Store/Applied.lean
  ===================================
  **Applying staged rows** — what becomes visible, and when nothing stands in
  the way.

  `applyStaged` fails only where an inserted key is visible already.  The rows
  that a write stages have been examined: unless they are upserts, none of
  their keys was visible when they were staged and no two of them agree.  As
  long as the visible records stay as they were, such rows can be applied
  (`applyStaged_staged`).
-/
import TableSync.Proofs.Store.Lawful

namespace TableSync.Store

variable {rows after : List VisibleRow} {staged : List StagedRow} {now : Timestamp}

/-! ## 1. What becomes visible -/

theorem mem_upsertRow {rows : List VisibleRow} {new row : VisibleRow} (h : row ∈ upsertRow rows new) :
    row = new ∨ row ∈ rows := by
  induction rows with
  | nil => exact .inl (List.mem_singleton.mp h)
  | cons old rest ih =>
    rw [upsertRow] at h
    split at h
    · rcases List.mem_cons.mp h with rfl | hrest
      · exact .inl rfl
      · exact .inr (List.mem_cons_of_mem _ hrest)
    · rcases List.mem_cons.mp h with rfl | hrest
      · exact .inr List.mem_cons_self
      · exact (ih hrest).imp_right (List.mem_cons_of_mem _)

theorem mem_foldl_upsertRow {new : List VisibleRow} {row : VisibleRow} (h : row ∈ new.foldl upsertRow rows) :
    row ∈ new ∨ row ∈ rows := by
  induction new generalizing rows with
  | nil => exact .inr h
  | cons first rest ih =>
    rcases ih h with hrest | hrows
    · exact .inl (List.mem_cons_of_mem _ hrest)
    · rcases mem_upsertRow hrows with rfl | hold
      · exact .inl List.mem_cons_self
      · exact .inr hold

/-- Rows that are inserted one after another come after those that were there. -/
theorem foldlM_insertRow {new : List VisibleRow} (h : new.foldlM insertRow rows = some after) :
    after = rows ++ new := by
  induction new generalizing rows with
  | nil => simpa [eq_comm] using h
  | cons first rest ih =>
    rw [List.foldlM_cons] at h
    obtain ⟨next, hnext, hrest⟩ := Option.bind_eq_some_iff.mp h
    unfold insertRow at hnext
    split at hnext
    · cases hnext
    · cases hnext
      rw [ih hrest, List.append_assoc, List.singleton_append]

theorem applyStaged_eq (rows : List VisibleRow) (staged : List StagedRow) (now : Timestamp) :
    applyStaged rows staged now =
      (((staged.filter fun row => !(row.operation == .upsert)).map (visibleRow now)).foldlM insertRow rows).map
        (((staged.filter fun row => row.operation == .upsert).map (visibleRow now)).foldl upsertRow) := by
  unfold applyStaged
  rw [List.partition_eq_filter_filter]
  exact (Option.map_eq_bind ..).symm

theorem mem_applyStaged (h : applyStaged rows staged now = some after) {row : VisibleRow} (hrow : row ∈ after) :
    row ∈ rows ∨ ∃ new ∈ staged, row = visibleRow now new := by
  have hpart : ∀ test : StagedRow → Bool, row ∈ (staged.filter test).map (visibleRow now) →
      ∃ new ∈ staged, row = visibleRow now new := by
    intro test hmem
    obtain ⟨new, hnew, rfl⟩ := List.mem_map.mp hmem
    exact ⟨new, List.mem_of_mem_filter hnew, rfl⟩
  rw [applyStaged_eq] at h
  obtain ⟨inserted, hinserted, rfl⟩ := Option.map_eq_some_iff.mp h
  rcases mem_foldl_upsertRow hrow with hupsert | hinsert
  · exact .inr (hpart _ hupsert)
  · rw [foldlM_insertRow hinserted] at hinsert
    rcases List.mem_append.mp hinsert with hold | hnew
    · exact .inl hold
    · exact .inr (hpart _ hnew)

/-! ## 2. Rows that can be inserted -/

/-- Rows of distinct records that are not visible can be inserted. -/
theorem foldlM_insertRow_isSome {new : List VisibleRow} (hnew : new.Pairwise fun a b => sameRecord b a = false)
    (hrows : ∀ row ∈ new, rows.any (sameRecord row) = false) : (new.foldlM insertRow rows).isSome = true := by
  induction new generalizing rows with
  | nil => rfl
  | cons first rest ih =>
    obtain ⟨hfirst, hrest⟩ := List.pairwise_cons.mp hnew
    rw [List.foldlM_cons, insertRow, hrows first List.mem_cons_self]
    refine ih hrest fun row hrow => ?_
    rw [List.any_append, hrows row (List.mem_cons_of_mem _ hrow), Bool.false_or]
    simpa using hfirst row hrow

/-! ## 3. Examined rows -/

variable {required : List String} {operation : WriteOperation} {isVisible : String → Bool}

/-- The key of a record that is not refused is neither visible nor seen, unless it is an upsert. -/
theorem refusal?_eq_none {seen : List String} {record : PreparedRecord}
    (h : refusal? required operation isVisible seen record = none) (hinsert : operation ≠ .upsert) :
    isVisible record.key.recordKey = false ∧ record.key.recordKey ∉ seen := by
  unfold refusal? at h
  dsimp only at h
  split at h
  · cases h
  · split at h
    · cases h
    next hvisible =>
      split at h
      · cases h
      next hseen => exact ⟨by simpa [hinsert] using hvisible, by simpa [hinsert] using hseen⟩

theorem mem_accepted_examine {seen : List String} {records : List PreparedRecord} {record : PreparedRecord}
    (hinsert : operation ≠ .upsert)
    (h : record ∈ accepted (examine required operation isVisible seen records)) :
    isVisible record.key.recordKey = false ∧ record.key.recordKey ∉ seen := by
  induction records generalizing seen with
  | nil => cases h
  | cons first rest ih =>
    have hcases : (record = first ∧ refusal? required operation isVisible seen first = none) ∨
        record ∈ accepted (examine required operation isVisible (first.key.recordKey :: seen) rest) := by
      simp only [accepted, examine, List.filter_cons] at h ⊢
      split at h
      next hnone =>
        rcases List.mem_cons.mp h with rfl | hrest
        · exact .inl ⟨rfl, by simpa using hnone⟩
        · exact .inr hrest
      next => exact .inr h
    rcases hcases with ⟨rfl, hnone⟩ | hrest
    · exact refusal?_eq_none hnone hinsert
    · obtain ⟨hvisible, hseen⟩ := ih hrest
      exact ⟨hvisible, fun hmem => hseen (List.mem_cons_of_mem _ hmem)⟩

/-- No two records of a batch that are not refused agree in their keys, unless they are upserts. -/
theorem accepted_examine_pairwise (hinsert : operation ≠ .upsert) (seen : List String)
    (records : List PreparedRecord) :
    (accepted (examine required operation isVisible seen records)).Pairwise
      fun a b => b.key.recordKey ≠ a.key.recordKey := by
  induction records generalizing seen with
  | nil => exact List.Pairwise.nil
  | cons first rest ih =>
    have hrest := ih (first.key.recordKey :: seen)
    simp only [accepted, examine, List.filter_cons] at hrest ⊢
    split
    · refine List.pairwise_cons.mpr ⟨fun record hrecord hsame => ?_, hrest⟩
      have hnew := mem_accepted_examine hinsert hrecord
      exact hnew.2 (hsame ▸ List.mem_cons_self)
    · exact hrest

/-- The rows that a batch is staged as. -/
def stagedRows (store : Store) (config : WriteConfig) (operation : WriteOperation) (records : List PreparedRecord)
    (time : String) : List StagedRow :=
  (accepted (examine config.requiredFields operation (store.hasKey config.basePath) [] records)).map
    (stagedRow config.basePath time operation)

/-- What is said of a batch that is staged. -/
def stagedOutcome (store : Store) (config : WriteConfig) (operation : WriteOperation) (records : List PreparedRecord) :
    WriteOutcome :=
  outcomeOf (examine config.requiredFields operation (store.hasKey config.basePath) [] records)

/-- The database takes a batch: its keys can be looked up, and the columns take the records that are not refused. -/
def Takes (store : Store) (config : WriteConfig) (operation : WriteOperation) (records : List PreparedRecord) : Prop :=
  canLookUp operation records = true ∧
    ∀ record ∈ accepted (examine config.requiredFields operation (store.hasKey config.basePath) [] records),
      isStorable record = true

variable {store : Store} {config : WriteConfig} {records : List PreparedRecord} {time : String}

theorem takes_iff : store.Takes config operation records ↔ (canLookUp operation records &&
    (accepted (examine config.requiredFields operation (store.hasKey config.basePath) [] records)).all isStorable) =
      true := by
  rw [Takes, Bool.and_eq_true, List.all_eq_true]

instance : Decidable (store.Takes config operation records) := decidable_of_iff' _ takes_iff

theorem hasKey_iff {basePath key : String} :
    store.hasKey basePath key = true ↔ ∃ row ∈ store.recordsOf basePath, row.recordKey = key := by
  simp [hasKey, recordsOf, and_assoc]

theorem hasKey_eq_false_iff {basePath key : String} :
    store.hasKey basePath key = false ↔ ∀ row ∈ store.recordsOf basePath, row.recordKey ≠ key := by
  rw [← Bool.not_eq_true, hasKey_iff]
  simp

/-- A record whose key is not visible has no version among the visible rows. -/
theorem any_sameRecord_of_new {record : PreparedRecord}
    (h : store.hasKey config.basePath record.key.recordKey = false) :
    store.records.any (sameRecord (visibleRow now (stagedRow config.basePath time operation record))) = false := by
  rw [hasKey, List.any_eq_false] at h
  rw [List.any_eq_false]
  intro old hold hsame
  simp only [sameRecord, visibleRow, stagedRow, Bool.and_eq_true, beq_iff_eq] at hsame
  exact h old hold (by simp [hsame.1, hsame.2])

theorem isUnder_of_mem_stagedRows {row : StagedRow} (h : row ∈ stagedRows store config operation records time) :
    row.isUnder config.basePath time = true := by
  obtain ⟨record, _, rfl⟩ := List.mem_map.mp h
  simp [StagedRow.isUnder, stagedRow]

theorem operation_of_mem_stagedRows {row : StagedRow} (h : row ∈ stagedRows store config operation records time) :
    row.operation = operation := by
  obtain ⟨record, _, rfl⟩ := List.mem_map.mp h
  rfl

/-- The rows of a write can be applied to the records that were visible when it staged them. -/
theorem applyStaged_stagedRows :
    (applyStaged store.records (stagedRows store config operation records time) now).isSome = true := by
  rw [applyStaged_eq, Option.isSome_map]
  by_cases hupsert : operation = .upsert
  · have hnone : (stagedRows store config operation records time).filter
        (fun row => !(row.operation == .upsert)) = [] := by
      rw [List.filter_eq_nil_iff]
      intro row hrow
      rw [operation_of_mem_stagedRows hrow, hupsert]
      decide
    rw [hnone]
    rfl
  · have hall : (stagedRows store config operation records time).filter
        (fun row => !(row.operation == .upsert)) = stagedRows store config operation records time := by
      rw [List.filter_eq_self]
      intro row hrow
      rw [operation_of_mem_stagedRows hrow]
      simpa using hupsert
    rw [hall]
    refine foldlM_insertRow_isSome ?_ ?_
    · rw [List.pairwise_map, stagedRows, List.pairwise_map]
      refine (accepted_examine_pairwise hupsert [] records).imp fun hne => ?_
      simpa [sameRecord, visibleRow, stagedRow] using hne
    · intro row hrow
      obtain ⟨new, hnew, rfl⟩ := List.mem_map.mp hrow
      obtain ⟨record, hrecord, rfl⟩ := List.mem_map.mp hnew
      exact any_sameRecord_of_new (mem_accepted_examine hupsert hrecord).1

end TableSync.Store
