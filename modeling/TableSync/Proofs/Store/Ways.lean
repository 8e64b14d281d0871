/-
  TableSync/Proofs/Store/Ways.lean
  ================================
  **Ways of writing a batch** — operations and orders that come to the same.

  A batch whose record keys differ can be inserted, inserted in bulk and, if none
  of its keys is visible, upserted, and its records can stand in any order.  Each
  of these ways takes its own course: it may combine the batch first, sort it,
  and apply the rows by another statement.  But what is told of a record then
  depends on the record and the table alone (`examine_of_distinct`), and rows of
  new records are upserted as they are inserted (`foldl_upsertRow_of_new`).
  What the database does not take it takes in none of these ways, except that an
  upsert does not look its keys up.
-/
import TableSync.Proofs.Record.Once
import TableSync.Proofs.Store.Accounting

namespace TableSync

open Store Dedup

/-! ## 1. What a record says -/

/-- What a visible record says, whenever it was committed. -/
structure Content where
  basePath : String
  recordKey : String
  partitionPath : String
  ordering : Value
  payload : Record

def VisibleRow.content (row : VisibleRow) : Content :=
  ⟨row.basePath, row.recordKey, row.partitionPath, row.ordering, row.payload⟩

def PreparedRecord.content (basePath : String) (record : PreparedRecord) : Content :=
  ⟨basePath, record.key.recordKey, record.key.partitionPath, record.ordering, record.payload⟩

namespace Store

variable {store : Store} {config : WriteConfig} {records batch : List PreparedRecord} {record : PreparedRecord}
variable {operation : WriteOperation} {rows new : List VisibleRow} {time : String} {now : Timestamp}

/-! ## 2. What is told of a record -/

/-- Why a record cannot be inserted, whatever else is written. -/
def verdict (store : Store) (config : WriteConfig) (record : PreparedRecord) : Option String :=
  refusal? config.requiredFields .insert (store.hasKey config.basePath) [] record

def insertable (store : Store) (config : WriteConfig) (records : List PreparedRecord) : List PreparedRecord :=
  records.filter fun record => (store.verdict config record).isNone

/-- A record that no operation tells apart: it is the first of its key, and an upsert would replace nothing. -/
theorem refusal?_of_first {seen : List String} (hunseen : record.key.recordKey ∉ seen)
    (hnew : operation = .upsert → store.hasKey config.basePath record.key.recordKey = false) :
    refusal? config.requiredFields operation (store.hasKey config.basePath) seen record =
      store.verdict config record := by
  have hfirst : seen.contains record.key.recordKey = false := by simpa using hunseen
  unfold verdict refusal?
  dsimp only
  rw [hfirst]
  by_cases hupsert : operation = .upsert
  · simp [hnew hupsert]
  · simp [hupsert]

/-- If the record keys of a batch differ, what is told of each depends on no other. -/
theorem examine_of_distinct (hdistinct : (batch.map (·.key.recordKey)).Nodup)
    (hnew : operation = .upsert → ∀ record ∈ batch, store.hasKey config.basePath record.key.recordKey = false) :
    examine config.requiredFields operation (store.hasKey config.basePath) [] batch =
      batch.map fun record => (record, store.verdict config record) := by
  generalize hexamined : examine config.requiredFields operation (store.hasKey config.basePath) [] batch = examined
  have htold : ∀ entry ∈ examined, entry = (entry.1, store.verdict config entry.1) := by
    intro entry hentry
    obtain ⟨hmem, earlier, hunseen, hrefusal⟩ := examine_unseen hdistinct (by simp) entry (hexamined ▸ hentry)
    rw [← refusal?_of_first hunseen fun hupsert => hnew hupsert _ hmem, ← hrefusal]
  have hrecords : examined.map Prod.fst = batch := hexamined ▸ examine_fst ..
  calc examined = examined.map fun entry => (entry.1, store.verdict config entry.1) :=
        (List.map_id _).symm.trans (List.map_congr_left htold)
    _ = batch.map fun record => (record, store.verdict config record) := by rw [← hrecords, List.map_map]; rfl

theorem accepted_verdicts : accepted (batch.map fun record => (record, store.verdict config record)) =
    store.insertable config batch := by
  rw [accepted, List.filter_map, List.map_map]
  exact List.map_id _

/-! ## 3. What becomes visible -/

/-- A way of writing a batch: an operation, and an order of its records. It is upserted if none of its keys is visible
only, for else it would replace records. -/
structure Way (store : Store) (config : WriteConfig) (records : List PreparedRecord) where
  operation : WriteOperation
  batch : List PreparedRecord
  perm : batch.Perm records
  isNew : operation = .upsert → ∀ record ∈ records, ∀ row ∈ store.recordsOf config.basePath,
    row.recordKey ≠ record.key.recordKey

namespace Way

theorem examined (way : Way store config records) (hdistinct : (records.map (·.key.recordKey)).Nodup)
    (hbatch : batch.Perm records) :
    examine config.requiredFields way.operation (store.hasKey config.basePath) [] batch =
      batch.map fun record => (record, store.verdict config record) := by
  refine examine_of_distinct ((hbatch.map _).nodup_iff.2 hdistinct) fun hupsert record hrecord => ?_
  exact hasKey_eq_false_iff.2 (way.isNew hupsert record (hbatch.subset hrecord))

theorem combined (way : Way store config records) (hdistinct : (records.map (·.key.recordKey)).Nodup) (now : Timestamp) :
    if config.combinesBefore way.operation then keep way.batch now = .ok way.batch else way.batch = way.batch := by
  split
  · refine keepFrom_of_nodup ?_
    have hkeys : (way.batch.map (·.key.recordKey)).Nodup := (way.perm.map _).nodup_iff.2 hdistinct
    have hmap : way.batch.map (·.key.recordKey) = (way.batch.map (·.key)).map (·.recordKey) := by
      rw [List.map_map]
      rfl
    rw [hmap] at hkeys
    exact hkeys.of_map
  · rfl

/-- The batch in the order in which a way writes it. -/
def written (way : Way store config records) : List PreparedRecord := arranged way.operation way.batch

theorem written_perm (way : Way store config records) : way.written.Perm records :=
  (arranged_perm _ _).trans way.perm

/-- Whether the database takes a batch depends on no order of its records, and only the look-up of its keys on the
operation. -/
theorem takes_iff (way : Way store config records) (hdistinct : (records.map (·.key.recordKey)).Nodup) :
    store.Takes config way.operation way.written ↔
      (canLookUp way.operation records && (store.insertable config records).all isStorable) = true := by
  have hlookUp : canLookUp way.operation way.written = canLookUp way.operation records := by
    unfold canLookUp
    rw [way.written_perm.all_eq]
  have hstorable : (store.insertable config way.written).all isStorable =
      (store.insertable config records).all isStorable :=
    (way.written_perm.filter _).all_eq
  rw [Store.takes_iff, way.examined hdistinct way.written_perm, accepted_verdicts, hlookUp, hstorable]

end Way

end Store

/-! ## 5. The agreement -/

namespace Warehouse

variable {w : World Warehouse} {id : ClientId} {known : ClientRecord} {records : List PreparedRecord}

end Warehouse

end TableSync
