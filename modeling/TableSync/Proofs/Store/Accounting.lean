/-
  TableSync/Proofs/Store/Accounting.lean
  ======================================
  **The account of a write** — which records are staged, and what the outcome
  tells of the others.

  A record of a batch is staged if it lacks no value that the write schema needs
  and, unless it is upserted, its record key is neither visible nor the key of a
  record before it, staged or not (`Store.Admits`).  Whatever is not staged has
  one of three objections against it.  The outcome is made by counting the
  records one after another; what is known of one status is an invariant of that
  count (`Store.Tells`), and from it follows the account of the whole
  write (`History.write_accounts`).  A batch that the database does not take
  (`Store.Takes`) has no account: its write fails and stages nothing.
-/
import TableSync.Proofs.Store.Combined

namespace TableSync

open Store Dedup

/-! ## 1. The batch in the order of writing -/

section Arrangement

variable {a b c : PreparedRecord} {operation : WriteOperation} {records : List PreparedRecord}

end Arrangement

/-! ## 2. What stands against a record -/

namespace Store

variable {store : Store} {config : WriteConfig} {operation : WriteOperation} {basePath : String}
variable {earlier batch : List PreparedRecord} {record : PreparedRecord} {seen : List String}

/-- A record can be staged after those before it: it has every value that the write schema needs and, unless it is
upserted, its record key is neither visible in the table nor the key of a record before it. -/
structure Admits (store : Store) (config : WriteConfig) (operation : WriteOperation) (earlier : List PreparedRecord)
    (record : PreparedRecord) : Prop where
  complete : ∀ schema, config.writeSchema = some schema → ∀ field ∈ schema.fields, field.nullable = false →
    ∃ value, Fields.get? record.payload field.name = some value ∧ value ≠ .null
  isNew : operation ≠ .upsert → ∀ row ∈ store.recordsOf config.basePath, row.recordKey ≠ record.key.recordKey
  isFirst : operation ≠ .upsert → ∀ other ∈ earlier, other.key.recordKey ≠ record.key.recordKey

/-- What stands against a record that cannot be staged, in the words of the outcome. -/
inductive Objection (store : Store) (config : WriteConfig) (operation : WriteOperation)
    (earlier : List PreparedRecord) (record : PreparedRecord) : String → Prop where
  | lacking {names : List String} : missingFields config.requiredFields record.payload = names → names ≠ [] →
      Objection store config operation earlier record
        ("Missing value for non-nullable fields " ++ Value.textsLiteral names)
  | visible : missingFields config.requiredFields record.payload = [] → operation ≠ .upsert →
      (∃ row ∈ store.recordsOf config.basePath, row.recordKey = record.key.recordKey) →
      Objection store config operation earlier record "Record key already exists in table"
  | repeated : missingFields config.requiredFields record.payload = [] → operation ≠ .upsert →
      (∀ row ∈ store.recordsOf config.basePath, row.recordKey ≠ record.key.recordKey) →
      (∃ other ∈ earlier, other.key.recordKey = record.key.recordKey) →
      Objection store config operation earlier record inBatch

section Refusal

variable (hseen : ∀ key, key ∈ seen ↔ ∃ other ∈ earlier, other.key.recordKey = key)
include hseen

end Refusal

/-- The records of a partition, with what is told of each. -/
def entriesIn (examined : List (PreparedRecord × Option String)) (path : String) :
    List (PreparedRecord × Option String) :=
  examined.filter fun entry => entry.1.key.partitionPath == path

def refusedIn (examined : List (PreparedRecord × Option String)) (path : String) :
    List (PreparedRecord × Option String) :=
  (entriesIn examined path).filter fun entry => entry.2.isSome

/-- What a status tells of a batch: how many records its partition has, how many of them are refused, and under each
key of a refused one the reason of the first refusal. -/
structure Tells (examined : List (PreparedRecord × Option String)) (status : WriteStatus) : Prop where
  total : status.totalRecords = (entriesIn examined status.partitionPath).length
  errors : status.totalErrorRecords = (refusedIn examined status.partitionPath).length
  noGlobal : status.globalError = none
  names : Fields.names status.errors =
    ((refusedIn examined status.partitionPath).map (·.1.key.recordKey)).eraseDups
  reasons : ∀ key, Fields.get? status.errors key =
    ((refusedIn examined status.partitionPath).find? fun entry => entry.1.key.recordKey == key).bind (·.2)

section Count

variable {examined : List (PreparedRecord × Option String)} {entry : PreparedRecord × Option String}
variable {statuses : List WriteStatus} {status : WriteStatus} {path : String}

theorem entriesIn_snoc_other (h : entry.1.key.partitionPath ≠ path) :
    entriesIn (examined ++ [entry]) path = entriesIn examined path := by
  simp [entriesIn, h]

theorem entriesIn_snoc_self (h : entry.1.key.partitionPath = path) :
    entriesIn (examined ++ [entry]) path = entriesIn examined path ++ [entry] := by
  simp [entriesIn, h]

theorem refusedIn_snoc_other (h : entry.1.key.partitionPath ≠ path) :
    refusedIn (examined ++ [entry]) path = refusedIn examined path := by
  rw [refusedIn, entriesIn_snoc_other h, refusedIn]

theorem refusedIn_snoc_none (h : entry.2 = none) : refusedIn (examined ++ [entry]) path = refusedIn examined path := by
  by_cases hpath : entry.1.key.partitionPath = path
  · rw [refusedIn, entriesIn_snoc_self hpath, List.filter_append, List.filter_cons_of_neg (by simp [h]),
      List.filter_nil, List.append_nil, refusedIn]
  · exact refusedIn_snoc_other hpath

theorem refusedIn_snoc_some {reason : String} (hpath : entry.1.key.partitionPath = path) (h : entry.2 = some reason) :
    refusedIn (examined ++ [entry]) path = refusedIn examined path ++ [entry] := by
  rw [refusedIn, entriesIn_snoc_self hpath, List.filter_append, List.filter_cons_of_pos (by simp [h]),
    List.filter_nil, refusedIn]

@[simp] theorem count_partitionPath (status : WriteStatus) (record : PreparedRecord) (refused : Option String) :
    (count status record refused).partitionPath = status.partitionPath := by
  cases refused <;> rfl

theorem tells_nothing (h : path ∉ examined.map (·.1.key.partitionPath)) :
    Tells examined { partitionPath := path } := by
  have hnone : entriesIn examined path = [] := by
    refine List.filter_eq_nil_iff.2 fun entry hentry hpath => h ?_
    exact List.mem_map.2 ⟨entry, hentry, beq_iff_eq.1 hpath⟩
  have hrefused : refusedIn examined path = [] := by rw [refusedIn, hnone, List.filter_nil]
  constructor
  · simp [hnone]
  · simp [hrefused]
  · rfl
  · simp [hrefused, Fields.names]
  · simp [hrefused, Fields.get?]

theorem Tells.skip (h : Tells examined status) (hother : entry.1.key.partitionPath ≠ status.partitionPath) :
    Tells (examined ++ [entry]) status := by
  have hentries : entriesIn (examined ++ [entry]) status.partitionPath = entriesIn examined status.partitionPath :=
    entriesIn_snoc_other hother
  have hrefused : refusedIn (examined ++ [entry]) status.partitionPath = refusedIn examined status.partitionPath :=
    refusedIn_snoc_other hother
  exact ⟨by rw [hentries, h.total], by rw [hrefused, h.errors], h.noGlobal, by rw [hrefused, h.names],
    by rw [hrefused]; exact h.reasons⟩

theorem firstReason_snoc {refused : List (PreparedRecord × Option String)} {reason : String}
    (hrefused : ∀ other ∈ refused, other.2.isSome = true) (hreason : entry.2 = some reason) (key : String) :
    ((refused ++ [entry]).find? fun other => other.1.key.recordKey == key).bind (·.2) =
      ((refused.find? fun other => other.1.key.recordKey == key).bind (·.2)).or
        (if entry.1.key.recordKey = key then some reason else none) := by
  rw [List.find?_append]
  cases hfound : refused.find? fun other => other.1.key.recordKey == key with
  | some other =>
    obtain ⟨told, htold⟩ := Option.isSome_iff_exists.1 (hrefused other (List.mem_of_find?_eq_some hfound))
    simp [htold]
  | none =>
    by_cases hkey : entry.1.key.recordKey = key
    · simp [hkey, hreason]
    · simp [hkey]

theorem Tells.count (h : Tells examined status) (hsame : entry.1.key.partitionPath = status.partitionPath) :
    Tells (examined ++ [entry]) (count status entry.1 entry.2) := by
  have hentries : entriesIn (examined ++ [entry]) status.partitionPath =
      entriesIn examined status.partitionPath ++ [entry] := entriesIn_snoc_self hsame
  obtain ⟨record, refused⟩ := entry
  cases refused with
  | none =>
    have hrefused : refusedIn (examined ++ [(record, none)]) status.partitionPath =
        refusedIn examined status.partitionPath := refusedIn_snoc_none rfl
    refine ⟨?_, ?_, h.noGlobal, ?_, ?_⟩
    · show status.totalRecords + 1 = (entriesIn _ status.partitionPath).length
      rw [hentries, h.total, List.length_append, List.length_singleton, Nat.cast_add, Nat.cast_one]
    · show status.totalErrorRecords = (refusedIn _ status.partitionPath).length
      rw [hrefused, h.errors]
    · show Fields.names status.errors = ((refusedIn _ status.partitionPath).map _).eraseDups
      rw [hrefused, h.names]
    · show ∀ key, Fields.get? status.errors key = ((refusedIn _ status.partitionPath).find? _).bind _
      rw [hrefused]
      exact h.reasons
  | some reason =>
    have hrefused : refusedIn (examined ++ [(record, some reason)]) status.partitionPath =
        refusedIn examined status.partitionPath ++ [(record, some reason)] := refusedIn_snoc_some hsame rfl
    have hhas : Fields.has status.errors record.key.recordKey = true ↔
        record.key.recordKey ∈ (refusedIn examined status.partitionPath).map (·.1.key.recordKey) := by
      rw [Fields.has_iff, h.names, List.mem_eraseDups]
    have hreasons : ∀ key, ((refusedIn (examined ++ [(record, some reason)]) status.partitionPath).find?
        fun other => other.1.key.recordKey == key).bind (·.2) =
        (Fields.get? status.errors key).or (if record.key.recordKey = key then some reason else none) := by
      intro key
      rw [hrefused, h.reasons]
      exact firstReason_snoc (fun other hother => (List.mem_filter.1 hother).2) rfl key
    refine ⟨?_, ?_, h.noGlobal, ?_, ?_⟩
    · show status.totalRecords + 1 = (entriesIn _ status.partitionPath).length
      rw [hentries, h.total, List.length_append, List.length_singleton, Nat.cast_add, Nat.cast_one]
    · show status.totalErrorRecords + 1 = (refusedIn _ status.partitionPath).length
      rw [hrefused, h.errors, List.length_append, List.length_singleton, Nat.cast_add, Nat.cast_one]
    · show Fields.names (if Fields.has status.errors record.key.recordKey then status.errors
        else status.errors ++ [(record.key.recordKey, reason)]) = ((refusedIn _ status.partitionPath).map _).eraseDups
      -- A key that is listed keeps its first reason.
      rw [hrefused, List.map_append, List.map_singleton]
      split
      next hold => rw [eraseDups_snoc_of_mem (hhas.1 hold), h.names]
      next hnew =>
        rw [eraseDups_snoc_of_notMem (mt hhas.2 hnew), ← h.names]
        simp [Fields.names]
    · intro key
      show Fields.get? (if Fields.has status.errors record.key.recordKey then status.errors
        else status.errors ++ [(record.key.recordKey, reason)]) key = ((refusedIn _ status.partitionPath).find? _).bind _
      rw [hreasons]
      split
      next hold =>
        by_cases hkey : record.key.recordKey = key
        · obtain ⟨told, htold⟩ := Option.isSome_iff_exists.1 hold
          rw [← hkey, htold]
          rfl
        · rw [if_neg hkey, Option.or_none]
      next hnew =>
        rw [Fields.get?_append]
        rfl

/-! ## 4. The outcome -/

/-- The statuses of a batch: one for each partition, in the order in which the partitions are first seen. -/
structure Tallied (examined : List (PreparedRecord × Option String)) (statuses : List WriteStatus) : Prop where
  partitions : statuses.map (·.partitionPath) = (examined.map (·.1.key.partitionPath)).eraseDups
  tells : ∀ status ∈ statuses, Tells examined status

theorem tally_of_new (h : ∀ status ∈ statuses, status.partitionPath ≠ entry.1.key.partitionPath) :
    tally statuses entry = statuses ++ [count { partitionPath := entry.1.key.partitionPath } entry.1 entry.2] := by
  induction statuses with
  | nil => rfl
  | cons first rest ih =>
    obtain ⟨hfirst, hrest⟩ := List.forall_mem_cons.1 h
    rw [tally, if_neg hfirst, ih hrest, List.cons_append]

theorem tally_of_known {front rest : List WriteStatus}
    (hfront : ∀ other ∈ front, other.partitionPath ≠ entry.1.key.partitionPath)
    (hsame : status.partitionPath = entry.1.key.partitionPath) :
    tally (front ++ status :: rest) entry = front ++ count status entry.1 entry.2 :: rest := by
  induction front with
  | nil => rw [List.nil_append, tally, if_pos hsame, List.nil_append]
  | cons other front ih =>
    obtain ⟨hother, hfront⟩ := List.forall_mem_cons.1 hfront
    rw [List.cons_append, tally, if_neg hother, ih hfront, List.cons_append]

theorem Tallied.next (h : Tallied examined statuses) : Tallied (examined ++ [entry]) (tally statuses entry) := by
  have hmem : ∀ path, path ∈ examined.map (·.1.key.partitionPath) ↔ ∃ status ∈ statuses, status.partitionPath = path := by
    intro path
    rw [← List.mem_eraseDups, ← h.partitions, List.mem_map]
  by_cases hknown : entry.1.key.partitionPath ∈ examined.map (·.1.key.partitionPath)
  -- The status of a known partition counts the record in its place; a new partition gets a status at the end.
  · obtain ⟨status, hstatus, hsame⟩ := (hmem _).1 hknown
    obtain ⟨front, rest, rfl⟩ := List.append_of_mem hstatus
    have hdistinct := nodup_eraseDups (examined.map (·.1.key.partitionPath))
    rw [← h.partitions, List.map_append, List.map_cons, List.nodup_middle, List.nodup_cons, ← List.map_append] at hdistinct
    have hothers : ∀ other ∈ front ++ rest, other.partitionPath ≠ entry.1.key.partitionPath := by
      rintro other hother hagain
      exact hdistinct.1 (List.mem_map.2 ⟨other, hother, hagain.trans hsame.symm⟩)
    rw [tally_of_known (fun other hother => hothers other (List.mem_append_left _ hother)) hsame]
    constructor
    · have hpaths := h.partitions
      rw [List.map_append, List.map_cons] at hpaths
      have hmore : (examined ++ [entry]).map (·.1.key.partitionPath) =
          examined.map (·.1.key.partitionPath) ++ [entry.1.key.partitionPath] := List.map_append
      rw [hmore, eraseDups_snoc_of_mem hknown, ← hpaths, List.map_append, List.map_cons, count_partitionPath]
    · intro other hother
      rcases List.mem_append.1 hother with hfront | hlater
      · exact (h.tells other (List.mem_append_left _ hfront)).skip
          (hothers other (List.mem_append_left _ hfront)).symm
      · rcases List.mem_cons.1 hlater with rfl | hrest
        · exact (h.tells status hstatus).count hsame.symm
        · exact (h.tells other (List.mem_append_right _ (List.mem_cons_of_mem _ hrest))).skip
            (hothers other (List.mem_append_right _ hrest)).symm
  · have hnew : ∀ status ∈ statuses, status.partitionPath ≠ entry.1.key.partitionPath :=
      fun status hstatus hsame => hknown ((hmem _).2 ⟨status, hstatus, hsame⟩)
    rw [tally_of_new hnew]
    constructor
    · rw [List.map_append, List.map_append, List.map_singleton, List.map_singleton, eraseDups_snoc_of_notMem hknown,
        ← h.partitions, count_partitionPath]
    · intro status hstatus
      rcases List.mem_append.1 hstatus with hold | hlast
      · exact (h.tells status hold).skip (hnew status hold).symm
      · obtain rfl := List.mem_singleton.1 hlast
        exact (tells_nothing hknown).count rfl

end Count

/-! ## 5. The account -/

/-- What a write of a batch staged and told: what it admits is staged, in the order of the batch, an objection stands
against everything else, and the outcome counts both. -/
structure Account (store : Store) (config : WriteConfig) (operation : WriteOperation) (batch : List PreparedRecord)
    (time : String) (examined : List (PreparedRecord × Option String)) (rows : List StagedRow) (outcome : WriteOutcome) :
    Prop where
  records : examined.map Prod.fst = batch
  admitted : ∀ place entry, examined[place]? = some entry →
    (entry.2 = none ↔ store.Admits config operation (batch.take place) entry.1)
  objections : ∀ place record reason, examined[place]? = some (record, some reason) →
    store.Objection config operation (batch.take place) record reason
  staged : rows = (examined.filter fun entry => entry.2.isNone).map fun entry =>
    stagedRow config.basePath time operation entry.1
  statuses : Tallied examined outcome.statuses
  difference : outcome.totalRecords - outcome.totalErrorRecords = rows.length

theorem stage_of_inflight (operation : WriteOperation) (batch : List PreparedRecord) (now : Timestamp)
    {instant : InstantRow} {time : String}
    (hfound : store.instant? config.basePath (some time) = some instant) (hinflight : instant.state = .inflight) :
    store.stage config operation batch (some time) now =
      if store.Takes config operation batch then
        .ok (store.stagedOutcome config operation batch,
          { store with staged := store.staged ++ store.stagedRows config operation batch time })
      else .error Column.refused := by
  obtain ⟨-, -, htime⟩ := instant?_eq_some hfound
  cases htime
  have hstate : ¬instant.state ≠ .inflight := by
    rw [hinflight]
    decide
  unfold stage
  rw [hfound]
  dsimp only
  rw [if_neg hstate]
  split
  next htakes => rw [if_pos (takes_iff.mpr htakes), stagedOutcome, stagedRows]
  next hrefuses => rw [if_neg (fun htakes => hrefuses (takes_iff.mp htakes))]

/-- In the middle of a write, a batch stands against the store as it was before. -/
theorem Pending.stage_eq {instant : InstantRow} {current : Store} (h : store.Pending config instant [] current)
    (operation : WriteOperation) (batch : List PreparedRecord) (now : Timestamp) :
    current.stage config operation batch (some instant.time) now =
      if store.Takes config operation batch then
        .ok (store.stagedOutcome config operation batch,
          { current with staged := current.staged ++ store.stagedRows config operation batch instant.time })
      else .error Column.refused := by
  have hstage := stage_of_inflight operation batch now h.instant? h.inflight
  rw [hstage, h.eq]
  rfl

end Store

namespace Warehouse

variable {w : World Warehouse} {id : ClientId} {known : ClientRecord} {instant : InstantRow}
variable {operation : WriteOperation} {records combined : List PreparedRecord}

/-- Records of two partitions: one without a value, one of a visible record, and two that repeat a key. -/
def mixedBatch : List PreparedRecord :=
  let recordIn (key partition : String) (payload : Record) : PreparedRecord := { key := ⟨key, partition⟩, payload }
  [recordIn "c" "us" [("value", .null)], recordIn "c" "us" [("value", .int 3)], recordIn "a" "eu" [("value", .int 1)],
   recordIn "b" "eu" [("value", .int 2)], recordIn "b" "us" [("value", .int 2)]]

end Warehouse

end TableSync
