/-
  TableSync/Proofs/Store/Examined.lean
  ====================================
  **What an examination finds** — how many records, how many refused, and why.

  The totals of an outcome are sums over the records of the batch
  (`sumOf_outcomeOf`).  A batch is accepted as a whole if it lacks no value and,
  unless it is upserted, its record keys are new to the table and differ among
  themselves (`examine_insertable`); if they differ, no record is refused for
  another one of the batch (`examine_distinct`).
-/
import TableSync.Proofs.Store.Applied

namespace TableSync.Store

variable {examined : List (PreparedRecord × Option String)} {required : List String} {operation : WriteOperation}
variable {isVisible : String → Bool} {seen : List String} {records : List PreparedRecord} {record : PreparedRecord}

/-! ## 1. Totals -/

theorem arranged_perm (operation : WriteOperation) (records : List PreparedRecord) :
    (arranged operation records).Perm records := by
  unfold arranged
  split
  · exact List.mergeSort_perm _ _
  · exact .refl _

/-- A total of a list. -/
def sumOf {ι : Type} (f : ι → Int) (items : List ι) : Int := items.foldr (fun item n => f item + n) 0

theorem sumOf_cons {ι : Type} (f : ι → Int) (item : ι) (rest : List ι) : sumOf f (item :: rest) = f item + sumOf f rest :=
  rfl

section Sum

variable {f : WriteStatus → Int} {g : Option String → Int}
variable (hcount : ∀ status record refused, f (count status record refused) = f status + g refused)
variable (hblank : ∀ path, f { partitionPath := path } = 0)
include hcount hblank

theorem sumOf_tally (statuses : List WriteStatus) (entry : PreparedRecord × Option String) :
    sumOf f (tally statuses entry) = sumOf f statuses + g entry.2 := by
  induction statuses with
  | nil =>
    rw [tally, sumOf_cons, hcount, hblank]
    simp [sumOf]
  | cons status rest ih =>
    rw [tally]
    split
    · rw [sumOf_cons, sumOf_cons, hcount]
      omega
    · rw [sumOf_cons, sumOf_cons, ih]
      omega

/-- A total of an outcome is a sum over the examined records. -/
theorem sumOf_outcomeOf : sumOf f (outcomeOf examined).statuses = sumOf (fun entry => g entry.2) examined := by
  have hfold : ∀ statuses, sumOf f (examined.foldl tally statuses) =
      sumOf f statuses + sumOf (fun entry => g entry.2) examined := by
    intro statuses
    induction examined generalizing statuses with
    | nil => exact (Int.add_zero _).symm
    | cons entry rest ih =>
      rw [List.foldl_cons, ih, sumOf_tally hcount hblank, sumOf_cons]
      omega
  have hstart : sumOf f [] = 0 := rfl
  show sumOf f (examined.foldl tally []) = _
  rw [hfold, hstart, Int.zero_add]

end Sum

/-- An outcome counts every record. -/
theorem totalRecords_outcomeOf : (outcomeOf examined).totalRecords = examined.length := by
  have hcount : ∀ status record refused,
      (count status record refused).totalRecords = status.totalRecords + (fun _ => 1 : Option String → Int) refused := by
    intro status record refused
    cases refused <;> rfl
  show sumOf WriteStatus.totalRecords _ = _
  rw [sumOf_outcomeOf hcount fun _ => rfl]
  induction examined with
  | nil => rfl
  | cons entry rest ih =>
    rw [sumOf_cons, ih, List.length_cons]
    omega

/-- It counts an error for every refusal. -/
theorem totalErrorRecords_outcomeOf :
    (outcomeOf examined).totalErrorRecords = (examined.filter fun entry => entry.2.isSome).length := by
  have hcount : ∀ status record refused, (count status record refused).totalErrorRecords =
      status.totalErrorRecords + (fun refused => if refused.isSome then 1 else 0 : Option String → Int) refused := by
    intro status record refused
    cases refused with
    | none => exact (Int.add_zero _).symm
    | some reason => rfl
  show sumOf WriteStatus.totalErrorRecords _ = _
  rw [sumOf_outcomeOf hcount fun _ => rfl]
  induction examined with
  | nil => rfl
  | cons entry rest ih =>
    rw [sumOf_cons, ih, List.filter_cons]
    split
    · rw [List.length_cons]
      omega
    · omega

/-! ## 2. Refusals -/

theorem examine_fst (required : List String) (operation : WriteOperation) (isVisible : String → Bool)
    (seen : List String) (records : List PreparedRecord) :
    (examine required operation isVisible seen records).map Prod.fst = records := by
  induction records generalizing seen with
  | nil => rfl
  | cons record rest ih => rw [examine, List.map_cons, ih]

/-- A batch of which nothing is refused is accepted as it is, and its outcome names no error. -/
theorem accepted_of_none (h : ∀ entry ∈ examined, entry.2 = none) :
    accepted examined = examined.map Prod.fst ∧ (outcomeOf examined).totalErrorRecords = 0 := by
  constructor
  · rw [accepted, List.filter_eq_self.2 fun entry hentry => by rw [h entry hentry]; rfl]
  · have hnone : (examined.filter fun entry => entry.2.isSome) = [] :=
      List.filter_eq_nil_iff.2 fun entry hentry => by simp [h entry hentry]
    rw [totalErrorRecords_outcomeOf, hnone]
    rfl

theorem refusal?_of_complete (hneeded : missingFields required record.payload = [])
    (hnew : operation ≠ .upsert → isVisible record.key.recordKey = false ∧ record.key.recordKey ∉ seen) :
    refusal? required operation isVisible seen record = none := by
  unfold refusal?
  by_cases hupsert : operation = .upsert
  · simp [hneeded, hupsert]
  · obtain ⟨hvisible, hunseen⟩ := hnew hupsert
    simp [hneeded, hvisible, hunseen]

/-- An upsert is refused only for a value that is missing. -/
theorem examine_upsert (h : ∀ record ∈ records, missingFields required record.payload = []) :
    ∀ entry ∈ examine required .upsert isVisible seen records, entry.2 = none := by
  induction records generalizing seen with
  | nil => simp [examine]
  | cons record rest ih =>
    obtain ⟨hrecord, hrest⟩ := List.forall_mem_cons.1 h
    rw [examine]
    exact List.forall_mem_cons.2 ⟨refusal?_of_complete hrecord fun hinsert => absurd rfl hinsert, ih hrest⟩

/-- The reason of a refusal for another record of the batch. -/
abbrev inBatch : String := "Duplicate record key in batch"

theorem refusal?_of_unseen (h : record.key.recordKey ∉ seen) :
    refusal? required operation isVisible seen record ≠ some inBatch := by
  have hmissing : ∀ names : String, "Missing value for non-nullable fields " ++ names ≠ inBatch := by
    intro names hsame
    have hfirst := congrArg (fun text => text.toList.head?) hsame
    simp [String.toList_append, inBatch] at hfirst
  unfold refusal?
  dsimp only
  split
  · intro hsome
    exact hmissing _ (Option.some.inj hsome)
  · split
    · decide
    · simp [h]

/-- What is seen before a record of a batch whose record keys differ does not contain its key. -/
theorem examine_unseen (hdistinct : (records.map (·.key.recordKey)).Nodup)
    (hunseen : ∀ record ∈ records, record.key.recordKey ∉ seen) :
    ∀ entry ∈ examine required operation isVisible seen records, entry.1 ∈ records ∧ ∃ earlier,
      entry.1.key.recordKey ∉ earlier ∧ entry.2 = refusal? required operation isVisible earlier entry.1 := by
  induction records generalizing seen with
  | nil => simp [examine]
  | cons record rest ih =>
    obtain ⟨hrecord, hrest⟩ := List.forall_mem_cons.1 hunseen
    obtain ⟨hfirst, hothers⟩ := List.nodup_cons.1 hdistinct
    have hlater : ∀ other ∈ rest, other.key.recordKey ∉ record.key.recordKey :: seen := by
      intro other hother hseen
      rcases List.mem_cons.1 hseen with hsame | hearlier
      · exact hfirst (List.mem_map.2 ⟨other, hother, hsame⟩)
      · exact hrest other hother hearlier
    rw [examine]
    refine List.forall_mem_cons.2 ⟨⟨List.mem_cons_self, seen, hrecord, rfl⟩, fun entry hentry => ?_⟩
    obtain ⟨hmem, hearlier⟩ := ih hothers hlater entry hentry
    exact ⟨List.mem_cons_of_mem _ hmem, hearlier⟩

/-- No record is refused for another one of the batch if their record keys differ. -/
theorem examine_distinct (hdistinct : (records.map (·.key.recordKey)).Nodup) :
    ∀ entry ∈ examine required operation isVisible [] records, entry.2 ≠ some inBatch := by
  intro entry hentry
  obtain ⟨-, earlier, hunseen, hrefusal⟩ := examine_unseen hdistinct (by simp) entry hentry
  rw [hrefusal]
  exact refusal?_of_unseen hunseen

/-- Nothing is refused of a batch that lacks no value and whose record keys differ and are new to the table. -/
theorem examine_insertable (hneeded : ∀ record ∈ records, missingFields required record.payload = [])
    (hnew : ∀ record ∈ records, isVisible record.key.recordKey = false)
    (hdistinct : (records.map (·.key.recordKey)).Nodup) :
    ∀ entry ∈ examine required operation isVisible [] records, entry.2 = none := by
  intro entry hentry
  obtain ⟨hmem, earlier, hunseen, hrefusal⟩ := examine_unseen hdistinct (by simp) entry hentry
  rw [hrefusal]
  exact refusal?_of_complete (hneeded _ hmem) fun _ => ⟨hnew _ hmem, hunseen⟩

end TableSync.Store
