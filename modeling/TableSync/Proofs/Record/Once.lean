/-
  TableSync/Proofs/Record/Once.lean
  =================================
  **One record of each key** — combining a batch again changes nothing.

  A batch whose records of one key can be compared is combined into winners with
  keys of their own (`Ordered.once`).  Which ones they are does not depend on the
  moment, which is named in failures only.
-/
import TableSync.Proofs.Record.Newest

namespace TableSync.Dedup

variable {records winners next : List PreparedRecord} {candidate current record : PreparedRecord} {now : Timestamp}

/-! ## 1. The moment -/

theorem precedes_later {older : Bool} (h : precedes candidate current now = .ok older) (later : Timestamp) :
    precedes candidate current later = .ok older := by
  unfold precedes at h ⊢
  split at h
  · exact h
  · exact h
  · exact h
  · split at h
    · exact h
    · cases h

theorem insert_later (h : insert record now winners = .ok next) (later : Timestamp) :
    insert record later winners = .ok next := by
  induction winners generalizing next with
  | nil => exact h
  | cons winner rest ih =>
    rw [insert] at h ⊢
    split at h
    next hkey =>
      obtain ⟨older, holder, hdone⟩ := bind_eq_ok.1 h
      rw [if_pos hkey, precedes_later holder later]
      exact hdone
    next hkey =>
      obtain ⟨others, hothers, hdone⟩ := bind_eq_ok.1 h
      rw [if_neg hkey, ih hothers]
      exact hdone

theorem keepFrom_later {last : List PreparedRecord} (h : keepFrom winners records now = .ok last) (later : Timestamp) :
    keepFrom winners records later = .ok last := by
  induction records generalizing winners with
  | nil => exact h
  | cons record rest ih =>
    rw [keepFrom] at h ⊢
    obtain ⟨next, hnext, hrest⟩ := bind_eq_ok.1 h
    rw [insert_later hnext later]
    exact ih hrest

/-! ## 2. Keys of their own -/

theorem keepFrom_of_nodup (h : ((winners ++ records).map (·.key)).Nodup) :
    keepFrom winners records now = .ok (winners ++ records) := by
  induction records generalizing winners with
  | nil => rw [List.append_nil, keepFrom]
  | cons record rest ih =>
    have hnew : ∀ winner ∈ winners, winner.key ≠ record.key := by
      rw [List.map_append] at h
      intro winner hwinner
      exact (List.nodup_append.1 h).2.2 _ (List.mem_map_of_mem hwinner) _ (List.mem_map_of_mem List.mem_cons_self)
    rw [List.append_cons] at h ⊢
    rw [keepFrom, insert_of_new hnew]
    exact ih h

theorem Kept.nodup {Stands : List PreparedRecord → PreparedRecord → Prop} (h : Kept Stands records winners) :
    (winners.map (·.key)).Nodup := by
  rw [h.keys]
  exact firstSeen_nodup records

/-! ## 3. Something is kept -/

theorem insert_ne_nil (h : insert record now winners = .ok next) : next ≠ [] := by
  cases winners with
  | nil =>
    cases h
    simp
  | cons winner rest =>
    rw [insert] at h
    split at h
    all_goals
      obtain ⟨_, -, hdone⟩ := bind_eq_ok.1 h
      cases hdone
      simp

theorem keepFrom_ne_nil {last : List PreparedRecord} (hwinners : winners ≠ [])
    (h : keepFrom winners records now = .ok last) : last ≠ [] := by
  induction records generalizing winners with
  | nil =>
    cases h
    exact hwinners
  | cons record rest ih =>
    rw [keepFrom] at h
    obtain ⟨next, hnext, hrest⟩ := bind_eq_ok.1 h
    exact ih (insert_ne_nil hnext) hrest

/-- Nothing is kept of nothing only. -/
theorem keep_eq_nil_iff (h : keep records now = .ok winners) : winners = [] ↔ records = [] := by
  cases records with
  | nil =>
    cases h
    simp
  | cons record rest =>
    rw [keep, keepFrom] at h
    obtain ⟨next, hnext, hrest⟩ := bind_eq_ok.1 h
    simp [keepFrom_ne_nil (insert_ne_nil hnext) hrest]

/-! ## 4. Batches that can be compared -/

/-- Two records of one key have ordering values with an order, unless one of them has none. -/
def Ordered (records : List PreparedRecord) : Prop :=
  ∀ candidate ∈ records, ∀ current ∈ records, candidate.key = current.key → candidate.ordering = .null ∨
    current.ordering = .null ∨ (candidate.ordering.less? current.ordering).isSome = true

theorem Ordered.precedes (h : Ordered records) (hcandidate : candidate ∈ records) (hcurrent : current ∈ records)
    (hkey : candidate.key = current.key) : ∃ older, Dedup.precedes candidate current now = .ok older := by
  by_cases hcurrentNull : current.ordering = .null
  · exact ⟨false, precedes_null hcurrentNull⟩
  · by_cases hnull : candidate.ordering = .null
    · exact ⟨true, null_precedes hnull hcurrentNull⟩
    · rcases h candidate hcandidate current hcurrent hkey with hnone | hnone | hsome
      · exact absurd hnone hnull
      · exact absurd hnone hcurrentNull
      · obtain ⟨less, hless⟩ := Option.isSome_iff_exists.1 hsome
        exact ⟨less, precedes_of_less? hnull hcurrentNull hless⟩

theorem Ordered.decides (h : Ordered records) : Decides records now fun group winner => winner ∈ group where
  first record _ := List.mem_singleton_self record
  next group winner record hgroup hrecord hwinner hkey := by
    obtain ⟨older, holder⟩ := h.precedes hrecord (hgroup hwinner) hkey.symm
    refine ⟨older, holder, ?_⟩
    cases older with
    | true => exact List.mem_append_left _ hwinner
    | false => exact List.mem_append_right _ (List.mem_singleton_self record)

/-- What is kept of a batch, at any moment: each key once, and combining it again keeps it as it is. -/
structure Once (records once : List PreparedRecord) : Prop where
  kept : ∀ now, keep records now = .ok once
  again : ∀ now, keep once now = .ok once
  distinct : (once.map (·.key)).Nodup
  subset : once ⊆ records
  keys : ∀ record ∈ records, ∃ winner ∈ once, winner.key = record.key

theorem Ordered.once (h : Ordered records) : ∃ once, Once records once := by
  obtain ⟨once, hkeep, hkept⟩ := keep_kept (h.decides : Decides records ⟨0⟩ fun group winner => winner ∈ group)
  refine ⟨once, ?_, ?_, hkept.nodup, ?_, ?_⟩
  · intro now
    exact keepFrom_later hkeep now
  · intro now
    exact keepFrom_of_nodup hkept.nodup
  · intro winner hwinner
    exact List.mem_of_mem_filter (hkept.stands winner hwinner)
  · intro record hrecord
    exact hkept.mem_keys.2 ⟨record, hrecord, rfl⟩

/-- No two records that have one record key name different partitions. -/
def OnePartition (records : List PreparedRecord) : Prop :=
  ∀ record ∈ records, ∀ other ∈ records, record.key.recordKey = other.key.recordKey → record.key = other.key

theorem OnePartition.nodup (h : OnePartition records) (hdistinct : (records.map (·.key)).Nodup) :
    (records.map (·.key.recordKey)).Nodup := by
  rw [List.Nodup, List.pairwise_map] at hdistinct ⊢
  exact hdistinct.imp_of_mem fun hrecord hother hne hsame => hne (h _ hrecord _ hother hsame)

end TableSync.Dedup
