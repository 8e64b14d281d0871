/-
  TableSync/Proofs/Record/Winners.lean
  ====================================
  **The right record of every key** — combining a batch whose keys are ordered
  one by one.

  The ordering values of one key are numbers or null, or texts or null; those of
  another key may be of the other kind.  Combining such a batch never fails.  It
  leaves one record of every key, at the place at which its key is first seen,
  and that record is the last of the greatest of its key.  There is only one
  such record, so nothing but the records of a key decides what is kept of it.
-/
import TableSync.Proofs.Record.Newest

namespace TableSync.Dedup

variable {records group winners : List PreparedRecord} {record winner : PreparedRecord} {now : Timestamp} {key : RecordKey}

/-! ## 1. The records of a key -/

theorem mem_ofKey : record ∈ ofKey records key ↔ record ∈ records ∧ record.key = key := by
  simp [ofKey]

/-- The records of each key have ordering values of one kind. -/
def ComparableByKey (records : List PreparedRecord) : Prop :=
  ∀ record ∈ records, Comparable (ofKey records record.key)

theorem ComparableByKey.decides (h : ComparableByKey records) : Decides records now Newest where
  first record _ := newest_single record
  next group winner record hgroup hrecord hwinner hkey := by
    -- both have the key of the next record, so both are among the records that it can be compared with
    have hnext : record ∈ ofKey records record.key := mem_ofKey.2 ⟨hrecord, rfl⟩
    have hbefore : winner ∈ ofKey records record.key := mem_ofKey.2 ⟨hgroup hwinner.mem, hkey⟩
    exact ⟨_, (h record hrecord).precedes_eq hnext hbefore, hwinner.next⟩

/-! ## 2. There is only one -/

/-- Of two places at which a list can be taken apart one is not before the other. -/
theorem split_cases {α : Type} {before after before' after' : List α} {a b : α}
    (h : before ++ a :: after = before' ++ b :: after') : a = b ∨ b ∈ after ∨ a ∈ after' := by
  rcases List.append_eq_append_iff.1 h with ⟨between, hbefore, hafter⟩ | ⟨between, hbefore, hafter⟩
  · cases between with
    | nil =>
      rw [List.nil_append] at hafter
      exact .inl (List.cons.inj hafter).1
    | cons first rest =>
      rw [List.cons_append] at hafter
      rw [(List.cons.inj hafter).2]
      exact .inr (.inl (by simp))
  · cases between with
    | nil =>
      rw [List.nil_append] at hafter
      exact .inl (List.cons.inj hafter).1.symm
    | cons first rest =>
      rw [List.cons_append] at hafter
      rw [(List.cons.inj hafter).2]
      exact .inr (.inr (by simp))

theorem Newest.unique (h : Newest group winner) (h' : Newest group record) : winner = record := by
  have hmost := h.le
  have hmost' := h'.le
  have hmem := h.mem
  have hmem' := h'.mem
  obtain ⟨before, after, hsplit, -, hafter⟩ := h
  obtain ⟨before', after', hsplit', -, hafter'⟩ := h'
  rcases split_cases (hsplit.symm.trans hsplit') with hequal | hlater | hlater
  · exact hequal
  · -- what comes later is less, but nothing is greater than the other one
    exact absurd (hafter record hlater) (not_lt.2 (hmost' winner hmem))
  · exact absurd (hafter' winner hlater) (not_lt.2 (hmost record hmem'))

/-! ## 3. What is kept -/

/-- What is kept is what is the newest of its key. -/
theorem Kept.mem_iff (h : Kept Newest records winners) : record ∈ winners ↔ Newest (ofKey records record.key) record := by
  constructor
  · intro hkept
    exact h.stands record hkept
  · intro hnewest
    have hmem := (mem_ofKey.1 hnewest.mem).1
    obtain ⟨winner, hwinner, hkey⟩ := h.mem_keys.2 ⟨record, hmem, rfl⟩
    have hstands : Newest (ofKey records record.key) winner := hkey ▸ h.stands winner hwinner
    rw [hnewest.unique hstands]
    exact hwinner

/-- **One record of every key is kept, the last of the greatest.** Combining returns for every batch whose ordering
values are comparable key by key. The keys of what it returns are those of the batch, each once, in the order in which
they are first seen, and a record is kept if and only if it is the newest of its key. Only the log changes. -/
theorem ComparableByKey.run_newest {σ : Type} (h : ComparableByKey records) (w : World σ) :
    ∃ winners log, (Dedup.run records).runIn w = (.ok winners, { w with log }) ∧
      winners.map (·.key) = firstSeen records ∧
      ∀ record, record ∈ winners ↔ Newest (ofKey records record.key) record := by
  obtain ⟨winners, hkeep, hkept⟩ := keep_kept h.decides
  obtain ⟨log, hrun⟩ := run_runIn hkeep
  exact ⟨winners, log, hrun, hkept.keys, fun _ => hkept.mem_iff⟩

/-! ## 4. A batch of several kinds -/

/-- A record of the sample batch. -/
def sampleOf (key partition : String) (ordering : Value) (place : Int) : PreparedRecord where
  key := ⟨key, partition⟩
  ordering := ordering
  payload := [("place", .int place)]

/-- Three keys, of which two differ in the partition only: numbers of three forms with a tie, a null after a text,
and nulls only. -/
def sampleBatch : List PreparedRecord :=
  [sampleOf "a" "x" (.int 1) 0, sampleOf "b" "x" (.text "t") 1, sampleOf "a" "x" (.float 1.0) 2, sampleOf "a" "y" .null 3,
    sampleOf "a" "x" (.bool true) 4, sampleOf "b" "x" .null 5, sampleOf "a" "x" .null 6, sampleOf "a" "y" .null 7]

example : keep sampleBatch ⟨0⟩ = .ok [sampleOf "a" "x" (.bool true) 4, sampleOf "b" "x" (.text "t") 1,
    sampleOf "a" "y" .null 7] := by
  rfl

theorem sampleBatch_comparable : ComparableByKey sampleBatch := by
  have hnumbers : Comparable (ofKey sampleBatch ⟨"a", "x"⟩) := by
    left
    change ∀ record ∈ [sampleOf "a" "x" (.int 1) 0, sampleOf "a" "x" (.float 1.0) 2, sampleOf "a" "x" (.bool true) 4,
      sampleOf "a" "x" .null 6], record.ordering.IsNumeric
    intro record hrecord
    simp only [List.mem_cons, List.not_mem_nil, or_false] at hrecord
    rcases hrecord with rfl | rfl | rfl | rfl
    · exact .inr ⟨.whole 1, _, rfl, rfl⟩
    · exact .inr ⟨.double 1.0, _, rfl, rfl⟩
    · exact .inr ⟨.whole 1, _, rfl, rfl⟩
    · exact .inl rfl
  have htexts : Comparable (ofKey sampleBatch ⟨"b", "x"⟩) := by
    right
    change ∀ record ∈ [sampleOf "b" "x" (.text "t") 1, sampleOf "b" "x" .null 5], record.ordering.IsTextual
    simp [Value.IsTextual, sampleOf]
  have hnulls : Comparable (ofKey sampleBatch ⟨"a", "y"⟩) := by
    right
    change ∀ record ∈ [sampleOf "a" "y" .null 3, sampleOf "a" "y" .null 7], record.ordering.IsTextual
    simp [Value.IsTextual, sampleOf]
  have hkeys : ∀ record ∈ sampleBatch,
      record.key = ⟨"a", "x"⟩ ∨ record.key = ⟨"b", "x"⟩ ∨ record.key = ⟨"a", "y"⟩ := by decide
  intro record hrecord
  rcases hkeys record hrecord with hkey | hkey | hkey
  · rw [hkey]
    exact hnumbers
  · rw [hkey]
    exact htexts
  · rw [hkey]
    exact hnulls

/-- Of the sample batch the last of the equal numbers, the text and the last of the nulls are kept. -/
theorem sampleBatch_newest : ComparableByKey sampleBatch ∧
    ∃ winners log, (Dedup.run sampleBatch).runIn { now := ⟨0⟩, state := () } =
        (.ok winners, { now := ⟨0⟩, log, state := () }) ∧
      winners.map (·.key) = [⟨"a", "x"⟩, ⟨"b", "x"⟩, ⟨"a", "y"⟩] ∧
      ∀ record, record ∈ winners ↔ Newest (ofKey sampleBatch record.key) record :=
  ⟨sampleBatch_comparable, sampleBatch_comparable.run_newest { now := ⟨0⟩, state := () }⟩

end TableSync.Dedup
