/-
  TableSync/Proofs/Record/Newest.lean
  ===================================
  **The newest record of each key** — what combining a batch leaves.

  `Dedup.keep` holds one winner per key, in the order in which the keys are
  first seen.  What is known of a winner is a relation to the records of its
  key so far that the first record has and that every decision keeps
  (`Decides`); from there it holds of the whole batch (`keep_kept`).  Where the
  ordering values have an order, each winner is the newest record of its key:
  none is greater, and the later ones are less.
-/
import Mathlib
import TableSync.Proofs.Value.Exact
import TableSync.Proofs.Effect
import TableSync.Proofs.Distinct

namespace TableSync

/-! ## 1. Keys in the order in which they are first seen -/

/-- The keys of records, each once, in the order in which they are first seen. -/
def firstSeen (records : List PreparedRecord) : List RecordKey := (records.map (·.key)).eraseDups

section FirstSeen

variable {records : List PreparedRecord} {record : PreparedRecord}

theorem mem_firstSeen {key : RecordKey} : key ∈ firstSeen records ↔ ∃ record ∈ records, record.key = key := by
  rw [firstSeen, List.mem_eraseDups, List.mem_map]

theorem firstSeen_snoc_of_mem (h : record.key ∈ firstSeen records) :
    firstSeen (records ++ [record]) = firstSeen records := by
  rw [firstSeen, List.map_append, List.map_singleton, eraseDups_snoc_of_mem (List.mem_eraseDups.1 h), firstSeen]

theorem firstSeen_snoc_of_notMem (h : record.key ∉ firstSeen records) :
    firstSeen (records ++ [record]) = firstSeen records ++ [record.key] := by
  rw [firstSeen, List.map_append, List.map_singleton, eraseDups_snoc_of_notMem (mt List.mem_eraseDups.2 h), firstSeen]

theorem firstSeen_nodup (records : List PreparedRecord) : (firstSeen records).Nodup := nodup_eraseDups _

end FirstSeen

namespace Dedup

variable {records winners : List PreparedRecord} {record winner : PreparedRecord} {now : Timestamp}

/-! ## 2. Inserting a record -/

theorem insert_of_new (h : ∀ winner ∈ winners, winner.key ≠ record.key) :
    insert record now winners = .ok (winners ++ [record]) := by
  induction winners with
  | nil => rfl
  | cons winner rest ih =>
    obtain ⟨hwinner, hrest⟩ := List.forall_mem_cons.1 h
    rw [insert, if_neg hwinner, ih hrest]
    rfl

/-- A record with the key of a winner is decided against it. -/
theorem insert_known {front rest : List PreparedRecord} (hfront : ∀ other ∈ front, other.key ≠ record.key)
    (hkey : winner.key = record.key) : insert record now (front ++ winner :: rest) =
      (precedes record winner now).map fun older => front ++ (if older then winner else record) :: rest := by
  induction front with
  | nil =>
    rw [List.nil_append, insert, if_pos hkey]
    cases precedes record winner now <;> rfl
  | cons other front ih =>
    obtain ⟨hother, hfront⟩ := List.forall_mem_cons.1 hfront
    rw [List.cons_append, insert, if_neg hother, ih hfront]
    cases precedes record winner now <;> rfl

theorem insert_of_known {front rest : List PreparedRecord} {older : Bool}
    (hfront : ∀ other ∈ front, other.key ≠ record.key) (hkey : winner.key = record.key)
    (holder : precedes record winner now = .ok older) :
    insert record now (front ++ winner :: rest) = .ok (front ++ (if older then winner else record) :: rest) := by
  rw [insert_known hfront hkey, holder]
  rfl

/-! ## 3. What is known of a winner -/

/-- The records with a key. -/
def ofKey (records : List PreparedRecord) (key : RecordKey) : List PreparedRecord :=
  records.filter fun record => decide (record.key = key)

theorem ofKey_snoc_self : ofKey (records ++ [record]) record.key = ofKey records record.key ++ [record] := by
  simp [ofKey]

theorem ofKey_snoc_other {key : RecordKey} (h : record.key ≠ key) :
    ofKey (records ++ [record]) key = ofKey records key := by
  simp [ofKey, h]

/-- A relation of a winner to the records of its key that holds of a single record, and that a decision between the
winner and the next record of the key keeps. There is a decision in every case. -/
structure Decides (records : List PreparedRecord) (now : Timestamp)
    (Stands : List PreparedRecord → PreparedRecord → Prop) : Prop where
  first : ∀ record ∈ records, Stands [record] record
  next : ∀ group winner record, group ⊆ records → record ∈ records → Stands group winner → winner.key = record.key →
    ∃ older, precedes record winner now = .ok older ∧
      Stands (group ++ [record]) (if older then winner else record)

/-- A relation of a winner to the records of its key that holds of a single record, and that a decision keeps wherever
there is one. -/
structure Carries (records : List PreparedRecord) (now : Timestamp)
    (Stands : List PreparedRecord → PreparedRecord → Prop) : Prop where
  first : ∀ record ∈ records, Stands [record] record
  next : ∀ group winner record older, group ⊆ records → record ∈ records → Stands group winner →
    winner.key = record.key → precedes record winner now = .ok older →
    Stands (group ++ [record]) (if older then winner else record)

/-- Winners of a batch: one for each key, in the order in which the keys are first seen. -/
structure Kept (Stands : List PreparedRecord → PreparedRecord → Prop) (done winners : List PreparedRecord) : Prop where
  keys : winners.map (·.key) = firstSeen done
  stands : ∀ winner ∈ winners, Stands (ofKey done winner.key) winner

variable {Stands : List PreparedRecord → PreparedRecord → Prop} {done : List PreparedRecord}

theorem kept_nil : Kept Stands [] [] where
  keys := rfl
  stands := by simp

theorem Kept.mem_keys (h : Kept Stands done winners) {key : RecordKey} :
    (∃ winner ∈ winners, winner.key = key) ↔ ∃ record ∈ done, record.key = key := by
  have hseen : key ∈ firstSeen done ↔ ∃ record ∈ done, record.key = key := mem_firstSeen
  rw [← hseen, ← h.keys, List.mem_map]

theorem Kept.other_keys {front rest : List PreparedRecord} (h : Kept Stands done (front ++ winner :: rest)) :
    ∀ other ∈ front ++ rest, other.key ≠ winner.key := by
  have hnodup := firstSeen_nodup done
  rw [← h.keys, List.map_append, List.map_cons] at hnodup
  obtain ⟨-, hrest, hacross⟩ := List.nodup_append.1 hnodup
  intro other hmem hsame
  rcases List.mem_append.1 hmem with hfront | hlater
  · exact hacross other.key (List.mem_map_of_mem hfront) winner.key List.mem_cons_self hsame
  · exact (List.nodup_cons.1 hrest).1 (hsame ▸ List.mem_map_of_mem hlater)

theorem Kept.of_new (h : Kept Stands done winners) (hnew : ∀ winner ∈ winners, winner.key ≠ record.key)
    (hfirst : Stands [record] record) : Kept Stands (done ++ [record]) (winners ++ [record]) where
  keys := by
    have hunseen : record.key ∉ firstSeen done := by
      rw [← h.keys]
      intro hmem
      obtain ⟨winner, hwinner, hkey⟩ := List.mem_map.1 hmem
      exact hnew winner hwinner hkey
    rw [List.map_append, h.keys, firstSeen_snoc_of_notMem hunseen]
    rfl
  stands := by
    intro winner hwinner
    rcases List.mem_append.1 hwinner with hold | hself
    · rw [ofKey_snoc_other (hnew winner hold).symm]
      exact h.stands winner hold
    · rw [List.mem_singleton.1 hself, ofKey_snoc_self]
      have hnone : ofKey done record.key = [] := by
        refine List.filter_eq_nil_iff.2 fun other hother hkey => ?_
        obtain ⟨winner, hwinner, hsame⟩ := h.mem_keys.2 ⟨other, hother, of_decide_eq_true hkey⟩
        exact hnew winner hwinner hsame
      rw [hnone]
      exact hfirst

theorem Kept.of_known {front rest : List PreparedRecord} {next : PreparedRecord}
    (h : Kept Stands done (front ++ winner :: rest)) (hkey : winner.key = record.key) (hnext : next.key = record.key)
    (hstands : Stands (ofKey done record.key ++ [record]) next) :
    Kept Stands (done ++ [record]) (front ++ next :: rest) where
  keys := by
    have hseen : record.key ∈ firstSeen done := by
      rw [← h.keys, ← hkey]
      exact List.mem_map_of_mem (by simp)
    rw [firstSeen_snoc_of_mem hseen, ← h.keys]
    simp [hkey, hnext]
  stands := by
    have hother : ∀ other ∈ front ++ rest, other.key ≠ record.key := hkey ▸ h.other_keys
    intro other hmem
    rcases List.mem_append.1 hmem with hfront | hlater
    · rw [ofKey_snoc_other (hother other (List.mem_append_left _ hfront)).symm]
      exact h.stands other (List.mem_append_left _ hfront)
    · rcases List.mem_cons.1 hlater with rfl | hlater
      · rw [hnext, ofKey_snoc_self]
        exact hstands
      · rw [ofKey_snoc_other (hother other (List.mem_append_right _ hlater)).symm]
        exact h.stands other (List.mem_append_right _ (List.mem_cons_of_mem _ hlater))

/-- One record more: what is known of the winners stays if there is a decision. -/
theorem Kept.insert_ok (h : Kept Stands done winners) (carries : Carries records now Stands) (hdone : done ⊆ records)
    (hrecord : record ∈ records) (hinsert : Dedup.insert record now winners = .ok next) :
    Kept Stands (done ++ [record]) next := by
  by_cases hknown : ∃ winner ∈ winners, winner.key = record.key
  · obtain ⟨winner, hwinner, hkey⟩ := hknown
    obtain ⟨front, rest, rfl⟩ := List.append_of_mem hwinner
    have hfront : ∀ other ∈ front, other.key ≠ record.key := fun other hother =>
      hkey ▸ h.other_keys other (List.mem_append_left _ hother)
    have hgroup : ofKey done winner.key ⊆ records := fun other hother => hdone (List.mem_of_mem_filter hother)
    rw [insert_known hfront hkey] at hinsert
    cases holder : precedes record winner now with
    | error failure =>
      rw [holder] at hinsert
      cases hinsert
    | ok older =>
      rw [holder] at hinsert
      cases hinsert
      have hstands := carries.next _ winner record older hgroup hrecord (h.stands winner hwinner) hkey holder
      refine h.of_known hkey ?_ (hkey ▸ hstands)
      split
      · exact hkey
      · rfl
  · have hnew : ∀ winner ∈ winners, winner.key ≠ record.key := by simpa using hknown
    rw [insert_of_new hnew] at hinsert
    cases hinsert
    exact h.of_new hnew (carries.first record hrecord)

theorem Decides.carries (decides : Decides records now Stands) : Carries records now Stands where
  first := decides.first
  next group winner record older hgroup hrecord hwinner hkey holder := by
    obtain ⟨decided, hdecided, hstands⟩ := decides.next group winner record hgroup hrecord hwinner hkey
    rw [holder] at hdecided
    cases hdecided
    exact hstands

/-- One record more: there is a decision, and what is known of the winners stays. -/
theorem Kept.insert (h : Kept Stands done winners) (decides : Decides records now Stands)
    (hdone : done ⊆ records) (hrecord : record ∈ records) :
    ∃ next, Dedup.insert record now winners = .ok next ∧ Kept Stands (done ++ [record]) next := by
  have hinsert : ∃ next, Dedup.insert record now winners = .ok next := by
    by_cases hknown : ∃ winner ∈ winners, winner.key = record.key
    · obtain ⟨winner, hwinner, hkey⟩ := hknown
      obtain ⟨front, rest, rfl⟩ := List.append_of_mem hwinner
      have hgroup : ofKey done winner.key ⊆ records := fun other hother => hdone (List.mem_of_mem_filter hother)
      obtain ⟨older, holder, -⟩ := decides.next _ winner record hgroup hrecord (h.stands winner hwinner) hkey
      have hfront : ∀ other ∈ front, other.key ≠ record.key := fun other hother =>
        hkey ▸ h.other_keys other (List.mem_append_left _ hother)
      exact ⟨_, insert_of_known hfront hkey holder⟩
    · exact ⟨_, insert_of_new (by simpa using hknown)⟩
  obtain ⟨next, hinsert⟩ := hinsert
  exact ⟨next, hinsert, h.insert_ok decides.carries hdone hrecord hinsert⟩

theorem Kept.keepFrom_ok {last : List PreparedRecord} (h : Kept Stands done winners)
    (carries : Carries (done ++ records) now Stands) (hkeep : Dedup.keepFrom winners records now = .ok last) :
    Kept Stands (done ++ records) last := by
  induction records generalizing done winners with
  | nil =>
    cases hkeep
    rwa [List.append_nil]
  | cons record rest ih =>
    rw [Dedup.keepFrom] at hkeep
    obtain ⟨next, hinsert, hrest⟩ := bind_eq_ok.1 hkeep
    have hnext := h.insert_ok carries (by simp) (show record ∈ done ++ record :: rest by simp) hinsert
    rw [List.append_cons] at carries ⊢
    exact ih hnext carries hrest

/-- What decisions keep is known of the winners of every pass that succeeds. -/
theorem Carries.kept (carries : Carries records now Stands) (hkeep : keep records now = .ok winners) :
    Kept Stands records winners :=
  Kept.keepFrom_ok kept_nil carries hkeep

theorem Kept.keepFrom (h : Kept Stands done winners) (decides : Decides (done ++ records) now Stands) :
    ∃ last, Dedup.keepFrom winners records now = .ok last ∧ Kept Stands (done ++ records) last := by
  induction records generalizing done winners with
  | nil =>
    rw [List.append_nil]
    exact ⟨winners, rfl, h⟩
  | cons record rest ih =>
    obtain ⟨next, hinsert, hnext⟩ := h.insert decides (by simp) (show record ∈ done ++ record :: rest by simp)
    rw [List.append_cons] at decides ⊢
    obtain ⟨last, hkeep, hlast⟩ := ih hnext decides
    refine ⟨last, ?_, hlast⟩
    rw [Dedup.keepFrom, hinsert]
    exact hkeep

/-- **A batch is combined if there is a decision in every case**, and what decisions keep is known of the winners. -/
theorem keep_kept (decides : Decides records now Stands) :
    ∃ winners, keep records now = .ok winners ∧ Kept Stands records winners :=
  Kept.keepFrom kept_nil decides

theorem run_runIn {σ : Type} {w : World σ} (hkeep : keep records w.now = .ok winners) :
    ∃ log, (Dedup.run records : Effect σ _).runIn w = (.ok winners, { w with log }) := by
  have hnow : (Effect.now : Effect σ Timestamp).runIn w = (.ok w.now, w) := rfl
  have hkept : (Effect.ofExcept (keep records w.now) : Effect σ _).runIn w = (.ok winners, w) := by
    rw [hkeep]
    rfl
  unfold Dedup.run
  rw [Effect.runIn_bind_ok hnow, Effect.runIn_bind_ok hkept]
  dsimp only
  split
  · exact ⟨_, rfl⟩
  · exact ⟨_, rfl⟩

/-! ## 4. The newest record -/

/-- The ordering values are numbers or null, or texts or null. -/
def Comparable (records : List PreparedRecord) : Prop :=
  (∀ record ∈ records, record.ordering.IsNumeric) ∨ ∀ record ∈ records, record.ordering.IsTextual

/-- No record has a greater ordering value, and the later ones have lesser ones. -/
def Newest (records : List PreparedRecord) (record : PreparedRecord) : Prop :=
  ∃ before after, records = before ++ record :: after ∧
    (∀ other ∈ before, other.ordering.rank ≤ record.ordering.rank) ∧
    ∀ other ∈ after, other.ordering.rank < record.ordering.rank

variable {candidate current : PreparedRecord}

theorem precedes_null (h : current.ordering = .null) : precedes candidate current now = .ok false := by
  unfold precedes
  rw [h]
  cases candidate.ordering <;> rfl

theorem null_precedes (h : candidate.ordering = .null) (hcurrent : current.ordering ≠ .null) :
    precedes candidate current now = .ok true := by
  unfold precedes
  rw [h]
  split <;> first | rfl | contradiction

theorem precedes_of_less? {less : Bool} (hcandidate : candidate.ordering ≠ .null) (hcurrent : current.ordering ≠ .null)
    (h : candidate.ordering.less? current.ordering = some less) : precedes candidate current now = .ok less := by
  unfold precedes
  split
  · contradiction
  · contradiction
  · contradiction
  · rw [h]

theorem precedes_eq_of_null (h : current.ordering = .null) :
    precedes candidate current now = .ok (decide (candidate.ordering.rank < current.ordering.rank)) := by
  rw [precedes_null h, h, Value.rank_null]
  simp

theorem null_precedes_eq (h : candidate.ordering = .null) (hcurrent : ⊥ < current.ordering.rank) :
    precedes candidate current now = .ok (decide (candidate.ordering.rank < current.ordering.rank)) := by
  have hsome : current.ordering ≠ .null := by
    intro hnull
    rw [hnull, Value.rank_null] at hcurrent
    exact lt_irrefl _ hcurrent
  rw [null_precedes h hsome, h, Value.rank_null, decide_eq_true hcurrent]

theorem precedes_of_numeric (ha : candidate.ordering.IsNumeric) (hb : current.ordering.IsNumeric) :
    precedes candidate current now = .ok (decide (candidate.ordering.rank < current.ordering.rank)) := by
  rcases hb with hb | ⟨n, s, hn, hs⟩
  · exact precedes_eq_of_null hb
  · rcases ha with ha | ⟨m, r, hm, hr⟩
    · refine null_precedes_eq ha ?_
      rw [Value.rank_number hn hs]
      exact WithBot.bot_lt_coe _
    · have hsome : candidate.ordering ≠ .null := fun hnull => by rw [hnull] at hm; cases hm
      have hsome' : current.ordering ≠ .null := fun hnull => by rw [hnull] at hn; cases hn
      rw [precedes_of_less? hsome hsome' (Value.less?_number hm hn), Value.rank_number hm hr, Value.rank_number hn hs]
      congr 1
      rw [Bool.eq_iff_iff, beq_iff_eq, Number.compare?_lt_iff hr hs, decide_eq_true_iff, WithBot.coe_lt_coe,
        Sum.Lex.inl_lt_inl_iff]

theorem precedes_of_textual (ha : candidate.ordering.IsTextual) (hb : current.ordering.IsTextual) :
    precedes candidate current now = .ok (decide (candidate.ordering.rank < current.ordering.rank)) := by
  rcases hb with hb | ⟨t, ht⟩
  · exact precedes_eq_of_null hb
  · rcases ha with ha | ⟨s, hs⟩
    · refine null_precedes_eq ha ?_
      rw [ht, Value.rank_text]
      exact WithBot.bot_lt_coe _
    · have hsome : candidate.ordering ≠ .null := fun hnull => by rw [hnull] at hs; cases hs
      have hsome' : current.ordering ≠ .null := fun hnull => by rw [hnull] at ht; cases ht
      have hless : candidate.ordering.less? current.ordering = some (decide (s < t)) := by rw [hs, ht, Value.less?]
      rw [precedes_of_less? hsome hsome' hless, hs, ht, Value.rank_text, Value.rank_text]
      congr 1
      rw [Bool.eq_iff_iff, decide_eq_true_iff, decide_eq_true_iff, WithBot.coe_lt_coe, Sum.Lex.inr_lt_inr_iff]

/-- Records that can be compared are decided by their places. -/
theorem Comparable.precedes_eq (h : Comparable records)
    (hcandidate : candidate ∈ records) (hcurrent : current ∈ records) :
    precedes candidate current now = .ok (decide (candidate.ordering.rank < current.ordering.rank)) := by
  rcases h with hnumeric | htextual
  · exact precedes_of_numeric (hnumeric _ hcandidate) (hnumeric _ hcurrent)
  · exact precedes_of_textual (htextual _ hcandidate) (htextual _ hcurrent)

theorem newest_single (record : PreparedRecord) : Newest [record] record := ⟨[], [], rfl, by simp, by simp⟩

theorem Newest.mem (h : Newest records record) : record ∈ records := by
  obtain ⟨before, after, rfl, -, -⟩ := h
  simp

theorem Newest.le (h : Newest records record) : ∀ other ∈ records, other.ordering.rank ≤ record.ordering.rank := by
  obtain ⟨before, after, rfl, hbefore, hafter⟩ := h
  intro other hother
  rcases List.mem_append.1 hother with hmem | hmem
  · exact hbefore other hmem
  · rcases List.mem_cons.1 hmem with rfl | hmem
    · exact le_refl _
    · exact le_of_lt (hafter other hmem)

/-- The newest of the records so far, or the next one. -/
theorem Newest.next (h : Newest records winner) : Newest (records ++ [record])
    (if decide (record.ordering.rank < winner.ordering.rank) = true then winner else record) := by
  by_cases hless : record.ordering.rank < winner.ordering.rank
  · rw [if_pos (decide_eq_true hless)]
    obtain ⟨before, after, rfl, hbefore, hafter⟩ := h
    refine ⟨before, after ++ [record], by simp, hbefore, fun other hother => ?_⟩
    rcases List.mem_append.1 hother with hmem | hself
    · exact hafter other hmem
    · rw [List.mem_singleton.1 hself]
      exact hless
  · rw [if_neg (by simpa using hless)]
    exact ⟨records, [], rfl, fun other hother => le_trans (h.le other hother) (not_lt.1 hless), by simp⟩

theorem Comparable.decides (h : Comparable records) : Decides records now Newest where
  first record _ := newest_single record
  next _ _ _ hgroup hrecord hwinner _ :=
    ⟨_, h.precedes_eq hrecord (hgroup hwinner.mem), hwinner.next⟩

end Dedup

end TableSync
