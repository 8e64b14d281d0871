/-
  TableSync/Proofs/Record/Clash.lean
  ==================================
  **A clash cannot hide** — a number and a text under one key are always found.

  A record meets the winner of its key only, and null is compared with nothing.
  But whatever a decision between numbers, texts and nulls keeps is of the kind
  of both sides, unless that is none (`precedes_agrees`).  So the winner of a
  key has the kind of every record of the key, and a pass that succeeds has seen
  one kind per key.  Neither side of this speaks of the order of the records.
-/
import TableSync.Proofs.Record.Stages

namespace TableSync

/-- Two outcomes one after another fail with the first or with the second. -/
theorem bind_eq_error {ε α β : Type} {x : Except ε α} {f : α → Except ε β} {e : ε} :
    x >>= f = .error e ↔ x = .error e ∨ ∃ a, x = .ok a ∧ f a = .error e := by
  cases x with
  | error e' => simp [bind, Except.bind]
  | ok a => simp [bind, Except.bind]

/-! ## 1. Kinds of ordering values -/

namespace Value

variable {a b : Value}

/-- A truth value, or a number other than the one that is none. -/
def IsNumber (value : Value) : Prop := ∃ n r, value.number? = some n ∧ n.extended? = some r

def IsText (value : Value) : Prop := ∃ s, value = text s

/-- Null, a number or a text. -/
def IsSimple (value : Value) : Prop := value = null ∨ value.IsNumber ∨ value.IsText

theorem IsNumber.ne_null (h : a.IsNumber) : a ≠ null := by
  rintro rfl
  obtain ⟨n, r, hn, -⟩ := h
  cases hn

theorem IsText.ne_null (h : a.IsText) : a ≠ null := by
  rintro rfl
  obtain ⟨s, hs⟩ := h
  cases hs

theorem IsNumber.not_text (h : a.IsNumber) : ¬ a.IsText := by
  rintro ⟨s, rfl⟩
  obtain ⟨n, r, hn, -⟩ := h
  cases hn

/-- A number and a text have no order, whichever comes first. -/
theorem IsNumber.less?_text (ha : a.IsNumber) (hb : b.IsText) : a.less? b = none ∧ b.less? a = none := by
  obtain ⟨n, r, hn, -⟩ := ha
  obtain ⟨s, rfl⟩ := hb
  cases a <;> simp_all [less?, number?]

/-- The other value is of the same kind, if this one has a kind. -/
structure Agrees (a b : Value) : Prop where
  number : a.IsNumber → b.IsNumber
  text : a.IsText → b.IsText

theorem Agrees.refl (a : Value) : Agrees a a := ⟨id, id⟩

theorem Agrees.trans {c : Value} (h : Agrees a b) (h' : Agrees b c) : Agrees a c :=
  ⟨fun ha => h'.number (h.number ha), fun ha => h'.text (h.text ha)⟩

theorem agrees_of_null (h : a = null) : Agrees a b :=
  ⟨fun ha => absurd h ha.ne_null, fun ha => absurd h ha.ne_null⟩

/-- Two simple values with an order agree both ways. -/
theorem IsSimple.agrees (ha : a.IsSimple) (hb : b.IsSimple) (hsome : a ≠ null) (hsome' : b ≠ null)
    (horder : a.less? b ≠ none) : Agrees a b ∧ Agrees b a := by
  rcases ha with ha | ha | ha
  · exact absurd ha hsome
  · rcases hb with hb | hb | hb
    · exact absurd hb hsome'
    · exact ⟨⟨fun _ => hb, fun htext => absurd htext ha.not_text⟩,
        ⟨fun _ => ha, fun htext => absurd htext hb.not_text⟩⟩
    · exact absurd (ha.less?_text hb).1 horder
  · rcases hb with hb | hb | hb
    · exact absurd hb hsome'
    · exact absurd (hb.less?_text ha).2 horder
    · exact ⟨⟨fun hnumber => absurd ha hnumber.not_text, fun _ => hb⟩,
        ⟨fun hnumber => absurd hb hnumber.not_text, fun _ => ha⟩⟩

end Value

namespace Dedup

variable {records winners next group : List PreparedRecord} {record winner candidate current : PreparedRecord}
  {now : Timestamp} {failure : Failure}

/-! ## 2. What a decision keeps -/

theorem precedes_of_none (hcandidate : candidate.ordering ≠ .null) (hcurrent : current.ordering ≠ .null)
    (h : candidate.ordering.less? current.ordering = none) :
    precedes candidate current now = .error (notComparable candidate current now) := by
  unfold precedes
  split
  · contradiction
  · contradiction
  · contradiction
  · rw [h]

/-- What is kept has the kind of both sides. -/
theorem precedes_agrees {older : Bool} (hcandidate : candidate.ordering.IsSimple) (hcurrent : current.ordering.IsSimple)
    (h : precedes candidate current now = .ok older) :
    candidate.ordering.Agrees (if older then current else candidate).ordering ∧
      current.ordering.Agrees (if older then current else candidate).ordering := by
  by_cases hnull' : current.ordering = .null
  · rw [precedes_null hnull'] at h
    cases h
    exact ⟨.refl _, Value.agrees_of_null hnull'⟩
  · by_cases hnull : candidate.ordering = .null
    · rw [null_precedes hnull hnull'] at h
      cases h
      exact ⟨Value.agrees_of_null hnull, .refl _⟩
    · have horder : candidate.ordering.less? current.ordering ≠ none := by
        intro hnone
        rw [precedes_of_none hnull hnull' hnone] at h
        cases h
      obtain ⟨hforth, hback⟩ := hcandidate.agrees hcurrent hnull hnull' horder
      cases older with
      | true => exact ⟨hforth, .refl _⟩
      | false => exact ⟨.refl _, hback⟩

/-- A winner is one of its group, and has the kind of all of it. -/
structure OfKind (group : List PreparedRecord) (winner : PreparedRecord) : Prop where
  mem : winner ∈ group
  agrees : ∀ other ∈ group, other.ordering.Agrees winner.ordering

theorem carries_ofKind (h : ∀ record ∈ records, record.ordering.IsSimple) : Carries records now OfKind where
  first record _ := ⟨List.mem_singleton_self record, fun other hother => List.mem_singleton.1 hother ▸ .refl _⟩
  next group winner record older hgroup hrecord hwinner _ holder := by
    obtain ⟨hnext, hbefore⟩ := precedes_agrees (h record hrecord) (h winner (hgroup hwinner.mem)) holder
    refine ⟨?_, fun other hother => ?_⟩
    · cases older with
      | true => exact List.mem_append_left _ hwinner.mem
      | false => exact List.mem_append_right _ (List.mem_singleton_self record)
    · rcases List.mem_append.1 hother with hold | hself
      · exact (hwinner.agrees other hold).trans hbefore
      · rw [List.mem_singleton.1 hself]
        exact hnext

/-! ## 3. Clashes -/

/-- Some key occurs both with a number and with a text. -/
def Clash (records : List PreparedRecord) : Prop :=
  ∃ one ∈ records, ∃ other ∈ records, one.key = other.key ∧ one.ordering.IsNumber ∧ other.ordering.IsText

theorem Clash.perm {other : List PreparedRecord} (hperm : other.Perm records) : Clash other ↔ Clash records := by
  simp only [Clash, hperm.mem_iff]

/-- A pass that succeeds has met no clash. -/
theorem not_clash_of_keep (h : ∀ record ∈ records, record.ordering.IsSimple) (hkeep : keep records now = .ok winners) :
    ¬ Clash records := by
  rintro ⟨one, hone, other, hother, hkey, hnumber, htext⟩
  have hkept := (carries_ofKind h).kept hkeep
  obtain ⟨winner, hwinner, hsame⟩ := hkept.mem_keys.2 ⟨one, hone, rfl⟩
  have hstands := hkept.stands winner hwinner
  have hnumber' := (hstands.agrees one (mem_ofKey.2 ⟨hone, hsame.symm⟩)).number hnumber
  have htext' := (hstands.agrees other (mem_ofKey.2 ⟨hother, hkey.symm.trans hsame.symm⟩)).text htext
  exact hnumber'.not_text htext'

/-- Without a clash the records of a key are of one kind. -/
theorem comparableByKey_of_not_clash (h : ∀ record ∈ records, record.ordering.IsSimple) (hnone : ¬ Clash records) :
    ComparableByKey records := by
  intro record hrecord
  by_cases htexts : ∃ other ∈ ofKey records record.key, other.ordering.IsText
  · obtain ⟨other, hother, htext⟩ := htexts
    obtain ⟨hother, hkey⟩ := mem_ofKey.1 hother
    refine .inr fun one hone => ?_
    obtain ⟨hone, hsame⟩ := mem_ofKey.1 hone
    rcases h one hone with hnull | hnumber | htext'
    · exact .inl hnull
    · exact absurd ⟨one, hone, other, hother, hsame.trans hkey.symm, hnumber, htext⟩ hnone
    · exact .inr htext'
  · refine .inl fun one hone => ?_
    rcases h one (mem_ofKey.1 hone).1 with hnull | hnumber | htext
    · exact .inl hnull
    · exact .inr hnumber
    · exact absurd ⟨one, hone, htext⟩ htexts

/-! ## 4. Which failure -/

theorem precedes_error (h : precedes candidate current now = .error failure) :
    failure = notComparable candidate current now := by
  unfold precedes at h
  split at h
  · cases h
  · cases h
  · cases h
  · split at h
    · cases h
    · exact (Except.error.inj h).symm

theorem insert_error (h : insert record now winners = .error failure) :
    ∃ winner ∈ winners, winner.key = record.key ∧ failure = notComparable record winner now := by
  induction winners with
  | nil => cases h
  | cons winner rest ih =>
    rw [insert] at h
    split at h
    next hkey =>
      rcases bind_eq_error.1 h with hfails | ⟨older, -, hdone⟩
      · exact ⟨winner, List.mem_cons_self, hkey, precedes_error hfails⟩
      · cases hdone
    next =>
      rcases bind_eq_error.1 h with hfails | ⟨others, -, hdone⟩
      · obtain ⟨other, hother, hfound⟩ := ih hfails
        exact ⟨other, List.mem_cons_of_mem _ hother, hfound⟩
      · cases hdone

theorem insert_subset (h : insert record now winners = .ok next) : next ⊆ record :: winners := by
  induction winners generalizing next with
  | nil =>
    cases h
    exact List.Subset.refl _
  | cons winner rest ih =>
    rw [insert] at h
    split at h
    · obtain ⟨older, -, hdone⟩ := bind_eq_ok.1 h
      cases hdone
      cases older with
      | true => exact List.subset_cons_self _ _
      | false => exact List.cons_subset_cons _ (List.subset_cons_self _ _)
    · obtain ⟨others, hothers, hdone⟩ := bind_eq_ok.1 h
      cases hdone
      have hsub := ih hothers
      simp only [List.subset_def, List.mem_cons] at hsub ⊢
      rintro other (rfl | hother)
      · exact .inr (.inl rfl)
      · exact (hsub hother).imp_right .inr

theorem keepFrom_error (h : keepFrom winners records now = .error failure) :
    ∃ candidate ∈ records, ∃ current ∈ winners ++ records, current.key = candidate.key ∧
      failure = notComparable candidate current now := by
  induction records generalizing winners with
  | nil => cases h
  | cons record rest ih =>
    rw [keepFrom] at h
    rcases bind_eq_error.1 h with hfails | ⟨next, hnext, hrest⟩
    · obtain ⟨winner, hwinner, hfound⟩ := insert_error hfails
      exact ⟨record, List.mem_cons_self, winner, List.mem_append_left _ hwinner, hfound⟩
    · obtain ⟨candidate, hcandidate, current, hcurrent, hfound⟩ := ih hrest
      refine ⟨candidate, List.mem_cons_of_mem _ hcandidate, current, ?_, hfound⟩
      rcases List.mem_append.1 hcurrent with hwinner | hlater
      · rcases List.mem_cons.1 (insert_subset hnext hwinner) with rfl | hbefore
        · simp
        · exact List.mem_append_left _ hbefore
      · exact List.mem_append_right _ (List.mem_cons_of_mem _ hlater)

/-! ## 5. Refusals -/

/-- Combining fails as two of the records, which have one key, cannot be compared. Nothing else happens. -/
structure Refuses {σ : Type} (records : List PreparedRecord) (w : World σ) (failure : Failure) : Prop where
  fails : (Dedup.run records).runIn w = (.error failure, w)
  kind : failure.isOf (.fault .recordPreparation) = true
  names : ∃ candidate ∈ records, ∃ current ∈ records, current.key = candidate.key ∧
    failure = notComparable candidate current w.now

variable {σ : Type} {w : World σ}

theorem refuses_of_keep (h : keep records w.now = .error failure) : Refuses records w failure := by
  obtain ⟨candidate, hcandidate, current, hcurrent, hkey, rfl⟩ := keepFrom_error h
  exact ⟨run_runIn_error h, rfl, candidate, hcandidate, current, hcurrent, hkey, rfl⟩

/-- With simple ordering values a batch is refused if and only if it has a clash, and combined if it has none. -/
theorem refuses_or_keeps (h : ∀ record ∈ records, record.ordering.IsSimple) (w : World σ) :
    (Clash records ∧ ∃ failure, Refuses records w failure) ∨
      ¬ Clash records ∧ ∃ winners log, (Dedup.run records).runIn w = (.ok winners, { w with log }) := by
  by_cases hclash : Clash records
  · left
    cases hkeep : keep records w.now with
    | ok winners => exact absurd hclash (not_clash_of_keep h hkeep)
    | error failure => exact ⟨hclash, failure, refuses_of_keep hkeep⟩
  · obtain ⟨winners, hkeep, -⟩ := keep_kept (comparableByKey_of_not_clash h hclash).decides
    exact .inr ⟨hclash, winners, run_runIn hkeep⟩

/-- **A batch is refused for a clash and for nothing else.** The ordering values are null, truth values, numbers other
than the one that is none, or texts. Combining fails, as records that cannot be prepared do, if and only if some key
occurs both with a number and with a text, and it returns if none does. So no order of the records makes a difference:
a batch is refused if and only if every order of it is. -/
theorem refused_iff_clash (h : ∀ record ∈ records, record.ordering.IsSimple) (w : World σ) :
    ((∃ failure, Refuses records w failure) ↔ Clash records) ∧
      (¬ Clash records → ∃ winners log, (Dedup.run records).runIn w = (.ok winners, { w with log })) ∧
      ∀ other, other.Perm records → ∀ v : World σ,
        (∃ failure, Refuses other v failure) ↔ ∃ failure, Refuses records w failure := by
  have hrefused : ∀ {other : List PreparedRecord}, (∀ record ∈ other, record.ordering.IsSimple) → ∀ v : World σ,
      (∃ failure, Refuses other v failure) ↔ Clash other := by
    intro other hother v
    rcases refuses_or_keeps hother v with ⟨hclash, hrefuses⟩ | ⟨hnone, winners, log, hrun⟩
    · exact iff_of_true hrefuses hclash
    · refine iff_of_false ?_ hnone
      rintro ⟨failure, hrefuses⟩
      rw [hrefuses.fails] at hrun
      cases hrun
  refine ⟨hrefused h w, fun hnone => ?_, fun other hperm v => ?_⟩
  · rcases refuses_or_keeps h w with ⟨hclash, -⟩ | ⟨-, hkeeps⟩
    · exact absurd hclash hnone
    · exact hkeeps
  · have hother : ∀ record ∈ other, record.ordering.IsSimple := fun record hrecord => h record (hperm.subset hrecord)
    rw [hrefused hother v, hrefused h w, Clash.perm hperm]

/-- A truth value and a text of one key, with nulls before and between them, and a text of another key. -/
def clashingBatch : List PreparedRecord :=
  [sampleOf "a" "x" .null 0, sampleOf "a" "x" (.bool true) 1, sampleOf "a" "y" (.text "t") 2, sampleOf "a" "x" .null 3,
    sampleOf "a" "x" (.text "t") 4]

theorem clashingBatch_simple : ∀ record ∈ clashingBatch, record.ordering.IsSimple := by
  have htrue : (Value.bool true).IsNumber := ⟨.whole 1, _, rfl, rfl⟩
  have htext : (Value.text "t").IsText := ⟨"t", rfl⟩
  intro record hrecord
  simp only [clashingBatch, List.mem_cons, List.not_mem_nil, or_false] at hrecord
  rcases hrecord with rfl | rfl | rfl | rfl | rfl
  · exact .inl rfl
  · exact .inr (.inl htrue)
  · exact .inr (.inr htext)
  · exact .inl rfl
  · exact .inr (.inr htext)

theorem clashingBatch_clash : Clash clashingBatch :=
  ⟨sampleOf "a" "x" (.bool true) 1, by simp [clashingBatch], sampleOf "a" "x" (.text "t") 4, by simp [clashingBatch],
    rfl, ⟨.whole 1, _, rfl, rfl⟩, "t", rfl⟩

/-- The clashing batch is refused in every order. -/
theorem clashingBatch_refused : (∀ record ∈ clashingBatch, record.ordering.IsSimple) ∧
    ∀ other, other.Perm clashingBatch → ∀ v : World Unit, ∃ failure, Refuses other v failure := by
  obtain ⟨hiff, -, horders⟩ := refused_iff_clash clashingBatch_simple { now := ⟨0⟩, state := () }
  exact ⟨clashingBatch_simple, fun other hperm v => (horders other hperm v).2 (hiff.2 clashingBatch_clash)⟩

end Dedup

end TableSync
