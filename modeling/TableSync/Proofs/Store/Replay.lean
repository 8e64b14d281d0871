/-
  TableSync/Proofs/Store/Replay.lean
  ==================================
  **Replaying the commits** — what readers see, from what was done.

  Readers see a record as the last commit that applied it left it.  Nothing of
  the store is needed to say so: the commits that were answered with yes, in
  their order, and the rows that were staged under each of them give a list of
  versions (`Deed.applied`).  Upserted one after another they are what readers
  see (`Deed.replayed`), which is the last version of each record.  What was
  staged under any other instant is not in that list.

  The store keeps less: what is staged is dropped once its instant is committed
  or rolled back.  But a commit needs its instant inflight, and of inflight
  instants everything that was ever staged under them is still there
  (`Store.Mirrors`).
-/
import TableSync.Proofs.Store.Order

namespace TableSync

open Store

/-! ## 1. The last version of each record -/

/-- The row is a version of the record of a table with a key. -/
def VisibleRow.isVersion (basePath recordKey : String) (row : VisibleRow) : Bool :=
  row.basePath == basePath && row.recordKey == recordKey

/-- The rows are the last versions: one of each record that has any, and none of the others. -/
def Latest (rows versions : List VisibleRow) : Prop :=
  ∀ basePath recordKey, rows.filter (VisibleRow.isVersion basePath recordKey) =
    (versions.filter (VisibleRow.isVersion basePath recordKey)).getLast?.toList

section Latest

variable {rows after versions : List VisibleRow} {new old : VisibleRow} {basePath recordKey : String}

theorem isVersion_iff : new.isVersion basePath recordKey = true ↔ new.basePath = basePath ∧ new.recordKey = recordKey := by
  simp [VisibleRow.isVersion]

theorem sameRecord_iff : sameRecord old new = true ↔ old.isVersion new.basePath new.recordKey = true := Iff.rfl

/-- An upsert leaves its row in the place of the first version of its record. -/
theorem filter_upsertRow_self (hnew : new.isVersion basePath recordKey = true) :
    (upsertRow rows new).filter (VisibleRow.isVersion basePath recordKey) =
      new :: (rows.filter (VisibleRow.isVersion basePath recordKey)).tail := by
  obtain ⟨hpath, hkey⟩ := isVersion_iff.mp hnew
  induction rows with
  | nil => rw [upsertRow, List.filter_cons_of_pos hnew]; rfl
  | cons old rest ih =>
    rw [upsertRow]
    split
    next hsame =>
      have hold : old.isVersion basePath recordKey = true := by
        rw [← hpath, ← hkey]
        exact hsame
      rw [List.filter_cons_of_pos hnew, List.filter_cons_of_pos hold, List.tail_cons]
    next hother =>
      have hold : ¬old.isVersion basePath recordKey = true := by
        rw [← hpath, ← hkey]
        exact hother
      rw [List.filter_cons_of_neg hold, List.filter_cons_of_neg hold, ih]

theorem filter_upsertRow_other (hnew : ¬new.isVersion basePath recordKey = true) :
    (upsertRow rows new).filter (VisibleRow.isVersion basePath recordKey) =
      rows.filter (VisibleRow.isVersion basePath recordKey) := by
  induction rows with
  | nil => rw [upsertRow, List.filter_cons_of_neg hnew]
  | cons old rest ih =>
    rw [upsertRow]
    split
    next hsame =>
      have hold : ¬old.isVersion basePath recordKey = true := by
        intro hold
        obtain ⟨hpath, hkey⟩ := isVersion_iff.mp hold
        obtain ⟨hsamePath, hsameKey⟩ := isVersion_iff.mp (sameRecord_iff.mp hsame)
        exact hnew (isVersion_iff.mpr ⟨hsamePath.symm.trans hpath, hsameKey.symm.trans hkey⟩)
      rw [List.filter_cons_of_neg hnew, List.filter_cons_of_neg hold]
    next =>
      rw [List.filter_cons, List.filter_cons, ih]

theorem Latest.upsert (h : Latest rows versions) (new : VisibleRow) :
    Latest (upsertRow rows new) (versions ++ [new]) := by
  intro basePath recordKey
  rw [List.filter_append]
  by_cases hnew : new.isVersion basePath recordKey = true
  · have hone : (rows.filter (VisibleRow.isVersion basePath recordKey)).tail = [] := by
      rw [h basePath recordKey]
      cases (versions.filter (VisibleRow.isVersion basePath recordKey)).getLast? <;> rfl
    rw [filter_upsertRow_self hnew, hone, List.filter_cons_of_pos hnew, List.filter_nil, List.getLast?_concat]
    rfl
  · rw [filter_upsertRow_other hnew, List.filter_cons_of_neg hnew, List.filter_nil, List.append_nil]
    exact h basePath recordKey

theorem Latest.foldl (h : Latest rows versions) (more : List VisibleRow) :
    Latest (more.foldl upsertRow rows) (versions ++ more) := by
  induction more generalizing rows versions with
  | nil =>
    rw [List.append_nil]
    exact h
  | cons new rest ih =>
    rw [List.append_cons]
    exact ih (h.upsert new)

/-- Upserted one after another, versions leave the last one of each record. -/
theorem latest_foldl (versions : List VisibleRow) : Latest (versions.foldl upsertRow []) versions := by
  have hnone : Latest [] [] := fun _ _ => rfl
  exact hnone.foldl versions

/-- A row that can be inserted could as well be upserted. -/
theorem upsertRow_of_insertRow (h : insertRow rows new = some after) : after = upsertRow rows new := by
  unfold insertRow at h
  split at h
  · cases h
  next hnone =>
    cases h
    induction rows with
    | nil => rfl
    | cons old rest ih =>
      obtain ⟨hold, hrest⟩ : ¬sameRecord new old = true ∧ ¬rest.any (sameRecord new) = true := by
        simpa only [List.any_cons, Bool.or_eq_true, not_or] using hnone
      have hother : ¬sameRecord old new = true := by
        intro hsame
        obtain ⟨hpath, hkey⟩ := isVersion_iff.mp (sameRecord_iff.mp hsame)
        exact hold (sameRecord_iff.mpr (isVersion_iff.mpr ⟨hpath.symm, hkey.symm⟩))
      rw [upsertRow, if_neg hother, ← ih hrest, List.cons_append]

theorem foldl_upsertRow_of_insertRow {more : List VisibleRow} (h : more.foldlM insertRow rows = some after) :
    after = more.foldl upsertRow rows := by
  induction more generalizing rows with
  | nil => exact (Option.some.inj h).symm
  | cons new rest ih =>
    rw [List.foldlM_cons] at h
    obtain ⟨next, hnext, hrest⟩ := Option.bind_eq_some_iff.mp h
    rw [List.foldl_cons, ← upsertRow_of_insertRow hnext]
    exact ih hrest

/-- Staged rows as the versions that they become, in the order in which they are applied. -/
def versionsOf (staged : List StagedRow) (now : Timestamp) : List VisibleRow :=
  ((staged.filter fun row => !(row.operation == .upsert)) ++ staged.filter fun row => row.operation == .upsert).map
    (visibleRow now)

theorem foldl_upsertRow_of_applyStaged {staged : List StagedRow} {now : Timestamp}
    (h : Store.applyStaged rows staged now = some after) : after = (versionsOf staged now).foldl upsertRow rows := by
  rw [applyStaged_eq] at h
  obtain ⟨inserted, hinserted, rfl⟩ := Option.map_eq_some_iff.mp h
  rw [foldl_upsertRow_of_insertRow hinserted, versionsOf, List.map_append, List.foldl_append]

end Latest

/-! ## 2. What was applied -/

/-- The versions that a commit made: of what was staged under its instant, first what was inserted and then what was
upserted, in the order of staging. -/
def CommitEntry.versions (entry : CommitEntry) (staged : List StagedRow) : List VisibleRow :=
  versionsOf (staged.filter (StagedRow.isUnder entry.basePath entry.time)) entry.now

/-- All versions that commits made, in the order of the commits. -/
def Deed.applied (deeds : List Deed) : List VisibleRow :=
  (commits deeds).flatMap fun entry => entry.versions (stagings deeds)

/-- What they come to, when a later version takes the place of an earlier one of its record. -/
def Deed.replayed (deeds : List Deed) : List VisibleRow := (applied deeds).foldl upsertRow []

namespace Deed

variable {deeds : List Deed} {deed : Deed}

theorem stagings_quiet (hrows : deed.rows = []) : stagings (deeds ++ [deed]) = stagings deeds := by
  rw [stagings_snoc, hrows, List.append_nil]

theorem replayed_quiet (hrows : deed.rows = []) (hcommitted : deed.committed? = none) :
    replayed (deeds ++ [deed]) = replayed deeds := by
  rw [replayed, replayed, applied, applied, stagings_quiet hrows, commits_snoc, hcommitted, Option.toList_none,
    List.append_nil]

theorem replayed_committed (entry : CommitEntry) :
    replayed (deeds ++ [.committed entry]) = (entry.versions (stagings deeds)).foldl upsertRow (replayed deeds) := by
  have hcommits : commits (deeds ++ [.committed entry]) = commits deeds ++ [entry] := commits_snoc ..
  rw [replayed, replayed, applied, applied, stagings_quiet rfl, hcommits, List.flatMap_append,
    List.flatMap_singleton, List.foldl_append]

theorem exists_commit_of_applied {row : VisibleRow} (h : row ∈ applied deeds) :
    ∃ entry ∈ commits deeds, entry.isAt row.basePath row.commitTime = true := by
  obtain ⟨entry, hentry, hrow⟩ := List.mem_flatMap.mp h
  obtain ⟨staged, hstaged, rfl⟩ := List.mem_map.mp hrow
  have hunder : staged.isUnder entry.basePath entry.time = true := by
    rcases List.mem_append.mp hstaged with hinsert | hupsert
    · exact (List.mem_filter.mp (List.mem_of_mem_filter hinsert)).2
    · exact (List.mem_filter.mp (List.mem_of_mem_filter hupsert)).2
  obtain ⟨hpath, htime⟩ := isUnder_iff.mp hunder
  exact ⟨entry, hentry, CommitEntry.isAt_iff.mpr ⟨hpath.symm, htime.symm⟩⟩

theorem applied_of_replayed {row : VisibleRow} (h : row ∈ replayed deeds) : row ∈ applied deeds := by
  have hself : row.isVersion row.basePath row.recordKey = true := isVersion_iff.mpr ⟨rfl, rfl⟩
  have hlast : row ∈ ((applied deeds).filter
      (VisibleRow.isVersion row.basePath row.recordKey)).getLast?.toList := by
    rw [← latest_foldl]
    exact List.mem_filter.mpr ⟨h, hself⟩
  exact List.mem_of_mem_filter (List.mem_of_getLast? (Option.mem_toList.mp hlast))

end Deed

/-! ## 3. What the store keeps of it -/

namespace Store

variable {store after : Store} {deeds : List Deed} {deed : Deed} {instant : InstantRow}

/-- Everything that was staged under an inflight instant is still there, and readers see the replay. -/
structure Mirrors (store : Store) (deeds : List Deed) : Prop where
  staged : ∀ instant ∈ store.instants, instant.state = .inflight →
    store.stagedUnder instant.basePath instant.time =
      (Deed.stagings deeds).filter (StagedRow.isUnder instant.basePath instant.time)
  known : ∀ row ∈ Deed.stagings deeds, ∃ instant ∈ store.instants,
    instant.isAt row.basePath row.instantTime = true
  visible : store.records = Deed.replayed deeds

theorem mirrors_empty : ({} : Store).Mirrors [] where
  staged _ hrow := (List.not_mem_nil hrow).elim
  known _ hrow := (List.not_mem_nil hrow).elim
  visible := rfl

theorem Mirrors.quiet (h : store.Mirrors deeds) (hrows : deed.rows = []) (hcommitted : deed.committed? = none)
    (tables : List TableShell) : ({ store with tables } : Store).Mirrors (deeds ++ [deed]) := by
  obtain ⟨hstaged, hknown, hvisible⟩ := h
  rw [← Deed.stagings_quiet hrows] at hstaged hknown
  rw [← Deed.replayed_quiet hrows hcommitted] at hvisible
  exact ⟨hstaged, hknown, hvisible⟩

theorem Mirrors.withInstant (h : store.Mirrors deeds) (hlawful : store.Lawful)
    (hnew : store.IsNew instant.basePath instant.time) :
    (store.withInstant instant).Mirrors (deeds ++ [.created instant.basePath instant.time]) := by
  have hstagings : Deed.stagings (deeds ++ [.created instant.basePath instant.time]) = Deed.stagings deeds :=
    Deed.stagings_quiet rfl
  have hreplayed : Deed.replayed (deeds ++ [.created instant.basePath instant.time]) = Deed.replayed deeds :=
    Deed.replayed_quiet rfl rfl
  -- What is or was staged is under an instant that exists, and the new one comes after all of them.
  have hnowhere : ∀ rows : List StagedRow, (∀ row ∈ rows, ∃ other ∈ store.instants,
      other.isAt row.basePath row.instantTime = true) →
      rows.filter (StagedRow.isUnder instant.basePath instant.time) = [] := by
    intro rows hrows
    refine List.filter_eq_nil_iff.mpr fun row hrow hunder => ?_
    obtain ⟨other, hother, hat⟩ := hrows row hrow
    obtain ⟨hpath, htime⟩ := isUnder_iff.mp hunder
    rw [hpath, htime, hnew.not_isAt hother] at hat
    cases hat
  refine ⟨fun row hrow hstate => ?_, fun row hrow => ?_, h.visible.trans hreplayed.symm⟩
  · rw [hstagings]
    rcases List.mem_append.mp hrow with hold | hlast
    · exact h.staged row hold hstate
    · rw [List.mem_singleton.mp hlast, hnowhere _ h.known]
      refine hnowhere _ fun staged hstaged => ?_
      obtain ⟨other, hother, hat, -⟩ := hlawful.inflight staged hstaged
      exact ⟨other, hother, hat⟩
  · rw [hstagings] at hrow
    obtain ⟨other, hother, hat⟩ := h.known row hrow
    exact ⟨other, List.mem_append_left _ hother, hat⟩

theorem Mirrors.withStaged (h : store.Mirrors deeds) (hchronicles : store.Chronicles deeds)
    (hmem : instant ∈ store.instants) (hstate : instant.state = .inflight) {rows : List StagedRow}
    (hrows : ∀ row ∈ rows, row.isUnder instant.basePath instant.time = true) :
    ({ store with staged := store.staged ++ rows } : Store).Mirrors (deeds ++ [.staged rows]) := by
  have hstagings : Deed.stagings (deeds ++ [.staged rows]) = Deed.stagings deeds ++ rows := Deed.stagings_snoc ..
  have hcommits : Deed.commits (deeds ++ [.staged rows]) = Deed.commits deeds := by
    rw [Deed.commits_snoc]
    exact List.append_nil _
  have happlied : Deed.applied (deeds ++ [.staged rows]) = Deed.applied deeds := by
    rw [Deed.applied, Deed.applied, hcommits, hstagings]
    refine List.flatMap_congr fun entry hentry => ?_
    -- A commit that was answered with yes is one of a completed instant, and the rows are under an inflight one.
    have hnone : rows.filter (StagedRow.isUnder entry.basePath entry.time) = [] := by
      refine List.filter_eq_nil_iff.mpr fun row hrow hunder => ?_
      obtain ⟨hpath, htime⟩ := isUnder_iff.mp (hrows row hrow)
      obtain ⟨hentryPath, hentryTime⟩ := isUnder_iff.mp hunder
      have hat : entry.isAt instant.basePath instant.time = true :=
        CommitEntry.isAt_iff.mpr ⟨hentryPath.symm.trans hpath, hentryTime.symm.trans htime⟩
      have hcompleted := hchronicles.completed_of_commit hmem hentry hat
      rw [hstate] at hcompleted
      cases hcompleted
    rw [CommitEntry.versions, CommitEntry.versions, List.filter_append, hnone, List.append_nil]
  refine ⟨fun other hother hinflight => ?_, fun row hrow => ?_, h.visible.trans ?_⟩
  · show (store.staged ++ rows).filter _ = _
    rw [hstagings, List.filter_append, List.filter_append, ← h.staged other hother hinflight]
    rfl
  · rw [hstagings] at hrow
    rcases List.mem_append.mp hrow with hold | hnew
    · exact h.known row hold
    · obtain ⟨hpath, htime⟩ := isUnder_iff.mp (hrows row hnew)
      exact ⟨instant, hmem, isAt_iff.mpr ⟨hpath.symm, htime.symm⟩⟩
  · rw [Deed.replayed, Deed.replayed, happlied]

/-- An instant that is inflight no more takes with it what is staged under it, and no other instant loses
anything. -/
theorem Mirrors.settled {change : InstantRow → InstantRow} (h : store.Mirrors deeds) (instant : InstantRow)
    (hchange : InPlace change) (hdone : ∀ row, (change row).state ≠ .inflight) (hrows : deed.rows = [])
    (hstaged : after.staged = (store.dropStaged instant.basePath instant.time).staged)
    (hinstants : after.instants = (store.updateInstant instant.basePath instant.time change).instants)
    (hvisible : after.records = Deed.replayed (deeds ++ [deed])) : after.Mirrors (deeds ++ [deed]) := by
  refine ⟨fun row hrow hinflight => ?_, fun row hrow => ?_, hvisible⟩
  · rw [hinstants] at hrow
    obtain ⟨old, hold, rfl⟩ := List.mem_map.mp hrow
    split at hinflight
    · exact absurd hinflight (hdone old)
    next hat =>
      rw [if_neg hat, Deed.stagings_quiet hrows, ← h.staged old hold hinflight, stagedUnder, hstaged]
      show (store.staged.filter _).filter _ = _
      rw [List.filter_filter, stagedUnder]
      refine List.filter_congr fun staged _ => ?_
      by_cases hunder : staged.isUnder old.basePath old.time = true
      · have helsewhere : ¬staged.isUnder instant.basePath instant.time = true := by
          intro hother
          obtain ⟨hpath, htime⟩ := isUnder_iff.mp hunder
          obtain ⟨hpathOther, htimeOther⟩ := isUnder_iff.mp hother
          exact hat (isAt_iff.mpr ⟨hpath.symm.trans hpathOther, htime.symm.trans htimeOther⟩)
        simp [hunder, helsewhere]
      · simp [hunder]
  · rw [Deed.stagings_quiet hrows] at hrow
    rw [hinstants]
    exact exists_isAt_updateInstant hchange (h.known row hrow)

theorem Change.mirrors (h : store.Change deed after) (hlawful : store.Lawful) (hchronicles : store.Chronicles deeds)
    (hmirrors : store.Mirrors deeds) : after.Mirrors (deeds ++ [deed]) := by
  cases h with
  | unchanged => exact hmirrors.quiet rfl rfl _
  | registered => exact hmirrors.quiet rfl rfl _
  | created _ hnew => exact hmirrors.withInstant hlawful hnew
  | staged hmem hstate hrows => exact hmirrors.withStaged hchronicles hmem hstate hrows
  | @committed instant config outcome extra now records hmem hstate _ happlied =>
    have hdone : ∀ row, (completed outcome extra now row).state ≠ .inflight := by
      rintro row ⟨⟩
    refine hmirrors.settled instant (inPlace_completed outcome extra now) hdone rfl
      (recordSchema_staged _) (recordSchema_instants _) ?_
    rw [hmirrors.staged instant hmem hstate] at happlied
    rw [recordSchema_records, Deed.replayed_committed, ← hmirrors.visible]
    exact foldl_upsertRow_of_applyStaged happlied
  | @rolledBack instant now hmem hstate =>
    have hdone : ∀ row : InstantRow, InstantState.rolledBack ≠ .inflight := by
      rintro row ⟨⟩
    refine hmirrors.settled instant (inPlace_rolledBack now) hdone rfl rfl rfl ?_
    rw [Deed.replayed_quiet rfl rfl]
    exact hmirrors.visible

end Store

/-! ## 4. Histories -/

namespace Warehouse

variable {warehouse : Warehouse} {events : List Event}

theorem History.mirrors (h : History events warehouse) : warehouse.store.Mirrors (events.map Event.deed) := by
  have hboth := h.induct (P := fun deeds store => store.Chronicles deeds ∧ store.Mirrors deeds) Store.lawful_empty
    ⟨Store.chronicles_empty, Store.mirrors_empty⟩ ?_
  · exact hboth.2
  · rintro _ _ _ _ hnow ⟨hchronicles, hmirrors⟩ hchange
    exact ⟨hchange.chronicles hnow hchronicles, hchange.mirrors hnow hchronicles hmirrors⟩

/-- Readers see the committed instants, after any history. What they see is the replay of the commits that were
answered with yes, each with all that was staged under its instant: of every record the last version. What is staged
is what successful writes accepted of their records, and what readers see of any record is of a completed instant. -/
theorem History.records_replayed (h : History events warehouse) :
    warehouse.store.records = Deed.replayed (events.map Event.deed) ∧
    (∀ basePath recordKey, warehouse.store.records.filter (VisibleRow.isVersion basePath recordKey) =
      ((Deed.applied (events.map Event.deed)).filter
        (VisibleRow.isVersion basePath recordKey)).getLast?.toList) ∧
    (∀ event ∈ events, (∃ entry, event.deed = .committed entry) ↔
      ∃ client time outcome extra, event.operation = .commit client time outcome extra ∧
        event.reply = .ok (.truth true)) ∧
    (∀ event ∈ events, ∀ client operation records time counts,
      event.operation = .write client operation records time → event.reply = .ok (.outcome counts) →
      ∃ earlier later before config named batch, events = earlier ++ event :: later ∧ History earlier before ∧
        event.config = some config ∧ time = some named ∧ Batched config operation records batch ∧
        event.deed = .staged (before.store.stagedRows config operation batch named)) ∧
    (∀ row ∈ warehouse.store.records, ∃ instant ∈ warehouse.store.instants,
      instant.isAt row.basePath row.commitTime = true ∧ instant.state = .completed) := by
  have hvisible := (History.mirrors h).visible
  have hchronicles := History.chronicles h
  refine ⟨hvisible, ?_, fun event hevent => ⟨?_, ?_⟩, ?_, fun row hrow => ?_⟩
  · rw [hvisible]
    exact latest_foldl _
  · rintro ⟨entry, hdeed⟩
    obtain ⟨client, config, hoperation, hreply, -⟩ := Event.yes_of_committed hdeed
    exact ⟨client, _, _, _, hoperation, hreply⟩
  · rintro ⟨client, time, outcome, extra, hoperation, hreply⟩
    obtain ⟨config, named, -, -, hdeed⟩ := h.committed_of_yes hevent hoperation hreply
    exact ⟨_, hdeed⟩
  · intro event hevent client operation records time counts hoperation hreply
    exact h.staged_of_outcome hevent hoperation hreply
  · rw [hvisible] at hrow
    obtain ⟨entry, hentry, hat⟩ := Deed.exists_commit_of_applied (Deed.applied_of_replayed hrow)
    obtain ⟨instant, hmem, hthere⟩ := hchronicles.known entry hentry
    obtain ⟨hpath, htime⟩ := CommitEntry.isAt_iff.mp hat
    obtain ⟨hinstantPath, hinstantTime⟩ := Store.isAt_iff.mp hthere
    refine ⟨instant, hmem, ?_, hchronicles.completed_of_commit hmem hentry ?_⟩
    · exact Store.isAt_iff.mpr ⟨hinstantPath.trans hpath, hinstantTime.trans htime⟩
    · exact CommitEntry.isAt_iff.mpr ⟨hinstantPath.symm, hinstantTime.symm⟩

/-- In the sample the older instant was committed last, so readers see its version of a record; what is staged under
the inflight instant they do not see. -/
theorem sample_records_replayed : ∃ events warehouse, History events warehouse ∧
    ((Deed.applied (events.map Event.deed)).filter (VisibleRow.isVersion "/t/events" "a")).getLast?.toList.map
      (·.commitTime) = ["20250101000010000"] ∧
    ((Deed.applied (events.map Event.deed)).filter (VisibleRow.isVersion "/t/events" "c")).getLast?.toList.map
      (·.commitTime) = [] := by
  obtain ⟨events, warehouse, hhistory, -, -, hrecords, -⟩ := sampleHistory
  obtain ⟨-, hseen, -⟩ := History.records_replayed hhistory
  have htimes : ∀ key, ((Deed.applied (events.map Event.deed)).filter
      (VisibleRow.isVersion "/t/events" key)).getLast?.toList.map (·.commitTime) =
      ((warehouse.store.records.map fun row => (row.basePath, row.recordKey, row.commitTime)).filter fun row =>
        row.1 == "/t/events" && row.2.1 == key).map (·.2.2) := by
    intro key
    rw [← hseen "/t/events" key, List.filter_map, List.map_map]
    rfl
  refine ⟨events, warehouse, hhistory, ?_, ?_⟩
  · rw [htimes, hrecords]
    decide
  · rw [htimes, hrecords]
    decide

end Warehouse

end TableSync
