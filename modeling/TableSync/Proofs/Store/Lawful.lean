/-
  TableSync/Proofs/Store/Lawful.lean
  ==================================
  **Lawful stores** — what every operation of a store keeps.

  The instants of a table are created in strictly increasing order of their
  times, so a time names at most one of them.  Whatever refers to a table finds
  it registered, and whatever is staged is staged under an inflight instant.
  These laws hold of the empty store, and each operation keeps them.
-/
import TableSync.Store.Client
import Mathlib.Data.List.Pairwise
import Mathlib.Data.String.Basic

namespace TableSync

/-! ## 1. The laws -/

/-- What every operation of a store keeps. -/
structure Store.Lawful (store : Store) : Prop where
  increasing : ∀ basePath, (store.instantsOf basePath).Pairwise fun a b => a.time < b.time
  registered : ∀ row ∈ store.instants, store.hasTable row.basePath = true
  visible : ∀ row ∈ store.records, store.hasTable row.basePath = true
  inflight : ∀ row ∈ store.staged, ∃ instant ∈ store.instants,
    instant.isAt row.basePath row.instantTime = true ∧ instant.state = .inflight

namespace Store

variable {store after : Store} {basePath time : String} {row instant : InstantRow}

theorem lawful_empty : Lawful {} where
  increasing _ := List.Pairwise.nil
  registered := nofun
  visible := nofun
  inflight := nofun

theorem mem_instantsOf : row ∈ store.instantsOf basePath ↔ row ∈ store.instants ∧ row.basePath = basePath := by
  simp [instantsOf]

theorem isAt_iff : row.isAt basePath time = true ↔ row.basePath = basePath ∧ row.time = time := by
  simp [InstantRow.isAt]

theorem isUnder_iff {staged : StagedRow} :
    staged.isUnder basePath time = true ↔ staged.basePath = basePath ∧ staged.instantTime = time := by
  simp [StagedRow.isUnder]

theorem Lawful.unique (h : store.Lawful) {a b : InstantRow} (ha : a ∈ store.instants) (hb : b ∈ store.instants)
    (hpath : a.basePath = b.basePath) (htime : a.time = b.time) : a = b := by
  by_contra hne
  have hmem : ∀ c ∈ store.instants, c.basePath = b.basePath → c ∈ store.instantsOf b.basePath :=
    fun c hc hcb => mem_instantsOf.mpr ⟨hc, hcb⟩
  have hpair : (store.instantsOf b.basePath).Pairwise fun c d => c.time ≠ d.time :=
    (h.increasing b.basePath).imp fun hlt => ne_of_lt hlt
  have hsymm : Std.Symm fun c d : InstantRow => c.time ≠ d.time := ⟨fun _ _ hcd => Ne.symm hcd⟩
  exact hpair.forall (hmem a ha hpath) (hmem b hb rfl) hne htime

theorem Lawful.eq_of_isAt (h : store.Lawful) (hinstant : instant ∈ store.instants) (hrow : row ∈ store.instants)
    (hat : row.isAt instant.basePath instant.time = true) : row = instant := by
  obtain ⟨hpath, htime⟩ := isAt_iff.mp hat
  exact h.unique hrow hinstant hpath htime

/-! ## 2. New instants -/

theorem greatest?_eq_none {times : List String} : greatest? times = none ↔ times = [] := by
  cases times with
  | nil => simp [greatest?]
  | cons time rest =>
    simp only [greatest?, reduceCtorEq, iff_false]
    split <;> simp

theorem le_greatest? {times : List String} {greatest : String} (h : greatest? times = some greatest) :
    ∀ time ∈ times, time ≤ greatest := by
  induction times generalizing greatest with
  | nil => nofun
  | cons first rest ih =>
    rw [greatest?] at h
    split at h
    next hnone =>
      cases h
      rw [greatest?_eq_none.mp hnone]
      simp
    next other hother =>
      have hrest := ih hother
      intro time htime
      rcases List.mem_cons.mp htime with rfl | hmem
      · split at h
        next hlt => cases h; exact le_of_lt hlt
        next => cases h; exact le_refl _
      · have hle := hrest time hmem
        split at h
        next => cases h; exact hle
        next hlt => cases h; exact le_trans hle (not_lt.mp hlt)

/-- A time that comes after every instant of a table. -/
def IsNew (store : Store) (basePath time : String) : Prop := ∀ row ∈ store.instantsOf basePath, row.time < time

theorem IsNew.not_isAt (h : store.IsNew basePath time) (hmem : row ∈ store.instants) :
    row.isAt basePath time = false := by
  by_contra hat
  obtain ⟨hpath, htime⟩ := isAt_iff.mp ((Bool.not_eq_false _).mp hat)
  exact absurd htime (ne_of_lt (h row (mem_instantsOf.mpr ⟨hmem, hpath⟩)))

/-- The store with one more instant. -/
def withInstant (store : Store) (row : InstantRow) : Store := { store with instants := store.instants ++ [row] }

/-- Everything that adding an instant can do when it succeeds. -/
theorem newInstant_eq_ok (h : store.Lawful) {action : InstantAction} {state : InstantState} {now : Timestamp}
    (hnew : store.newInstant basePath action state now = .ok (time, after)) :
    store.IsNew basePath time ∧ store.hasTable basePath = true ∧
      after = store.withInstant { basePath, time, action, state } := by
  unfold newInstant at hnew
  dsimp only at hnew
  split at hnew
  next latest hlatest =>
    split at hnew
    next => cases hnew
    next hafter =>
      obtain ⟨rfl, rfl⟩ := Prod.mk.inj (Except.ok.inj hnew)
      have hle := le_greatest? hlatest
      refine ⟨fun row hrow => ?_, ?_, rfl⟩
      · exact lt_of_le_of_lt (hle _ (List.mem_map_of_mem hrow)) (not_le.mp hafter)
      · have hsome : store.instantsOf basePath ≠ [] := by
          intro hnil
          rw [latestTime?, hnil] at hlatest
          cases hlatest
        obtain ⟨row, hrow⟩ := List.exists_mem_of_ne_nil _ hsome
        obtain ⟨hmem, hpath⟩ := mem_instantsOf.mp hrow
        exact hpath ▸ h.registered row hmem
  next hnone =>
    split at hnew
    next htable =>
      obtain ⟨rfl, rfl⟩ := Prod.mk.inj (Except.ok.inj hnew)
      refine ⟨fun row hrow => ?_, htable, rfl⟩
      have hnil : store.instantsOf basePath = [] := List.map_eq_nil_iff.mp (greatest?_eq_none.mp hnone)
      rw [hnil] at hrow
      cases hrow
    next => cases hnew

theorem instantsOf_withInstant : (store.withInstant row).instantsOf basePath =
    store.instantsOf basePath ++ if row.basePath = basePath then [row] else [] := by
  simp [withInstant, instantsOf, List.filter_append, List.filter_cons]

theorem Lawful.withInstant (h : store.Lawful) (hnew : store.IsNew row.basePath row.time)
    (htable : store.hasTable row.basePath = true) : (store.withInstant row).Lawful where
  increasing basePath := by
    rw [instantsOf_withInstant]
    split
    next hpath =>
      refine List.pairwise_append.mpr ⟨h.increasing basePath, List.pairwise_singleton _ _, ?_⟩
      intro a ha b hb
      rw [List.mem_singleton.mp hb]
      exact hnew a (hpath ▸ ha)
    next => simpa using h.increasing basePath
  registered other hother := by
    rcases List.mem_append.mp hother with hold | hlast
    · exact h.registered other hold
    · rw [List.mem_singleton.mp hlast]
      exact htable
  visible := h.visible
  inflight staged hstaged := by
    obtain ⟨instant, hmem, hinstant⟩ := h.inflight staged hstaged
    exact ⟨instant, List.mem_append_left _ hmem, hinstant⟩

/-! ## 3. Changes -/

theorem instant?_eq_some {time : Option String} (h : store.instant? basePath time = some row) :
    row ∈ store.instants ∧ row.basePath = basePath ∧ time = some row.time := by
  obtain ⟨t, rfl, hfind⟩ := Option.bind_eq_some_iff.mp h
  obtain ⟨hpath, htime⟩ := isAt_iff.mp (List.find?_some hfind)
  exact ⟨List.mem_of_find?_eq_some hfind, hpath, htime ▸ rfl⟩

theorem Lawful.instant?_eq (h : store.Lawful) (hmem : instant ∈ store.instants) :
    store.instant? instant.basePath (some instant.time) = some instant := by
  have hself : instant.isAt instant.basePath instant.time = true := isAt_iff.mpr ⟨rfl, rfl⟩
  cases hfound : store.instant? instant.basePath (some instant.time) with
  | none => exact absurd hself (List.find?_eq_none.mp hfound instant hmem)
  | some other =>
    obtain ⟨hother, hpath, htime⟩ := instant?_eq_some hfound
    rw [h.unique hother hmem hpath (Option.some.inj htime).symm]

/-- A change that leaves an instant where it is. -/
def InPlace (change : InstantRow → InstantRow) : Prop :=
  ∀ row, (change row).basePath = row.basePath ∧ (change row).time = row.time

theorem instantsOf_updateInstant {change : InstantRow → InstantRow} (hchange : InPlace change) (path : String) :
    (store.updateInstant basePath time change).instantsOf path =
      (store.instantsOf path).map fun row => if row.isAt basePath time then change row else row := by
  rw [instantsOf, updateInstant, List.filter_map, instantsOf]
  congr 1
  apply List.filter_congr
  intro row _
  simp only [Function.comp_apply]
  split
  · rw [(hchange row).1]
  · rfl

theorem exists_isAt_updateInstant {change : InstantRow → InstantRow} (hchange : InPlace change) {path moment : String}
    (h : ∃ row ∈ store.instants, row.isAt path moment = true) :
    ∃ row ∈ (store.updateInstant basePath time change).instants, row.isAt path moment = true := by
  obtain ⟨row, hrow, hat⟩ := h
  refine ⟨_, List.mem_map_of_mem hrow, ?_⟩
  split
  · rw [InstantRow.isAt, (hchange row).1, (hchange row).2]
    exact hat
  · exact hat

/-- An instant under which nothing is staged may change its state. -/
theorem Lawful.updateInstant (h : store.Lawful) {change : InstantRow → InstantRow} (hchange : InPlace change)
    (hstaged : ∀ staged ∈ store.staged, staged.isUnder basePath time = false) :
    (store.updateInstant basePath time change).Lawful where
  increasing path := by
    rw [instantsOf_updateInstant hchange]
    refine (h.increasing path).map _ fun a b hab => ?_
    have hsame : ∀ row : InstantRow, (if row.isAt basePath time then change row else row).time = row.time := by
      intro row
      split
      · exact (hchange row).2
      · rfl
    rw [hsame, hsame]
    exact hab
  registered row hrow := by
    obtain ⟨old, hold, rfl⟩ := List.mem_map.mp hrow
    show store.hasTable _ = true
    split
    · rw [(hchange old).1]
      exact h.registered old hold
    · exact h.registered old hold
  visible := h.visible
  inflight staged hmem := by
    obtain ⟨instant, hinstant, hat, hstate⟩ := h.inflight staged hmem
    have helsewhere : instant.isAt basePath time = false := by
      obtain ⟨hpath, htime⟩ := isAt_iff.mp hat
      have hunder := hstaged staged hmem
      simp only [StagedRow.isUnder] at hunder
      simpa only [InstantRow.isAt, hpath, htime] using hunder
    exact ⟨instant, List.mem_map.mpr ⟨instant, hinstant, by simp [helsewhere]⟩, hat, hstate⟩

theorem Lawful.dropStaged (h : store.Lawful) : (store.dropStaged basePath time).Lawful where
  increasing := h.increasing
  registered := h.registered
  visible := h.visible
  inflight staged hmem := h.inflight staged (List.mem_of_mem_filter hmem)

theorem not_isUnder_of_mem_dropStaged {staged : StagedRow} (h : staged ∈ (store.dropStaged basePath time).staged) :
    staged.isUnder basePath time = false := by
  simpa using (List.mem_filter.mp h).2

/-- Tables may be added, and shells may change as long as they stay where they are. -/
theorem Lawful.withTables (h : store.Lawful) {tables : List TableShell}
    (htables : ∀ path, store.hasTable path = true → ({ store with tables } : Store).hasTable path = true) :
    ({ store with tables } : Store).Lawful where
  increasing := h.increasing
  registered row hrow := htables _ (h.registered row hrow)
  visible row hrow := htables _ (h.visible row hrow)
  inflight := h.inflight

theorem hasTable_iff : store.hasTable basePath = true ↔ ∃ shell ∈ store.tables, shell.basePath = basePath := by
  simp [hasTable, table?, List.find?_isSome]

theorem hasTable_recordSchema {config : WriteConfig} :
    (store.recordSchema config).hasTable basePath = store.hasTable basePath := by
  unfold recordSchema
  split
  · rfl
  · rw [Bool.eq_iff_iff, hasTable_iff, hasTable_iff]
    simp only [updateTable, List.mem_map]
    constructor
    · rintro ⟨_, ⟨shell, hmem, rfl⟩, hpath⟩
      refine ⟨shell, hmem, ?_⟩
      rw [← hpath]
      split <;> rfl
    · rintro ⟨shell, hmem, hpath⟩
      refine ⟨_, ⟨shell, hmem, rfl⟩, ?_⟩
      rw [← hpath]
      split <;> rfl

end Store

end TableSync
