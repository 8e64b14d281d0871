/-
  TableSync/Proofs/Store/Lifecycle.lean
  =====================================
  **The life of an instant** — how the row of an instant may change.

  Writing, committing and rolling back each look at the state of the instant
  that they are given, in their own way, and an instant may be named by any
  client at any time.  What comes of it is said of the row of an instant: it
  keeps its place, its time and its action, and its state goes forward once
  (`InstantRow.Advances`).  Going forward is transitive, so it holds over any
  number of operations as soon as it holds of every change.

  A compaction is never inflight (`InstantRow.Regular`), which is why nothing is
  staged under it and why it is not committed.
-/
import TableSync.Proofs.Store.History

namespace TableSync

/-! ## 1. Going forward -/

/-- The row of an instant, before and after. A completed one does not change at all. -/
structure InstantRow.Advances (old new : InstantRow) : Prop where
  basePath : new.basePath = old.basePath
  time : new.time = old.time
  action : new.action = old.action
  state : new.state = old.state ∨ (old.state = .inflight ∧ new.state = .completed) ∨
    (old.state = .inflight ∧ new.state = .rolledBack) ∨ (old.state = .requested ∧ new.state = .rolledBack)
  completed : old.state = .completed → new = old

/-- An instant that changes no more. -/
def InstantRow.IsFinal (row : InstantRow) : Prop := row.state = .completed ∨ row.state = .rolledBack

namespace InstantRow.Advances

variable {old new last : InstantRow}

theorem refl (row : InstantRow) : row.Advances row where
  basePath := rfl
  time := rfl
  action := rfl
  state := .inl rfl
  completed _ := rfl

theorem state_of_final (h : old.Advances new) (hfinal : old.IsFinal) : new.state = old.state := by
  rcases h.state with hsame | ⟨hold, -⟩ | ⟨hold, -⟩ | ⟨hold, -⟩
  · exact hsame
  all_goals
    rcases hfinal with hstate | hstate
    all_goals
      rw [hold] at hstate
      cases hstate

theorem trans (h : old.Advances new) (hlater : new.Advances last) : old.Advances last where
  basePath := hlater.basePath.trans h.basePath
  time := hlater.time.trans h.time
  action := hlater.action.trans h.action
  state := by
    rcases h.state with hsame | ⟨hold, hnew⟩ | ⟨hold, hnew⟩ | ⟨hold, hnew⟩
    · rw [← hsame]
      exact hlater.state
    · exact .inr (.inl ⟨hold, (hlater.state_of_final (.inl hnew)).trans hnew⟩)
    · exact .inr (.inr (.inl ⟨hold, (hlater.state_of_final (.inr hnew)).trans hnew⟩))
    · exact .inr (.inr (.inr ⟨hold, (hlater.state_of_final (.inr hnew)).trans hnew⟩))
  completed hold := by
    have hsame := h.completed hold
    rw [← hsame] at hold ⊢
    exact hlater.completed hold

end InstantRow.Advances

namespace Store

variable {store after later : Store} {instant row : InstantRow}

/-- Every instant stays in its place and goes forward. New ones may come after them. -/
def Advances (store after : Store) : Prop :=
  ∀ (place : Nat) (row : InstantRow), store.instants[place]? = some row →
    ∃ next, after.instants[place]? = some next ∧ row.Advances next

theorem Advances.of_instants (h : after.instants = store.instants) : store.Advances after := by
  intro place row hrow
  exact ⟨row, h ▸ hrow, .refl row⟩

theorem Advances.trans (h : store.Advances after) (hlater : after.Advances later) : store.Advances later := by
  intro place row hrow
  obtain ⟨next, hnext, hadvances⟩ := h place row hrow
  obtain ⟨last, hlast, hrest⟩ := hlater place next hnext
  exact ⟨last, hlast, hadvances.trans hrest⟩

theorem Advances.of_withInstant (row : InstantRow) : store.Advances (store.withInstant row) := by
  intro place old hold
  have hlt : place < store.instants.length := (List.getElem?_eq_some_iff.mp hold).1
  exact ⟨old, (List.getElem?_append_left hlt).trans hold, .refl old⟩

theorem Advances.of_updateInstant (hlawful : store.Lawful) (hmem : instant ∈ store.instants)
    {change : InstantRow → InstantRow} (hchange : instant.Advances (change instant)) :
    store.Advances (store.updateInstant instant.basePath instant.time change) := by
  intro place row hrow
  refine ⟨if row.isAt instant.basePath instant.time then change row else row, ?_, ?_⟩
  · show (store.instants.map _)[place]? = _
    rw [List.getElem?_map, hrow]
    rfl
  · split
    next hat =>
      rw [hlawful.eq_of_isAt hmem (List.mem_of_getElem? hrow) hat]
      exact hchange
    next => exact .refl row

/-- Every change lets the instants go forward: a commit needs its instant inflight, and a rollback one that has
not completed. -/
theorem Change.advances {deed : Deed} (h : store.Change deed after) (hlawful : store.Lawful) :
    store.Advances after := by
  cases h with
  | unchanged => exact .of_instants rfl
  | registered => exact .of_instants rfl
  | created => exact .of_withInstant _
  | staged => exact .of_instants rfl
  | @committed instant config outcome extra now records hmem hstate =>
    have hcompletes : instant.Advances (completed outcome extra now instant) := by
      refine ⟨rfl, rfl, rfl, .inr (.inl ⟨hstate, rfl⟩), fun hcompleted => ?_⟩
      rw [hstate] at hcompleted
      cases hcompleted
    exact (Advances.of_updateInstant hlawful hmem hcompletes).trans (.of_instants (recordSchema_instants _))
  | @rolledBack instant now hmem hstate =>
    have hrolls : instant.Advances { instant with state := .rolledBack, completedAt := some now } := by
      refine ⟨rfl, rfl, rfl, ?_, fun hcompleted => absurd hcompleted hstate⟩
      show _ ∨ _
      generalize instant.state = state at hstate ⊢
      cases state with
      | requested => exact .inr (.inr (.inr ⟨rfl, rfl⟩))
      | inflight => exact .inr (.inr (.inl ⟨rfl, rfl⟩))
      | completed => exact absurd rfl hstate
      | rolledBack => exact .inl rfl
    exact Advances.of_updateInstant hlawful hmem hrolls

end Store

/-! ## 2. Regular instants -/

/-- What every instant is like, however far it has come. -/
structure InstantRow.Regular (row : InstantRow) : Prop where
  completed : row.state = .completed → row.extra.isSome = true
  compaction : row.action = .compaction → row.state ≠ .inflight ∧ row.state ≠ .completed

theorem InstantRow.Begins.regular {row : InstantRow} (h : row.Begins) : row.Regular := by
  rcases h with ⟨haction, hstate⟩ | ⟨-, hstate⟩
  · refine ⟨fun hcompleted => ?_, fun hcompaction => absurd hcompaction haction⟩
    rw [hstate] at hcompleted
    cases hcompleted
  · refine ⟨fun hcompleted => ?_, fun _ => ?_⟩
    · rw [hstate] at hcompleted
      cases hcompleted
    · rw [hstate]
      decide

namespace Store

variable {store after : Store} {instant : InstantRow}

def Regular (store : Store) : Prop := ∀ row ∈ store.instants, row.Regular

theorem regular_empty : ({} : Store).Regular := fun _ hrow => (List.not_mem_nil hrow).elim

theorem Regular.updateInstant (h : store.Regular) (hlawful : store.Lawful) (hmem : instant ∈ store.instants)
    {change : InstantRow → InstantRow} (hchange : (change instant).Regular) :
    (store.updateInstant instant.basePath instant.time change).Regular := by
  intro row hrow
  obtain ⟨old, hold, rfl⟩ := List.mem_map.mp hrow
  split
  next hat =>
    rw [hlawful.eq_of_isAt hmem hold hat]
    exact hchange
  next => exact h old hold

theorem Change.regular {deed : Deed} (h : store.Change deed after) (hlawful : store.Lawful)
    (hregular : store.Regular) : after.Regular := by
  cases h with
  | unchanged => exact hregular
  | registered => exact hregular
  | created hbegins =>
    intro row hrow
    rcases List.mem_append.mp hrow with hold | hlast
    · exact hregular row hold
    · rw [List.mem_singleton.mp hlast]
      exact hbegins.regular
  | staged => exact hregular
  | @committed instant config outcome extra now records hmem hstate =>
    have hcompleted : (completed outcome extra now instant).Regular :=
      ⟨fun _ => rfl, fun haction => absurd hstate ((hregular instant hmem).compaction haction).1⟩
    intro row hrow
    rw [recordSchema_instants] at hrow
    exact hregular.updateInstant hlawful hmem hcompleted row hrow
  | @rolledBack instant now hmem hstate =>
    have hrolled : ({ instant with state := .rolledBack, completedAt := some now } : InstantRow).Regular :=
      ⟨nofun, fun _ => ⟨nofun, nofun⟩⟩
    exact hregular.updateInstant hlawful hmem hrolled

/-- What the instants of a store say about each other and about what is staged. -/
structure WellKept (store : Store) : Prop where
  staged : ∀ row ∈ store.staged, ∃ instant,
    store.instant? row.basePath (some row.instantTime) = some instant ∧ instant.state = .inflight
  completed : ∀ instant ∈ store.instants, instant.state = .completed →
    (instant.action = .commit ∨ instant.action = .deltaCommit) ∧ instant.extra.isSome = true
  compaction : ∀ instant ∈ store.instants, instant.action = .compaction →
    store.stagedUnder instant.basePath instant.time = [] ∧ instant.state ≠ .completed

theorem Regular.wellKept (h : store.Regular) (hlawful : store.Lawful) : store.WellKept where
  staged row hrow := by
    obtain ⟨instant, hmem, hat, hstate⟩ := hlawful.inflight row hrow
    obtain ⟨hpath, htime⟩ := isAt_iff.mp hat
    exact ⟨instant, hpath ▸ htime ▸ hlawful.instant?_eq hmem, hstate⟩
  completed instant hmem hstate := by
    refine ⟨?_, (h instant hmem).completed hstate⟩
    cases haction : instant.action with
    | commit => exact .inl rfl
    | deltaCommit => exact .inr rfl
    | compaction => exact absurd hstate ((h instant hmem).compaction haction).2
  compaction instant hmem haction := by
    obtain ⟨hnotInflight, hnotCompleted⟩ := (h instant hmem).compaction haction
    refine ⟨List.filter_eq_nil_iff.mpr fun row hrow hunder => hnotInflight ?_, hnotCompleted⟩
    -- What is staged has an inflight instant, and no other instant is at this time.
    obtain ⟨other, hother, hat, hinflight⟩ := hlawful.inflight row hrow
    obtain ⟨hpath, htime⟩ := isUnder_iff.mp hunder
    rw [hpath, htime] at hat
    rw [← hlawful.eq_of_isAt hmem hother hat]
    exact hinflight

end Store

/-! ## 3. Runs -/

namespace Warehouse

variable {start warehouse later : Warehouse} {events more : List Event}

theorem Run.advances (h : Run start events warehouse) (hlawful : start.store.Lawful) :
    start.store.Advances warehouse.store := by
  refine h.induct (P := fun _ store => start.store.Advances store) hlawful (.of_instants rfl) ?_
  intro _ _ _ _ hnow hbefore hchange
  exact hbefore.trans (hchange.advances hnow)

theorem History.regular (h : History events warehouse) : warehouse.store.Regular := by
  refine h.induct (P := fun _ store => store.Regular) Store.lawful_empty Store.regular_empty ?_
  intro _ _ _ _ hnow hbefore hchange
  exact hchange.regular hnow hbefore

/-- An instant that is committed was inflight, and it was one of the table of the client. -/
theorem committed_inflight {w w' : World Warehouse} {client : ClientId} {time : Option String}
    {outcome : WriteOutcome} {extra : Fields String}
    (hrun : (perform (.commit client time outcome extra)).runIn w = (.ok (.truth true), w')) :
    ∃ instant ∈ w.state.store.instants, time = some instant.time ∧ instant.state = .inflight ∧
      w.state.clients[client]?.map (·.config.basePath) = some instant.basePath := by
  obtain ⟨answer, hcommit, hanswer⟩ := answer_cases hrun
  rcases commit_yields _ _ _ _ _ hcommit with ⟨failure, rfl, -⟩ | ⟨_ | _, rfl, hdone⟩
  · cases hanswer
  · cases hanswer
  · obtain ⟨known, hknown, hcommitted⟩ := hdone
    obtain ⟨instant, hmem, _, hpath, htime, hstate, -⟩ := Store.commit_eq_ok hcommitted
    refine ⟨instant, hmem, htime, hstate, ?_⟩
    rw [hknown, hpath]
    rfl

/-- A compaction is not committed, by no client and with no metadata. -/
theorem compaction_not_committed {w w' : World Warehouse} (hlawful : w.state.store.Lawful)
    (hregular : w.state.store.Regular) {instant : InstantRow} (hmem : instant ∈ w.state.store.instants)
    (haction : instant.action = .compaction) {client : ClientId}
    (hclient : w.state.clients[client]?.map (·.config.basePath) = some instant.basePath)
    (outcome : WriteOutcome) (extra : Fields String) :
    (perform (.commit client (some instant.time) outcome extra)).runIn w ≠ (.ok (.truth true), w') := by
  intro hrun
  obtain ⟨named, hnamed, htime, hstate, hpath⟩ := committed_inflight hrun
  have hsame : named = instant := by
    refine hlawful.unique hnamed hmem ?_ (Option.some.inj htime).symm
    rw [hclient] at hpath
    exact (Option.some.inj hpath).symm
  rw [hsame] at hstate
  exact ((hregular instant hmem).compaction haction).1 hstate

theorem Run.final (h : Run start events warehouse) (hlawful : start.store.Lawful) {place : Nat} {instant : InstantRow}
    (hinstant : start.store.instants[place]? = some instant) (hfinal : instant.IsFinal) :
    ∃ same, warehouse.store.instants[place]? = some same ∧ same.basePath = instant.basePath ∧
      same.time = instant.time ∧ same.action = instant.action ∧ same.state = instant.state := by
  obtain ⟨same, hsame, hadvances⟩ := h.advances hlawful place instant hinstant
  exact ⟨same, hsame, hadvances.basePath, hadvances.time, hadvances.action, hadvances.state_of_final hfinal⟩

/-- After any history the store is well kept. From there every operation lets each instant go forward by one step
at most, what is final stays as it is whatever is done, and a compaction is not committed. -/
theorem History.lifecycle (h : History events warehouse) :
    warehouse.store.WellKept ∧
    (∀ (operation : Operation) (w w' : World Warehouse) (reply : Except Failure Reply), w.state = warehouse →
      (perform operation).runIn w = (reply, w') → warehouse.store.Advances w'.state.store) ∧
    (∀ (more : List Event) (later : Warehouse), Run warehouse more later →
      ∀ (place : Nat) (instant : InstantRow), warehouse.store.instants[place]? = some instant → instant.IsFinal →
      ∃ same, later.store.instants[place]? = some same ∧ same.basePath = instant.basePath ∧
        same.time = instant.time ∧ same.action = instant.action ∧ same.state = instant.state) ∧
    (∀ instant ∈ warehouse.store.instants, instant.action = .compaction →
      ∀ (client : ClientId) (outcome : WriteOutcome) (extra : Fields String) (w w' : World Warehouse),
        w.state = warehouse → w.state.clients[client]?.map (·.config.basePath) = some instant.basePath →
        (perform (.commit client (some instant.time) outcome extra)).runIn w ≠ (.ok (.truth true), w')) := by
  have hlawful := History.lawful h
  refine ⟨h.regular.wellKept hlawful, ?_, ?_, ?_⟩
  · rintro operation w w' reply rfl hrun
    exact (perform_change hlawful hrun).advances hlawful
  · intro more later hmore place instant hinstant hfinal
    exact hmore.final hlawful hinstant hfinal
  · rintro instant hmem haction client outcome extra w w' rfl hclient
    exact compaction_not_committed hlawful h.regular hmem haction hclient outcome extra

/-- The life of the instants of the sample: the first is completed, and stays so whatever is done. -/
theorem sample_lifecycle : ∃ events warehouse, History events warehouse ∧ warehouse.store.WellKept ∧
    ∀ more later, Run warehouse more later →
      ∀ instant ∈ warehouse.store.instantsOf "/t/events", instant.time = "20250101000010000" →
      ∃ same ∈ later.store.instants, same.isAt "/t/events" "20250101000010000" = true ∧ same.state = .completed := by
  obtain ⟨events, warehouse, hhistory, -, hinstants, -⟩ := sampleHistory
  obtain ⟨hkept, -, hfinal, -⟩ := History.lifecycle hhistory
  refine ⟨events, warehouse, hhistory, hkept, fun more later hmore instant hinstant htime => ?_⟩
  have hpair : (instant.time, instant.state) ∈
      (warehouse.store.instantsOf "/t/events").map fun row => (row.time, row.state) := List.mem_map_of_mem hinstant
  have hstate : instant.state = .completed := by
    rw [hinstants, htime] at hpair
    simpa using hpair
  obtain ⟨hmem, hpath⟩ := Store.mem_instantsOf.mp hinstant
  obtain ⟨place, hplace⟩ := List.mem_iff_getElem?.mp hmem
  obtain ⟨same, hsame, hsamePath, hsameTime, -, hsameState⟩ := hfinal more later hmore place instant hplace (.inl hstate)
  exact ⟨same, List.mem_of_getElem? hsame, Store.isAt_iff.mpr ⟨hsamePath.trans hpath, hsameTime.trans htime⟩,
    hsameState.trans hstate⟩

end Warehouse

end TableSync
