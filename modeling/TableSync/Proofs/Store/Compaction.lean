/-
  TableSync/Proofs/Store/Compaction.lean
  ======================================
  **Compactions** — when one is asked for, and what that leaves uncompacted.

  A compaction is asked for only where a delta commit has completed since the
  latest one.  So between two compactions of a table, and before its first, a
  completed delta commit stands (`Store.Alternates`); delta commits that
  complete late only add to those.

  Nothing is asked for where no delta commit waits.  Then every completed delta
  commit comes before the latest compaction, but this one need not stand: it may
  have been rolled back, and then nobody compacts what came before it
  (`rolledBack_compaction_hides`).
-/
import TableSync.Proofs.Store.Lifecycle
import TableSync.Proofs.Store.Order

namespace TableSync

namespace Store

variable {store after : Store} {basePath : String} {row delta compaction : InstantRow}

/-! ## 1. What waits to be compacted -/

theorem greatest?_mem {times : List String} {greatest : String} (h : greatest? times = some greatest) :
    greatest ∈ times := by
  induction times generalizing greatest with
  | nil => cases h
  | cons first rest ih =>
    rw [greatest?] at h
    split at h
    next =>
      cases h
      exact List.mem_cons_self
    next other hother =>
      split at h
      next =>
        cases h
        exact List.mem_cons_of_mem _ (ih hother)
      next =>
        cases h
        exact List.mem_cons_self

/-- The times of the compactions of a table. -/
theorem mem_compactionTimes {time : String} :
    time ∈ ((store.instantsOf basePath).filter fun row => row.action == .compaction).map (·.time) ↔
      ∃ row ∈ store.instants, row.basePath = basePath ∧ row.action = .compaction ∧ row.time = time := by
  simp [mem_instantsOf, and_assoc]

theorem exists_lastCompaction {last : String} (h : store.lastCompaction? basePath = some last) :
    ∃ row ∈ store.instants, row.basePath = basePath ∧ row.action = .compaction ∧ row.time = last :=
  mem_compactionTimes.mp (greatest?_mem h)

theorem le_lastCompaction {last : String} (h : store.lastCompaction? basePath = some last)
    (hmem : row ∈ store.instants) (hpath : row.basePath = basePath) (haction : row.action = .compaction) :
    row.time ≤ last :=
  le_greatest? h _ (mem_compactionTimes.mpr ⟨row, hmem, hpath, haction, rfl⟩)

theorem mem_uncompacted : delta ∈ store.uncompacted basePath ↔ delta ∈ store.instants ∧ delta.basePath = basePath ∧
    delta.action = .deltaCommit ∧ delta.state = .completed ∧
    ∀ last, store.lastCompaction? basePath = some last → last < delta.time := by
  unfold uncompacted
  rw [List.mem_filter, mem_instantsOf]
  cases store.lastCompaction? basePath <;> simp [and_assoc]

/-- What waits to be compacted comes after every compaction. -/
theorem lt_of_mem_uncompacted (h : delta ∈ store.uncompacted basePath) (hmem : row ∈ store.instants)
    (hpath : row.basePath = basePath) (haction : row.action = .compaction) : row.time < delta.time := by
  obtain ⟨-, -, -, -, hlater⟩ := mem_uncompacted.mp h
  cases hlast : store.lastCompaction? basePath with
  | none =>
    have hnil := greatest?_eq_none.mp hlast
    have htime := mem_compactionTimes.mpr ⟨row, hmem, hpath, haction, rfl⟩
    rw [hnil] at htime
    cases htime
  | some last => exact lt_of_le_of_lt (le_lastCompaction hlast hmem hpath haction) (hlater last hlast)

/-- A completed delta commit that does not wait comes before the latest compaction. -/
theorem Lawful.lt_lastCompaction (hlawful : store.Lawful) (hnone : store.uncompacted basePath = [])
    (hmem : delta ∈ store.instants) (hpath : delta.basePath = basePath) (haction : delta.action = .deltaCommit)
    (hstate : delta.state = .completed) :
    ∃ last, store.lastCompaction? basePath = some last ∧ delta.time < last := by
  have hnot : ¬∀ last, store.lastCompaction? basePath = some last → last < delta.time := by
    intro hlater
    have hwaits := mem_uncompacted.mpr ⟨hmem, hpath, haction, hstate, hlater⟩
    rw [hnone] at hwaits
    cases hwaits
  push Not at hnot
  obtain ⟨last, hlast, hle⟩ := hnot
  obtain ⟨row, hrow, hrowPath, hrowAction, rfl⟩ := exists_lastCompaction hlast
  refine ⟨row.time, hlast, lt_of_le_of_ne hle fun hsame => ?_⟩
  -- One time of a table has one instant, and this one would be of two kinds.
  rw [hlawful.unique hmem hrow (hpath.trans hrowPath.symm) hsame, hrowAction] at haction
  cases haction

theorem scheduleCompaction_eq_none {config : WriteConfig} {now : Timestamp}
    (h : store.scheduleCompaction config now = .ok (none, after)) (hrequests : requestsCompaction config = true) :
    store.uncompacted config.basePath = [] := by
  unfold scheduleCompaction at h
  rw [hrequests, Bool.true_and] at h
  split at h
  · obtain ⟨asked, -, hdone⟩ := bind_eq_ok.mp h
    cases hdone
  next hwaits => simpa using hwaits

theorem scheduleCompaction_eq_some {config : WriteConfig} {now : Timestamp} {time : String}
    (h : store.scheduleCompaction config now = .ok (some time, after)) :
    ∃ delta, delta ∈ store.uncompacted config.basePath := by
  unfold scheduleCompaction at h
  split at h
  next hwaits =>
    rw [Bool.and_eq_true] at hwaits
    exact List.exists_mem_of_ne_nil _ (by simpa using hwaits.2)
  next => cases h

/-! ## 2. Compactions and delta commits alternate -/

/-- A completed delta commit that stands between a compaction and every one before it. -/
structure Feeds (store : Store) (delta compaction : InstantRow) : Prop where
  basePath : delta.basePath = compaction.basePath
  action : delta.action = .deltaCommit
  state : delta.state = .completed
  before : delta.time < compaction.time
  after : ∀ other ∈ store.instants, other.basePath = compaction.basePath → other.action = .compaction →
    other.time < compaction.time → other.time < delta.time

/-- Every compaction has something to compact. -/
def Alternates (store : Store) : Prop :=
  ∀ compaction ∈ store.instants, compaction.action = .compaction → ∃ delta ∈ store.instants, store.Feeds delta compaction

theorem alternates_empty : ({} : Store).Alternates := fun _ hmem => (List.not_mem_nil hmem).elim

theorem Advances.exists_old (h : store.Advances after) (hlength : after.instants.length = store.instants.length)
    (hmem : row ∈ after.instants) : ∃ old ∈ store.instants, old.Advances row := by
  obtain ⟨place, hplace⟩ := List.mem_iff_getElem?.mp hmem
  have hlt : place < store.instants.length := by
    rw [← hlength]
    exact (List.getElem?_eq_some_iff.mp hplace).1
  obtain ⟨next, hnext, hadvances⟩ := h place _ (List.getElem?_eq_getElem hlt)
  rw [hplace] at hnext
  cases hnext
  exact ⟨_, List.getElem_mem hlt, hadvances⟩

theorem Advances.completed_mem (h : store.Advances after) (hmem : row ∈ store.instants)
    (hstate : row.state = .completed) : row ∈ after.instants := by
  obtain ⟨place, hplace⟩ := List.mem_iff_getElem?.mp hmem
  obtain ⟨next, hnext, hadvances⟩ := h place row hplace
  rw [← hadvances.completed hstate]
  exact List.mem_of_getElem? hnext

/-- A completed delta commit stays, and no compaction moves. -/
theorem Alternates.advance (h : store.Alternates) (hadvances : store.Advances after)
    (hlength : after.instants.length = store.instants.length) : after.Alternates := by
  intro compaction hcompaction haction
  obtain ⟨old, hold, hsame⟩ := hadvances.exists_old hlength hcompaction
  obtain ⟨delta, hdelta, hfeeds⟩ := h old hold (hsame.action.symm.trans haction)
  refine ⟨delta, hadvances.completed_mem hdelta hfeeds.state, ?_⟩
  refine ⟨hfeeds.basePath.trans hsame.basePath.symm, hfeeds.action, hfeeds.state, ?_, ?_⟩
  · rw [hsame.time]
    exact hfeeds.before
  · intro other hother hpath hotherAction hlt
    obtain ⟨oldOther, holdOther, hsameOther⟩ := hadvances.exists_old hlength hother
    rw [hsameOther.basePath, hsame.basePath] at hpath
    rw [hsameOther.action] at hotherAction
    rw [hsameOther.time, hsame.time] at hlt
    rw [hsameOther.time]
    exact hfeeds.after oldOther holdOther hpath hotherAction hlt

/-- A new instant comes after the others, and a new compaction finds a delta commit that waits. -/
theorem Alternates.withInstant (h : store.Alternates) (hnew : store.IsNew row.basePath row.time)
    (hwaits : row.action = .compaction → ∃ delta, delta ∈ store.uncompacted row.basePath) :
    (store.withInstant row).Alternates := by
  intro compaction hcompaction haction
  rcases List.mem_append.mp hcompaction with hold | hlast
  · obtain ⟨delta, hdelta, hfeeds⟩ := h compaction hold haction
    refine ⟨delta, List.mem_append_left _ hdelta, hfeeds.basePath, hfeeds.action, hfeeds.state, hfeeds.before, ?_⟩
    intro other hother hpath hotherAction hlt
    rcases List.mem_append.mp hother with hotherOld | hotherLast
    · exact hfeeds.after other hotherOld hpath hotherAction hlt
    · rw [List.mem_singleton.mp hotherLast] at hpath hlt
      have hbefore := hnew compaction (mem_instantsOf.mpr ⟨hold, hpath.symm⟩)
      exact absurd hlt (lt_asymm hbefore)
  · obtain rfl := List.mem_singleton.mp hlast
    obtain ⟨delta, hdelta⟩ := hwaits haction
    obtain ⟨hmem, hpath, hdeltaAction, hstate, -⟩ := mem_uncompacted.mp hdelta
    refine ⟨delta, List.mem_append_left _ hmem, hpath, hdeltaAction, hstate, hnew delta (mem_instantsOf.mpr ⟨hmem, hpath⟩), ?_⟩
    intro other hother hotherPath hotherAction hlt
    rcases List.mem_append.mp hother with hotherOld | hotherLast
    · exact lt_of_mem_uncompacted hdelta hotherOld hotherPath hotherAction
    · rw [List.mem_singleton.mp hotherLast] at hlt
      exact absurd hlt (lt_irrefl _)

/-- Whatever creates no instant leaves as many as there were. -/
theorem Change.length_instants {deed : Deed} (h : store.Change deed after)
    (hnone : ∀ path time, deed ≠ .created path time) : after.instants.length = store.instants.length := by
  cases h with
  | unchanged => rfl
  | registered => rfl
  | created => exact absurd rfl (hnone _ _)
  | staged => rfl
  | committed =>
    rw [recordSchema_instants]
    exact List.length_map _
  | rolledBack => exact List.length_map _

end Store

/-! ## 3. Histories -/

namespace Warehouse

variable {warehouse : Warehouse} {events : List Event}

/-- Only starting a commit and asking for a compaction create an instant. -/
theorem Event.asks_of_created {event : Event} {path time : String} (h : event.deed = .created path time) :
    ∃ client, event.operation = .startCommit client ∨ event.operation = .scheduleCompaction client := by
  unfold deed at h
  split at h
  next client _ _ hoperation _ _ => exact ⟨client, .inl hoperation⟩
  next client _ _ hoperation _ _ => exact ⟨client, .inr hoperation⟩
  next => cases h
  next => cases h
  next => cases h

/-- Everything that asking for a compaction can come to. -/
theorem scheduleCompaction_cases {w w' : World Warehouse} {client : ClientId} {reply : Except Failure Reply}
    (hlawful : w.state.store.Lawful) (hrun : (perform (.scheduleCompaction client)).runIn w = (reply, w')) :
    (∃ time known delta, reply = .ok (.compaction (some time)) ∧ w.state.clients[client]? = some known ∧
      delta ∈ w.state.store.uncompacted known.config.basePath ∧ w.state.store.IsNew known.config.basePath time ∧
      w'.state.store = w.state.store.withInstant (Store.compactionRequest known.config.basePath time)) ∨
    ((reply = .ok (.compaction none) ∨ ∃ failure, reply = .error failure) ∧ w'.state.store = w.state.store) := by
  obtain ⟨answer, hschedule, rfl⟩ := answer_cases hrun
  rcases scheduleCompaction_yields _ _ hschedule with ⟨failure, rfl, hsame⟩ | ⟨asked, rfl, known, now, hknown, hdone⟩
  · exact .inr ⟨.inr ⟨failure, rfl⟩, hsame⟩
  · rcases Store.scheduleCompaction_eq_ok hlawful hdone with ⟨rfl, hsame⟩ | ⟨time, rfl, hnew, -, hafter⟩
    · exact .inr ⟨.inl rfl, hsame⟩
    · obtain ⟨delta, hdelta⟩ := Store.scheduleCompaction_eq_some hdone
      exact .inl ⟨time, known, delta, rfl, hknown, hdelta, hnew, hafter⟩

theorem perform_alternates {operation : Operation} {w w' : World Warehouse} {reply : Except Failure Reply}
    (hlawful : w.state.store.Lawful) (h : w.state.store.Alternates)
    (hrun : (perform operation).runIn w = (reply, w')) : w'.state.store.Alternates := by
  by_cases hcreated : ∃ path time, (Event.of operation w reply w').deed = .created path time
  · obtain ⟨path, time, hdeed⟩ := hcreated
    obtain ⟨client, rfl | rfl⟩ : ∃ client, operation = .startCommit client ∨ operation = .scheduleCompaction client :=
      Event.asks_of_created hdeed
    · obtain ⟨answer, hstart, rfl⟩ := answer_cases hrun
      rcases startCommit_yields _ _ hstart with ⟨failure, rfl, hsame⟩ | ⟨told, rfl, known, now, -, hdone⟩
      · rw [hsame]
        exact h
      · obtain ⟨hnew, -, hafter⟩ := Store.newInstant_eq_ok hlawful hdone
        rw [hafter]
        refine h.withInstant hnew fun haction => ?_
        revert haction
        cases known.config.tableType <;> simp [TableType.commitAction]
    · rcases scheduleCompaction_cases hlawful hrun with ⟨time, known, delta, -, -, hdelta, hnew, hafter⟩ | ⟨-, hsame⟩
      · rw [hafter]
        exact h.withInstant hnew fun _ => ⟨delta, hdelta⟩
      · rw [hsame]
        exact h
  · push Not at hcreated
    have hchange := perform_change hlawful hrun
    exact h.advance (hchange.advances hlawful) (hchange.length_instants hcreated)

theorem History.alternates (h : History events warehouse) : warehouse.store.Alternates := by
  induction h with
  | none => exact Store.alternates_empty
  | more hbefore hrun ih => exact perform_alternates (History.lawful hbefore) ih hrun

/-- After any history, whoever did what and whatever the clocks said, a completed delta commit stands before every
compaction and after every earlier one of its table. The next compaction comes after all instants of its table, and
where none is asked for, or asking fails, the store stays as it is. -/
theorem History.compactions_alternate (h : History events warehouse) :
    (∀ compaction ∈ warehouse.store.instants, compaction.action = .compaction →
      ∃ delta ∈ warehouse.store.instants, warehouse.store.Feeds delta compaction) ∧
    ∀ (client : ClientId) (w w' : World Warehouse) (reply : Except Failure Reply), w.state = warehouse →
      (perform (.scheduleCompaction client)).runIn w = (reply, w') →
      (∃ time known, reply = .ok (.compaction (some time)) ∧ warehouse.clients[client]? = some known ∧
        (∀ row ∈ warehouse.store.instantsOf known.config.basePath, row.time < time) ∧
        w'.state.store = warehouse.store.withInstant (Store.compactionRequest known.config.basePath time)) ∨
      ((reply = .ok (.compaction none) ∨ ∃ failure, reply = .error failure) ∧ w'.state.store = warehouse.store) := by
  refine ⟨h.alternates, ?_⟩
  rintro client w w' reply rfl hrun
  rcases scheduleCompaction_cases (History.lawful h) hrun with ⟨time, known, -, hreply, hknown, -, hnew, hafter⟩ | hsame
  · exact .inl ⟨time, known, hreply, hknown, hnew, hafter⟩
  · exact .inr hsame

/-- A client of one table, whose deltas are compacted by requests. -/
def compactingConfig : WriteConfig := { basePath := "/t/events", tableName := "events", tableType := .mergeOnRead }

def compactingClient : ClientRecord := { config := compactingConfig }

/-- A delta commit completes, and a compaction is asked for and rolled back. -/
def withdrawnRequests : List (Timestamp × Operation) :=
  let delta := some (sampleClock 10).instantTime
  let compaction := some (sampleClock 20).instantTime
  [(sampleClock 0, .initTable ⟨"/t/events", "events", .mergeOnRead, "", "archived", none⟩),
   (sampleClock 0, .newClient compactingConfig),
   (sampleClock 10, .startCommit 0),
   (sampleClock 11, .write 0 .upsert [sampleRecord "a" "first"] delta),
   (sampleClock 12, .commit 0 delta ⟨[]⟩ []),
   (sampleClock 20, .scheduleCompaction 0),
   (sampleClock 21, .rollback 0 compaction)]

/-- Another delta commit completes, and another compaction is asked for. -/
def resumedRequests : List (Timestamp × Operation) :=
  let delta := some (sampleClock 30).instantTime
  withdrawnRequests ++
  [(sampleClock 30, .startCommit 0),
   (sampleClock 31, .write 0 .upsert [sampleRecord "b" "second"] delta),
   (sampleClock 32, .commit 0 delta ⟨[]⟩ []),
   (sampleClock 40, .scheduleCompaction 0)]

/-- The second compaction of the sample is fed by a delta commit that came after the first one. -/
theorem sample_compactions_alternate : ∃ events warehouse, History events warehouse ∧
    ∃ compaction ∈ warehouse.store.instants, compaction.time = "20250101000040000" ∧
      ∃ delta ∈ warehouse.store.instants, delta.state = .completed ∧ "20250101000020000" < delta.time ∧
        delta.time < "20250101000040000" := by
  have hhistory : History (play {} resumedRequests).1 (play {} resumedRequests).2 := run_play {} resumedRequests
  have hfind : ∀ time ∈ ["20250101000020000", "20250101000040000"],
      ∃ row ∈ (play {} resumedRequests).2.store.instants,
        row.basePath = "/t/events" ∧ row.action = .compaction ∧ row.time = time := by
    decide +kernel
  obtain ⟨earlier, hearlier, hearlierPath, hearlierAction, hearlierTime⟩ := hfind "20250101000020000" (by simp)
  obtain ⟨compaction, hmem, hpath, haction, htime⟩ := hfind "20250101000040000" (by simp)
  obtain ⟨delta, hdelta, hfeeds⟩ := (History.compactions_alternate hhistory).1 compaction hmem haction
  refine ⟨_, _, hhistory, compaction, hmem, htime, delta, hdelta, hfeeds.state, ?_, htime ▸ hfeeds.before⟩
  have hlt : earlier.time < compaction.time := by
    rw [hearlierTime, htime]
    decide
  have hafter := hfeeds.after earlier hearlier (hearlierPath.trans hpath.symm) hearlierAction hlt
  rwa [hearlierTime] at hafter

/-! ## 4. What is left uncompacted -/

section Uncompacted

variable {client : ClientId} {known : ClientRecord} {w w' : World Warehouse}

/-- What a client that asks for compactions leaves when it asks for none. -/
theorem uncompacted_of_none (hknown : w.state.clients[client]? = some known)
    (hrequests : Store.requestsCompaction known.config = true)
    (hrun : (perform (.scheduleCompaction client)).runIn w = (.ok (.compaction none), w')) :
    w.state.store.uncompacted known.config.basePath = [] := by
  obtain ⟨answer, hschedule, hanswer⟩ := answer_cases hrun
  rcases scheduleCompaction_yields _ _ hschedule with ⟨failure, rfl, -⟩ | ⟨asked, rfl, other, now, hother, hdone⟩
  · cases hanswer
  · cases hanswer
    rw [hknown] at hother
    cases hother
    exact Store.scheduleCompaction_eq_none hdone hrequests

/-- A client that asks for compactions asks for none. Then every completed delta commit of its table comes before a
compaction that was not rolled back, if and only if the latest compaction was not: the delta commit that called for
the latest one comes after all the others. -/
theorem History.compacted_of_none {events : List Event} (h : History events w.state)
    (hknown : w.state.clients[client]? = some known) (htype : known.config.tableType = .mergeOnRead)
    (hinline : known.config.inlineCompaction = false)
    (hrun : (perform (.scheduleCompaction client)).runIn w = (.ok (.compaction none), w')) :
    (∀ delta ∈ w.state.store.instants, delta.basePath = known.config.basePath → delta.action = .deltaCommit →
      delta.state = .completed → ∃ compaction ∈ w.state.store.instants,
        compaction.basePath = known.config.basePath ∧ compaction.action = .compaction ∧
        compaction.state ≠ .rolledBack ∧ delta.time < compaction.time) ↔
    ∀ last ∈ w.state.store.instants, last.basePath = known.config.basePath → last.action = .compaction →
      w.state.store.lastCompaction? known.config.basePath = some last.time → last.state ≠ .rolledBack := by
  have hlawful := History.lawful h
  have hrequests : Store.requestsCompaction known.config = true := by
    rw [Store.requestsCompaction, htype, hinline]
    decide
  have hnone := uncompacted_of_none hknown hrequests hrun
  constructor
  · intro hcovered last hlast hpath haction htime hrolled
    obtain ⟨delta, hdelta, hfeeds⟩ := h.alternates last hlast haction
    obtain ⟨compaction, hmem, hcompactionPath, hcompaction, hstands, hlt⟩ :=
      hcovered delta hdelta (hfeeds.basePath.trans hpath) hfeeds.action hfeeds.state
    have hle : compaction.time ≤ last.time := Store.le_lastCompaction htime hmem hcompactionPath hcompaction
    rcases lt_or_eq_of_le hle with hearlier | hsame
    · have hbefore := hfeeds.after compaction hmem (hcompactionPath.trans hpath.symm) hcompaction hearlier
      exact lt_asymm hlt hbefore
    · rw [hlawful.unique hmem hlast (hcompactionPath.trans hpath.symm) hsame] at hstands
      exact hstands hrolled
  · intro hstands delta hdelta hpath haction hstate
    obtain ⟨time, htime, hlt⟩ := hlawful.lt_lastCompaction hnone hdelta hpath haction hstate
    obtain ⟨last, hlast, hlastPath, hlastAction, rfl⟩ := Store.exists_lastCompaction htime
    exact ⟨last, hlast, hlastPath, hlastAction, hstands last hlast hlastPath hlastAction htime, hlt⟩

end Uncompacted

/-- The worlds that the samples leave, some time later. -/
def withdrawnWorld : World Warehouse := { now := sampleClock 30, state := (play {} withdrawnRequests).2 }

def resumedWorld : World Warehouse := { now := sampleClock 50, state := (play {} resumedRequests).2 }

/-- After the second compaction of the sample nothing waits, and both delta commits come before one that stands. -/
theorem sample_compacted_of_none : ∃ w', (perform (.scheduleCompaction 0)).runIn resumedWorld =
      (.ok (.compaction none), w') ∧
    ∀ delta ∈ resumedWorld.state.store.instants, delta.basePath = "/t/events" → delta.action = .deltaCommit →
      delta.state = .completed → ∃ compaction ∈ resumedWorld.state.store.instants,
        compaction.basePath = "/t/events" ∧ compaction.action = .compaction ∧ compaction.state ≠ .rolledBack ∧
        delta.time < compaction.time := by
  have hstate : resumedWorld.state = (play {} resumedRequests).2 := by rw [resumedWorld]
  have hhistory : History (play {} resumedRequests).1 resumedWorld.state := by
    rw [hstate]
    exact run_play {} resumedRequests
  have hknown : resumedWorld.state.clients[0]? = some compactingClient := by decide +kernel
  have hanswer : ((perform (.scheduleCompaction 0)).runIn resumedWorld).1.toOption.any
      (fun reply => reply.toValue.isNull) = true := by
    decide +kernel
  rcases hrun : (perform (.scheduleCompaction 0)).runIn resumedWorld with ⟨reply, w'⟩
  rw [hrun] at hanswer
  have hnone : reply = .ok (.compaction none) := by
    rcases scheduleCompaction_cases (History.lawful hhistory) hrun with ⟨time, _, _, rfl, -⟩ | ⟨rfl | ⟨failure, rfl⟩, -⟩
    · cases hanswer
    · rfl
    · cases hanswer
  subst hnone
  refine ⟨w', rfl, (History.compacted_of_none hhistory hknown rfl rfl hrun).mpr ?_⟩
  decide +kernel

/-- A compaction that was rolled back hides what came before it: none is asked for any more, and none that stands
comes after the completed delta commit. -/
theorem rolledBack_compaction_hides : History (play {} withdrawnRequests).1 withdrawnWorld.state ∧
    (withdrawnWorld.state.store.table? "/t/events").map (·.tableType) = some .mergeOnRead ∧
    withdrawnWorld.state.clients[0]? = some compactingClient ∧
    (perform (.scheduleCompaction 0)).runIn withdrawnWorld = (.ok (.compaction none), withdrawnWorld) ∧
    ¬∀ delta ∈ withdrawnWorld.state.store.instants, delta.basePath = "/t/events" → delta.action = .deltaCommit →
      delta.state = .completed → ∃ compaction ∈ withdrawnWorld.state.store.instants,
        compaction.basePath = "/t/events" ∧ compaction.action = .compaction ∧ compaction.state ≠ .rolledBack ∧
        delta.time < compaction.time := by
  refine ⟨run_play {} withdrawnRequests, ?_, ?_, ?_, ?_⟩
  · decide +kernel
  · rfl
  · rfl
  · decide +kernel

end Warehouse

end TableSync
