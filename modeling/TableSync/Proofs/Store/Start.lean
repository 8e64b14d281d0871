/-
  TableSync/Proofs/Store/Start.lean
  =================================
  **Starting a commit** — when a store lets a client start one, and what its
  refusals say.

  A registered table lets a commit start exactly when the clock is past every
  instant of it, and otherwise reports that the timeline has not settled.  A
  table that is not registered has no instants to be past; its refusal is
  reported in the same way, as a time that is taken.  `startCommit_of_new`,
  `startCommit_of_passed` and `startCommit_of_unregistered` are the three ways;
  a client that is closed or was never handed out does not come that far.
-/
import TableSync.Proofs.Store.Compaction
import TableSync.Proofs.Store.Twins

namespace TableSync

/-! ## 1. The store -/

namespace Store

variable {store : Store} {basePath time : String} {config : WriteConfig} {now : Timestamp}

/-- The table holds an instant at or after a time. -/
def IsPassed (store : Store) (basePath time : String) : Prop := ∃ row ∈ store.instantsOf basePath, time ≤ row.time

theorem isPassed_iff : store.IsPassed basePath time ↔ ¬ store.IsNew basePath time := by
  simp only [IsPassed, IsNew, not_forall, exists_prop, not_lt]

theorem startCommit_of_new (htable : store.hasTable config.basePath = true)
    (hnew : store.IsNew config.basePath now.instantTime) :
    store.startCommit config now =
      .ok (now.instantTime, store.withInstant (config.newInstant now.instantTime)) := by
  unfold startCommit newInstant
  dsimp only
  split
  next latest hlatest =>
    obtain ⟨row, hrow, rfl⟩ := List.mem_map.mp (greatest?_mem hlatest)
    rw [if_neg (not_le.mpr (hnew row hrow))]
    rfl
  next => rw [if_pos htable]; rfl

/-- The clock is not past the timeline. -/
theorem startCommit_of_passed (hpassed : store.IsPassed config.basePath now.instantTime) :
    ∃ latest, store.startCommit config now = .error (notSettled now.instantTime latest now) := by
  obtain ⟨row, hrow, hle⟩ := hpassed
  unfold startCommit newInstant
  dsimp only
  split
  next latest hlatest =>
    rw [if_pos (le_trans hle (le_greatest? hlatest row.time (List.mem_map_of_mem hrow)))]
    exact ⟨latest, rfl⟩
  next hnone =>
    rw [latestTime?, greatest?_eq_none, List.map_eq_nil_iff] at hnone
    rw [hnone] at hrow
    cases hrow

theorem Lawful.instantsOf_of_unregistered (h : store.Lawful) (hnone : store.hasTable basePath = false) :
    store.instantsOf basePath = [] := by
  refine List.eq_nil_iff_forall_not_mem.mpr fun row hrow => ?_
  obtain ⟨hmem, rfl⟩ := mem_instantsOf.mp hrow
  rw [h.registered row hmem] at hnone
  cases hnone

theorem startCommit_of_unregistered (h : store.Lawful) (hnone : store.hasTable config.basePath = false) :
    store.startCommit config now = .error (timeTaken config.basePath now) := by
  have hlatest : store.latestTime? config.basePath = none := by
    rw [latestTime?, h.instantsOf_of_unregistered hnone]
    rfl
  simp only [startCommit, newInstant, hlatest, hnone]
  rfl

end Store

/-! ## 2. A client -/

namespace Warehouse

variable {w w' : World Warehouse} {id : ClientId} {known : ClientRecord} {events : List Event} {failure : Failure}

theorem startCommit_of_open (hknown : w.state.clients[id]? = some known) (hopen : known.closed = false) :
    (startCommit id).runIn w = match w.state.store.startCommit known.config w.now with
      | .ok (time, after) => (.ok time, { w with state := { w.state with store := after } })
      | .error failure => (.error failure, w) := by
  have hclient := openClient_runIn hknown
  rw [hopen, if_neg (by decide)] at hclient
  rw [startCommit, Effect.runIn_bind_ok hclient, transact_runIn]
  cases w.state.store.startCommit known.config w.now with
  | ok started => rfl
  | error failure => rfl

/-- A commit that could not be started changed nothing. If that is reported as a race, the client is open. -/
theorem startCommit_failed (hrun : (startCommit id).runIn w = (.error failure, w')) :
    w' = w ∧ (failure.isOf (.fault .instantState) = true → ∃ known, w.state.clients[id]? = some known ∧
      known.closed = false ∧ w.state.store.startCommit known.config w.now = .error failure) := by
  cases hknown : w.state.clients[id]? with
  | none =>
    have hclient : (openClient id).runIn w = (.error (.outside .attribute "there is no such client" false), w) := by
      have hstate : (Effect.state : Effect Warehouse Warehouse).runIn w = (.ok w.state, w) := rfl
      rw [openClient, Effect.runIn_bind_ok hstate, hknown]
      rfl
    rw [startCommit, Effect.runIn_bind_error hclient] at hrun
    cases hrun
    exact ⟨rfl, nofun⟩
  | some known =>
    cases hclosed : known.closed with
    | true =>
      have hclient := openClient_runIn hknown
      rw [hclosed, if_pos rfl] at hclient
      rw [startCommit, Effect.runIn_bind_error hclient] at hrun
      cases hrun
      exact ⟨rfl, fun hkind => absurd (show false = true from hkind) Bool.false_ne_true⟩
    | false =>
      rw [startCommit_of_open hknown hclosed] at hrun
      split at hrun
      next => cases hrun
      next hstart =>
        cases hrun
        exact ⟨rfl, fun _ => ⟨known, rfl, hclosed, hstart⟩⟩

/-- **What a refused start says.** Whatever was done to a warehouse, and whatever the clock shows: a commit that cannot
be started leaves everything as it was, and is tried again exactly if it is reported as a race. The table then holds an
instant at or after the clock exactly if it is registered. -/
theorem History.start_refused (h : History events w.state) (id : ClientId) :
    ∃ outcome w', (startCommit id).runIn w = (outcome, w') ∧ ∀ failure, outcome = .error failure →
      w' = w ∧ RetryPolicy.commitStart.retries failure = failure.isOf (.fault .instantState) ∧
      (failure.isOf (.fault .instantState) = true → ∃ known, w.state.clients[id]? = some known ∧
        (w.state.store.IsPassed known.config.basePath w.now.instantTime ↔
          w.state.store.hasTable known.config.basePath = true)) := by
  rcases hrun : (startCommit id).runIn w with ⟨outcome, w'⟩
  refine ⟨outcome, w', rfl, ?_⟩
  rintro failure rfl
  obtain ⟨hsame, hrace⟩ := startCommit_failed hrun
  refine ⟨hsame, by simp [RetryPolicy.commitStart, RetryPolicy.retries], fun hkind => ?_⟩
  obtain ⟨known, hknown, -, hstart⟩ := hrace hkind
  refine ⟨known, hknown, ?_⟩
  cases htable : w.state.store.hasTable known.config.basePath with
  | true =>
    refine iff_of_true (Store.isPassed_iff.mpr fun hnew => ?_) rfl
    rw [Store.startCommit_of_new htable hnew] at hstart
    cases hstart
  | false =>
    rw [Store.IsPassed, (History.lawful h).instantsOf_of_unregistered htable]
    simp

def rivalConfig : WriteConfig := { basePath := "/t/events", tableName := "events", tableType := .copyOnWrite }

/-- Two clients of a table, one of which has started a commit. -/
def rivalRequests : List (Timestamp × Operation) :=
  [(sampleClock 0, .initTable ⟨"/t/events", "events", .copyOnWrite, "", "archived", none⟩),
   (sampleClock 0, .newClient rivalConfig),
   (sampleClock 0, .newClient rivalConfig),
   (sampleClock 10, .startCommit 0)]

/-- The clock of the other one is behind. -/
def rivalWorld : World Warehouse := { now := sampleClock 5, state := (play {} rivalRequests).2 }

/-- Its start is refused as a race, and the table does hold an instant after its clock. -/
theorem rival_start_refused :
    ∃ failure, (startCommit 1).runIn rivalWorld = (.error failure, rivalWorld) ∧
      RetryPolicy.commitStart.retries failure = true ∧
      rivalWorld.state.store.IsPassed "/t/events" rivalWorld.now.instantTime := by
  have hraced : (match ((startCommit 1).runIn rivalWorld).1 with
      | .ok _ => false
      | .error failure => failure.isOf (.fault .instantState)) = true := by decide +kernel
  obtain ⟨outcome, w', hrun, hfailed⟩ := History.start_refused (w := rivalWorld) (run_play {} rivalRequests) 1
  rw [hrun] at hraced
  cases outcome with
  | ok time => cases hraced
  | error failure =>
    obtain ⟨rfl, hretried, hrace⟩ := hfailed failure rfl
    obtain ⟨known, hknown, hpassed⟩ := hrace hraced
    have hpath : known.config.basePath = "/t/events" := by
      cases hknown
      rfl
    rw [hpath] at hpassed
    exact ⟨failure, hrun, hretried.trans hraced, hpassed.mpr (by decide +kernel)⟩

/-- A client whose table is not registered. -/
def strayRequests : List (Timestamp × Operation) :=
  [(sampleClock 0, .newClient rivalConfig)]

/-- Its start is refused as a race, though its table has no instant at all. -/
theorem stray_start_refused :
    ∃ events warehouse failure w', History events warehouse ∧
      (startCommit 0).runIn { now := sampleClock 5, state := warehouse } = (.error failure, w') ∧
      failure.isOf (.fault .instantState) = true ∧ RetryPolicy.commitStart.retries failure = true ∧
      warehouse.store.instants = [] := by
  exact ⟨_, _, _, _, run_play {} strayRequests, rfl, rfl, rfl, rfl⟩

end Warehouse

end TableSync
