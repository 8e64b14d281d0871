/-
  TableSync/Proofs/Commit/Start.lean
  ==================================
  **A commit start that waits for the clock** — the retry loop of a coordinator
  over a store that refuses starts until the clock is past its instants.

  Nobody else touches the store, so between two attempts only the clock moves.
  `Waiting` is what the world is like after a number of refused starts: the
  clock has moved by so many delays, each of which is on record, and the store
  is as it was.  One attempt is `start_runIn`; a run of refused ones keeps
  `Waiting`, and ends with the first clock that is past every instant of the
  table or with the last attempt.
-/
import Mathlib.Data.Nat.Find
import TableSync.Proofs.Commit.Protocol
import TableSync.Proofs.Retry
import TableSync.Proofs.Store.Start

namespace TableSync

/-- The clock after a number of sleeps. -/
def Timestamp.afterSleeps (t : Timestamp) (delay : Number) (k : Nat) : Timestamp :=
  ⟨t.micros + k * durationMicros 1000000 delay⟩

theorem Timestamp.afterSleeps_zero (t : Timestamp) (delay : Number) : t.afterSleeps delay 0 = t := by
  simp [afterSleeps]

theorem Timestamp.afterSleeps_succ (t : Timestamp) (delay : Number) (k : Nat) :
    t.afterSleeps delay (k + 1) = (t.afterSleeps delay k).addSeconds delay := by
  simp only [afterSleeps, addSeconds, Int.natCast_succ, Int.add_mul, Int.one_mul, Int.add_assoc]

namespace Coordinator

/-! ## 1. One attempt -/

/-- A call under observation does outside the coordinator what the call does, with its answer on record. -/
theorem outside_watch_runIn {ρ α : Type} {form : Except Failure α → Call ρ} {step : Effect ρ α}
    {w : World (CommitState (Watched ρ))} {answer : Except Failure α} {v : World ρ}
    (hrun : step.runIn { w with state := w.state.outside.inner } = (answer, v)) :
    (outside (Watched.watch form step)).runIn w =
      (answer, { v with state :=
        { w.state with outside := ⟨v.state, w.state.outside.calls ++ [form answer]⟩ } }) :=
  Effect.runIn_within (Watched.watch_runIn hrun)

/-- After `k` sleeps the clock is past every instant of a table. -/
def ClockPast (delay : Number) (w : World (CommitState (Watched Warehouse))) (basePath : String) (k : Nat) : Prop :=
  w.state.outside.inner.store.IsNew basePath (w.now.afterSleeps delay k).instantTime

/-- The world after `k` refused starts: the clock and the sleeps have moved on, and the store is as it was. -/
structure Waiting (delay : Number) (w : World (CommitState (Watched Warehouse))) (k : Nat)
    (v : World (CommitState (Watched Warehouse))) : Prop where
  now : v.now = w.now.afterSleeps delay k
  sleeps : v.sleeps = w.sleeps ++ List.replicate k delay
  state : ∃ starts, Refused starts ∧ starts.length = k ∧
    v.state = { w.state with outside := ⟨w.state.outside.inner, w.state.outside.calls ++ starts⟩ }

section Attempt

variable {delay : Number} {w v v' : World (CommitState (Watched Warehouse))} {k : Nat}
  {id : Warehouse.ClientId} {config : WriteConfig}

theorem waiting_nothing (delay : Number) (w : World (CommitState (Watched Warehouse))) : Waiting delay w 0 w :=
  ⟨(w.now.afterSleeps_zero delay).symm, (List.append_nil _).symm, [], refused_nil, rfl, by rw [List.append_nil]⟩

/-- The store when the clock has moved by `k` sleeps. -/
theorem Waiting.startCommit_runIn (h : Waiting delay w k v)
    (hknown : w.state.outside.inner.clients[id]? = some ⟨config, false⟩) :
    (Warehouse.startCommit id).runIn { v with state := v.state.outside.inner } =
      match w.state.outside.inner.store.startCommit config (w.now.afterSleeps delay k) with
      | .ok (time, after) =>
        (.ok time, { v with state := { w.state.outside.inner with store := after } })
      | .error failure => (.error failure, { v with state := w.state.outside.inner }) := by
  obtain ⟨starts, -, -, hstate⟩ := h.state
  have hinner : v.state.outside.inner = w.state.outside.inner := by rw [hstate]
  rw [hinner, ← h.now]
  have hopen : (⟨config, false⟩ : ClientRecord).closed = false := rfl
  exact Warehouse.startCommit_of_open hknown hopen

/-- A start at a clock that is not past the table is refused as a race. -/
theorem Waiting.refused (h : Waiting delay w k v)
    (hknown : w.state.outside.inner.clients[id]? = some ⟨config, false⟩)
    (hbehind : ¬ ClockPast delay w config.basePath k) :
    ∃ failure v', (outside (Warehouse.writer id config).watched.startCommit).runIn v = (.error failure, v') ∧
      failure.isOf (.fault .instantState) = true ∧ v'.now = v.now ∧ v'.sleeps = v.sleeps ∧
      v'.state = { v.state with outside :=
        ⟨w.state.outside.inner, v.state.outside.calls ++ [.startCommit (.error failure)]⟩ } := by
  obtain ⟨latest, hstart⟩ := Store.startCommit_of_passed (Store.isPassed_iff.mpr hbehind)
  have hrun := h.startCommit_runIn hknown
  rw [hstart] at hrun
  exact ⟨_, _, outside_watch_runIn hrun, rfl, rfl, rfl, rfl⟩

/-- A start at a clock that is past the table is granted. -/
theorem Waiting.granted (h : Waiting delay w k v)
    (hknown : w.state.outside.inner.clients[id]? = some ⟨config, false⟩)
    (htable : w.state.outside.inner.store.hasTable config.basePath = true)
    (hpast : ClockPast delay w config.basePath k) :
    ∃ v', (outside (Warehouse.writer id config).watched.startCommit).runIn v =
        (.ok (w.now.afterSleeps delay k).instantTime, v') ∧ v'.sleeps = v.sleeps ∧
      v'.state.outside.inner = { w.state.outside.inner with
        store := w.state.outside.inner.store.withInstant
          (config.newInstant (w.now.afterSleeps delay k).instantTime) } ∧
      v'.state.outside.calls =
        v.state.outside.calls ++ [.startCommit (.ok (w.now.afterSleeps delay k).instantTime)] := by
  have hrun := h.startCommit_runIn hknown
  rw [Store.startCommit_of_new htable hpast] at hrun
  exact ⟨_, outside_watch_runIn hrun, rfl, rfl, rfl⟩

theorem Waiting.next (h : Waiting delay w k v) {failure : Failure} (hnow : v'.now = v.now.addSeconds delay)
    (hsleeps : v'.sleeps = v.sleeps ++ [delay])
    (hstate : v'.state = { v.state with outside :=
      ⟨w.state.outside.inner, v.state.outside.calls ++ [.startCommit (.error failure)]⟩ }) :
    Waiting delay w (k + 1) v' := by
  obtain ⟨starts, hrefused, hlength, hbefore⟩ := h.state
  refine ⟨?_, ?_, starts ++ [.startCommit (.error failure)], hrefused.snoc failure, by simp [hlength], ?_⟩
  · rw [hnow, h.now, Timestamp.afterSleeps_succ]
  · rw [hsleeps, h.sleeps, List.replicate_succ', List.append_assoc]
  · rw [hstate, hbefore, List.append_assoc]

end Attempt

/-! ## 2. The retry loop -/

/-- A start was granted after `k` sleeps: `k` refused attempts and one that was answered with the instant of the clock
are on record, and the store has this instant more. -/
structure Started (delay : Number) (config : WriteConfig) (w : World (CommitState (Watched Warehouse))) (k : Nat)
    (outcome : Except Failure String) (w' : World (CommitState (Watched Warehouse))) : Prop where
  answer : outcome = .ok (w.now.afterSleeps delay k).instantTime
  sleeps : w'.sleeps = w.sleeps ++ List.replicate k delay
  store : w'.state.outside.inner = { w.state.outside.inner with
    store := w.state.outside.inner.store.withInstant
      (config.newInstant (w.now.afterSleeps delay k).instantTime) }
  calls : ∃ starts, Refused starts ∧ starts.length = k ∧ w'.state.outside.calls =
    w.state.outside.calls ++ starts ++ [.startCommit (.ok (w.now.afterSleeps delay k).instantTime)]

/-- `n` attempts were refused, with a sleep between every two of them, and the last refusal is the outcome. The store
is as it was. -/
structure GaveUp (delay : Number) (w : World (CommitState (Watched Warehouse))) (n : Nat)
    (outcome : Except Failure String) (w' : World (CommitState (Watched Warehouse))) : Prop where
  answer : ∃ failure, outcome = .error failure ∧ failure.isOf (.fault .instantState) = true
  sleeps : w'.sleeps = w.sleeps ++ List.replicate (n - 1) delay
  store : w'.state.outside.inner = w.state.outside.inner
  calls : ∃ starts, Refused starts ∧ starts.length = n ∧
    w'.state.outside.calls = w.state.outside.calls ++ starts

section Loop

variable {w : World (CommitState (Watched Warehouse))} {id : Warehouse.ClientId} {config : WriteConfig}
  (coordinator : Coordinator Warehouse) (hraces : .fault .instantState ∈ coordinator.retry.retryOn)
  (hclient : w.state.client = some (Warehouse.writer id config).watched)
  (hknown : w.state.outside.inner.clients[id]? = some ⟨config, false⟩)

theorem retries_of_race (hraces : .fault .instantState ∈ coordinator.retry.retryOn) {failure : Failure}
    (h : failure.isOf (.fault .instantState) = true) : coordinator.retry.retries failure = true :=
  List.any_eq_true.mpr ⟨_, hraces, h⟩

include hraces hknown in
/-- As long as the clock is not past the table, starts are refused. -/
theorem waiting_after (k left attempt : Nat)
    (hbehind : ∀ j < k, ¬ ClockPast coordinator.retry.delay w config.basePath j) (description : String) :
    ∃ v, (coordinator.retry.attemptFrom (outside (Warehouse.writer id config).watched.startCommit) description
        (left + k) attempt).runIn w =
      (coordinator.retry.attemptFrom (outside (Warehouse.writer id config).watched.startCommit) description
        left (attempt + k)).runIn v ∧ Waiting coordinator.retry.delay w k v := by
  refine RetryPolicy.attemptFrom_after (P := Waiting coordinator.retry.delay w) (fun j hj v hv => ?_) description left
    attempt (waiting_nothing _ w)
  obtain ⟨failure, v', hrun, hkind, hnow, hsleeps, hstate⟩ := hv.refused hknown (hbehind j hj)
  refine ⟨failure, v', hrun, coordinator.retries_of_race hraces hkind, fun u hu hunow husleeps => ?_⟩
  exact hv.next (hunow.trans (by rw [hnow])) (husleeps.trans (by rw [hsleeps])) (hu.trans hstate)

include hclient in
theorem startCommit_runIn_run : (coordinator.watched.startCommit).runIn w =
    (coordinator.retry.attemptFrom (outside (Warehouse.writer id config).watched.startCommit) "start a new commit"
      (coordinator.retry.maxAttempts - 1) 1).runIn w := by
  have hfound : coordinator.watched.requireClient.runIn w = (.ok (Warehouse.writer id config).watched, w) := by
    have hstate : (Effect.state : Effect (CommitState (Watched Warehouse)) _).runIn w = (.ok w.state, w) := rfl
    rw [requireClient, Effect.runIn_bind_ok hstate, hclient]
    rfl
  rw [startCommit, Effect.runIn_bind_ok hfound]
  rfl

include hraces hclient hknown

theorem startCommit_granted {k : Nat} (hk : k < coordinator.retry.maxAttempts)
    (htable : w.state.outside.inner.store.hasTable config.basePath = true)
    (hbehind : ∀ j < k, ¬ ClockPast coordinator.retry.delay w config.basePath j)
    (hpast : ClockPast coordinator.retry.delay w config.basePath k) :
    ∃ outcome w', coordinator.watched.startCommit.runIn w = (outcome, w') ∧
      Started coordinator.retry.delay config w k outcome w' := by
  obtain ⟨v, hrun, hv⟩ := waiting_after coordinator hraces hknown k (coordinator.retry.maxAttempts - 1 - k) 1 hbehind
    "start a new commit"
  obtain ⟨w', hgranted, hsleeps, hstore, hcalls⟩ := hv.granted hknown htable hpast
  obtain ⟨starts, hrefused, hlength, hstate⟩ := hv.state
  refine ⟨_, w', ?_, rfl, hsleeps.trans hv.sleeps, hstore, starts, hrefused, hlength, hcalls.trans (by rw [hstate])⟩
  rw [startCommit_runIn_run coordinator hclient,
    show coordinator.retry.maxAttempts - 1 = coordinator.retry.maxAttempts - 1 - k + k by omega, hrun]
  exact RetryPolicy.attemptFrom_ok hgranted _ _ _

theorem startCommit_gave_up
    (hbehind : ∀ k < coordinator.retry.maxAttempts, ¬ ClockPast coordinator.retry.delay w config.basePath k) :
    ∃ outcome w', coordinator.watched.startCommit.runIn w = (outcome, w') ∧
      GaveUp coordinator.retry.delay w coordinator.retry.maxAttempts outcome w' := by
  have hpos := coordinator.retry.maxAttempts_pos
  obtain ⟨v, hrun, hv⟩ := waiting_after coordinator hraces hknown (coordinator.retry.maxAttempts - 1) 0 1
    (fun j hj => hbehind j (by omega)) "start a new commit"
  obtain ⟨failure, v', hlast, hkind, -, hsleeps, hstate⟩ := hv.refused hknown (hbehind _ (by omega))
  obtain ⟨w', hend, hwstate, -, hwsleeps⟩ := RetryPolicy.attemptFrom_last hlast
    (coordinator.retries_of_race hraces hkind) "start a new commit" (1 + (coordinator.retry.maxAttempts - 1))
  obtain ⟨starts, hrefused, hlength, hvstate⟩ := hv.state
  refine ⟨_, w', ?_, ⟨failure, rfl, hkind⟩, by rw [hwsleeps, hsleeps, hv.sleeps], by rw [hwstate, hstate],
    starts ++ [.startCommit (.error failure)], hrefused.snoc failure, ?_, ?_⟩
  · rw [startCommit_runIn_run coordinator hclient, ← hend, ← hrun, Nat.zero_add]
  · rw [List.length_append, hlength, List.length_singleton]
    omega
  · rw [hwstate, hstate, hvstate, List.append_assoc]

/-- **A start succeeds as soon as the clock allows.** Over any store in which the table of an open client is registered:
a start succeeds exactly if, after fewer sleeps than there are attempts, the instant of the clock comes after every
instant of the table, whatever these are. It is then granted at the first such clock; otherwise every attempt is refused
as a race and the store stays as it is. -/
theorem starts_when_past (htable : w.state.outside.inner.store.hasTable config.basePath = true) :
    ∃ outcome w', coordinator.watched.startCommit.runIn w = (outcome, w') ∧
      ((∃ time, outcome = .ok time) ↔
        ∃ k < coordinator.retry.maxAttempts, ClockPast coordinator.retry.delay w config.basePath k) ∧
      (∀ k < coordinator.retry.maxAttempts, ClockPast coordinator.retry.delay w config.basePath k →
        (∀ j < k, ¬ ClockPast coordinator.retry.delay w config.basePath j) →
        Started coordinator.retry.delay config w k outcome w') ∧
      ((∀ k < coordinator.retry.maxAttempts, ¬ ClockPast coordinator.retry.delay w config.basePath k) →
        GaveUp coordinator.retry.delay w coordinator.retry.maxAttempts outcome w') := by
  classical
  by_cases hsome : ∃ k, k < coordinator.retry.maxAttempts ∧ ClockPast coordinator.retry.delay w config.basePath k
  · have hleast := Nat.find_spec hsome
    have hbehind : ∀ j < Nat.find hsome, ¬ ClockPast coordinator.retry.delay w config.basePath j := fun j hj hpast =>
      Nat.find_min hsome hj ⟨Nat.lt_trans hj hleast.1, hpast⟩
    obtain ⟨outcome, w', hrun, hstarted⟩ :=
      startCommit_granted coordinator hraces hclient hknown hleast.1 htable hbehind hleast.2
    refine ⟨outcome, w', hrun, iff_of_true ⟨_, hstarted.answer⟩ hsome, fun k hk hpast hfirst => ?_, fun hnone => ?_⟩
    · have hsame : k = Nat.find hsome := by
        rcases Nat.lt_trichotomy k (Nat.find hsome) with hlt | heq | hgt
        · exact absurd hpast (hbehind k hlt)
        · exact heq
        · exact absurd hleast.2 (hfirst _ hgt)
      rw [hsame]
      exact hstarted
    · exact absurd hleast.2 (hnone _ hleast.1)
  · have hbehind : ∀ k < coordinator.retry.maxAttempts, ¬ ClockPast coordinator.retry.delay w config.basePath k :=
      fun k hk hpast => hsome ⟨k, hk, hpast⟩
    obtain ⟨outcome, w', hrun, hgaveUp⟩ := startCommit_gave_up coordinator hraces hclient hknown hbehind
    obtain ⟨failure, hfailure, -⟩ := hgaveUp.answer
    refine ⟨outcome, w', hrun, iff_of_false ?_ hsome, fun k hk hpast _ => absurd hpast (hbehind k hk), fun _ => hgaveUp⟩
    rintro ⟨time, htime⟩
    cases hfailure.symm.trans htime

end Loop

/-! ## 3. Two clients of a table -/

/-- The second client of the table, with a second to sleep after each of three attempts. -/
def rivalCoordinator : Coordinator Warehouse where
  config := default
  store := Warehouse.tableStore
  retry := ⟨3, .whole 1, [.fault .instantState], RetryPolicy.commitStart.maxAttempts_pos⟩

/-- Its clock shows one second less than the instant of the first client. -/
def rivalStart : World (CommitState (Watched Warehouse)) where
  now := Warehouse.sampleClock 9
  state :=
    { outside := ⟨(Warehouse.play {} Warehouse.rivalRequests).2, []⟩
      client := some (Warehouse.writer 1 Warehouse.rivalConfig).watched }

/-- Two sleeps later the clock is past that instant. -/
theorem rival_starts_when_past :
    ∃ w', rivalCoordinator.watched.startCommit.runIn rivalStart = (.ok (Warehouse.sampleClock 11).instantTime, w') ∧
      w'.sleeps = [.whole 1, .whole 1] := by
  obtain ⟨outcome, w', hrun, -, hstarted, -⟩ := starts_when_past (w := rivalStart) rivalCoordinator
    List.mem_cons_self rfl rfl rfl
  have hpast : ClockPast rivalCoordinator.retry.delay rivalStart Warehouse.rivalConfig.basePath 2 := by
    unfold ClockPast Store.IsNew
    decide +kernel
  have hbehind : ∀ j < 2, ¬ ClockPast rivalCoordinator.retry.delay rivalStart Warehouse.rivalConfig.basePath j := by
    unfold ClockPast Store.IsNew
    decide +kernel
  have hthird := hstarted 2 (by decide) hpast hbehind
  rw [hthird.answer] at hrun
  exact ⟨w', hrun, hthird.sleeps⟩

end Coordinator

end TableSync
