/-
  TableSync/Proofs/Retry.lean
  ===========================
  **Bounded retry, attempt by attempt** — what one attempt does to clock, sleeps
  and state, and what a number of failed ones comes to.

  The rules for pre- and postconditions leave out the clock.  Here runs are
  followed as they are: an attempt returns, fails for good, fails for the last
  time, or is followed by a sleep and another one.  `attemptFrom_after` repeats
  the last of these, with an invariant that may speak of the whole world.
-/
import TableSync.Retry
import TableSync.Proofs.Effect

namespace TableSync.RetryPolicy

variable {σ α : Type} {policy : RetryPolicy} {operation : Effect σ α} {w v : World σ} {failure : Failure}

theorem attemptFrom_ok {a : α} (h : operation.runIn w = (.ok a, v)) (description : String) (left attempt : Nat) :
    (policy.attemptFrom operation description left attempt).runIn w = (.ok a, v) := by
  unfold attemptFrom
  rw [Effect.runIn_bind_ok (Effect.runIn_attempt h)]
  rfl

/-- A failure that is not retried is the outcome. -/
theorem attemptFrom_fatal (h : operation.runIn w = (.error failure, v)) (hfatal : policy.retries failure = false)
    (description : String) (left attempt : Nat) :
    (policy.attemptFrom operation description left attempt).runIn w = (.error failure, v) := by
  unfold attemptFrom
  rw [Effect.runIn_bind_ok (Effect.runIn_attempt h)]
  simp only [hfatal]
  rfl

/-- So is that of the last attempt, which is logged. -/
theorem attemptFrom_last (h : operation.runIn w = (.error failure, v)) (hretries : policy.retries failure = true)
    (description : String) (attempt : Nat) :
    ∃ v', (policy.attemptFrom operation description 0 attempt).runIn w = (.error failure, v') ∧
      v'.state = v.state ∧ v'.now = v.now ∧ v'.sleeps = v.sleeps := by
  rw [attemptFrom, Effect.runIn_bind_ok (Effect.runIn_attempt h)]
  simp only [hretries, if_true]
  exact ⟨_, rfl, rfl, rfl, rfl⟩

/-- After any other one the delay is slept and the operation attempted again. -/
theorem attemptFrom_again (h : operation.runIn w = (.error failure, v)) (hretries : policy.retries failure = true)
    (description : String) (left attempt : Nat) :
    ∃ v', (policy.attemptFrom operation description (left + 1) attempt).runIn w =
        (policy.attemptFrom operation description left (attempt + 1)).runIn v' ∧
      v'.state = v.state ∧ v'.now = v.now.addSeconds policy.delay ∧ v'.sleeps = v.sleeps ++ [policy.delay] := by
  rw [attemptFrom, Effect.runIn_bind_ok (Effect.runIn_attempt h)]
  simp only [hretries, if_true]
  exact ⟨_, rfl, rfl, rfl, rfl⟩

/-- As long as attempts fail and are retried, the run comes to the next one. -/
theorem attemptFrom_after {P : Nat → World σ → Prop} {k : Nat}
    (h : ∀ j < k, ∀ w, P j w → ∃ failure v, operation.runIn w = (.error failure, v) ∧
      policy.retries failure = true ∧ ∀ v', v'.state = v.state → v'.now = v.now.addSeconds policy.delay →
        v'.sleeps = v.sleeps ++ [policy.delay] → P (j + 1) v')
    (description : String) (left attempt : Nat) (hw : P 0 w) :
    ∃ v, (policy.attemptFrom operation description (left + k) attempt).runIn w =
      (policy.attemptFrom operation description left (attempt + k)).runIn v ∧ P k v := by
  induction k generalizing left with
  | zero => exact ⟨w, rfl, hw⟩
  | succ k ih =>
    obtain ⟨before, hrun, hbefore⟩ := ih (fun j hj => h j (Nat.lt_succ_of_lt hj)) (left + 1)
    obtain ⟨failure, v, hfailed, hretries, hnext⟩ := h k (Nat.lt_succ_self k) before hbefore
    obtain ⟨v', hagain, hstate, hnow, hsleeps⟩ := attemptFrom_again hfailed hretries description left (attempt + k)
    refine ⟨v', ?_, hnext v' hstate hnow hsleeps⟩
    rw [show left + (k + 1) = left + 1 + k by omega, hrun, hagain]
    rfl

end TableSync.RetryPolicy
