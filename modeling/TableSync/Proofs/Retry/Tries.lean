/-
  TableSync/Proofs/Retry/Tries.lean
  =================================
  **How often, and with what end** — a retry policy over any outcomes.

  A `Script` says how every attempt of an operation would end, without end, so
  that it stands for whatever an operation may do.  Each attempt puts on record
  what was slept until then; `Tries` reads off this record that one sleep lies
  between two attempts and none after the last.  Which outcome is the last is
  said without the policy's own test, by the classes that its failures belong to
  (`Final`).
-/
import TableSync.Proofs.Failure.Classes
import TableSync.Proofs.Retry

namespace TableSync.RetryPolicy

/-! ## 1. Operations by script -/

/-- The outcomes of the attempts of an operation, one after the other. -/
abbrev Script (α : Type) := Nat → Except Failure α

/-- The operation that ends as its script says. Every attempt puts on record what was slept until then. -/
def Script.operation {α : Type} (script : Script α) : Effect (List (List Number)) α :=
  Effect.of fun w => (script w.state.length, { w with state := w.state ++ [w.sleeps] })

/-- An outcome that no attempt follows: a value, or a failure that belongs to none of the classes. -/
def Final {α : Type} (retryOn : List FailureClass) : Except Failure α → Prop
  | .ok _ => True
  | .error failure => ∀ scope ∈ retryOn, ¬failure.Belongs scope

/-- From one world to another there were `times` attempts, with one sleep between every two of them, and what came of
them is what the last one ended with. -/
structure Tries {α : Type} (delay : Number) (script : Script α) (w : World (List (List Number))) (times : Nat)
    (outcome : Except Failure α) (w' : World (List (List Number))) : Prop where
  attempts : w'.state = (List.range times).map fun i => w.sleeps ++ List.replicate i delay
  sleeps : w'.sleeps = w.sleeps ++ List.replicate (times - 1) delay
  last : outcome = script (times - 1)

section

variable {α : Type} {policy : RetryPolicy} {script : Script α} {w v : World (List (List Number))} {k : Nat}

theorem retries_eq_false_iff {failure : Failure} :
    policy.retries failure = false ↔ Final policy.retryOn (.error failure : Except Failure α) := by
  simp only [retries, Final, List.any_eq_false, Failure.isOf_iff]

/-- The world after `k` failed attempts, each followed by a sleep. -/
structure Slept (delay : Number) (w : World (List (List Number))) (k : Nat) (v : World (List (List Number))) :
    Prop where
  attempts : v.state = (List.range k).map fun i => w.sleeps ++ List.replicate i delay
  sleeps : v.sleeps = w.sleeps ++ List.replicate k delay

theorem Slept.operation_runIn {delay : Number} (h : Slept delay w k v) (script : Script α) :
    script.operation.runIn v = (script k, { v with state := v.state ++ [v.sleeps] }) := by
  have hlength : v.state.length = k := by rw [h.attempts, List.length_map, List.length_range]
  show (script v.state.length, _) = _
  rw [hlength]

theorem Slept.attempted {delay : Number} (h : Slept delay w k v) :
    v.state ++ [v.sleeps] = (List.range (k + 1)).map fun i => w.sleeps ++ List.replicate i delay := by
  rw [h.attempts, h.sleeps, List.range_succ, List.map_append, List.map_singleton]

/-- After outcomes that are not final, the next attempt is made in the world that their sleeps lead to. -/
theorem attemptFrom_slept (hw : w.state = []) (hpassing : ∀ i < k, ¬Final policy.retryOn (script i))
    (description : String) (left attempt : Nat) :
    ∃ v, (policy.attemptFrom script.operation description (left + k) attempt).runIn w =
      (policy.attemptFrom script.operation description left (attempt + k)).runIn v ∧ Slept policy.delay w k v := by
  refine attemptFrom_after (P := Slept policy.delay w) (fun j hj v hv => ?_) description left attempt
    ⟨hw, (List.append_nil _).symm⟩
  have hrun := hv.operation_runIn script
  have hnot := hpassing j hj
  cases houtcome : script j with
  | ok a => exact absurd (houtcome ▸ trivial) hnot
  | error failure =>
    rw [houtcome] at hrun hnot
    rw [← retries_eq_false_iff, Bool.not_eq_false] at hnot
    refine ⟨failure, _, hrun, hnot, fun v' hstate _ hsleeps => ⟨?_, ?_⟩⟩
    · rw [hstate]
      exact hv.attempted
    · rw [hsleeps, List.replicate_succ', ← List.append_assoc, ← hv.sleeps]

/-- The attempt `k + 1` is the last one, by its outcome or because no other one is allowed. -/
theorem run_tries (policy : RetryPolicy) (hw : w.state = []) (hk : k < policy.maxAttempts)
    (hpassing : ∀ i < k, ¬Final policy.retryOn (script i))
    (hlast : k + 1 < policy.maxAttempts → Final policy.retryOn (script k)) (description : String) :
    ∃ outcome w', (policy.run script.operation description).runIn w = (outcome, w') ∧
      Tries policy.delay script w (k + 1) outcome w' := by
  obtain ⟨v, hrun, hv⟩ := attemptFrom_slept hw hpassing description (policy.maxAttempts - 1 - k) 1
  rw [show policy.maxAttempts - 1 - k + k = policy.maxAttempts - 1 by omega] at hrun
  have hattempt := hv.operation_runIn script
  cases houtcome : script k with
  | ok a =>
    rw [houtcome] at hattempt
    refine ⟨.ok a, _, hrun.trans (attemptFrom_ok hattempt _ _ _), hv.attempted, hv.sleeps, houtcome.symm⟩
  | error failure =>
    rw [houtcome] at hattempt hlast
    cases hretries : policy.retries failure with
    | false =>
      exact ⟨.error failure, _, hrun.trans (attemptFrom_fatal hattempt hretries _ _ _), hv.attempted, hv.sleeps,
        houtcome.symm⟩
    | true =>
      have hnone : policy.maxAttempts - 1 - k = 0 := by
        by_cases hmore : k + 1 < policy.maxAttempts
        · have hfatal : policy.retries failure = false := retries_eq_false_iff.2 (hlast hmore)
          rw [hretries] at hfatal
          cases hfatal
        · omega
      rw [hnone] at hrun
      obtain ⟨w', hend, hstate, -, hsleeps⟩ := attemptFrom_last hattempt hretries description (1 + k)
      exact ⟨.error failure, w', hrun.trans hend, hstate.trans hv.attempted, hsleeps.trans hv.sleeps, houtcome.symm⟩

end

/-! ## 2. All courses -/

/-- Of `n + 1` attempts one is the last. -/
theorem exists_last {α : Type} (retryOn : List FailureClass) (script : Script α) (n : Nat) :
    ∃ k ≤ n, (∀ i < k, ¬Final retryOn (script i)) ∧ (k < n → Final retryOn (script k)) := by
  induction n with
  | zero => exact ⟨0, Nat.le_refl 0, fun i hi => absurd hi (Nat.not_lt_zero i), fun h => absurd h (Nat.lt_irrefl 0)⟩
  | succ n ih =>
    obtain ⟨k, hk, hpassing, hlast⟩ := ih
    by_cases hfinal : Final retryOn (script k)
    · exact ⟨k, Nat.le_succ_of_le hk, hpassing, fun _ => hfinal⟩
    · -- Then the attempt was the last for its number only, and one more is made.
      obtain rfl : k = n := Nat.le_antisymm hk (Nat.le_of_not_lt fun h => hfinal (hlast h))
      refine ⟨k + 1, Nat.le_refl _, fun i hi => ?_, fun h => absurd h (Nat.lt_irrefl _)⟩
      rcases Nat.lt_succ_iff_lt_or_eq.1 hi with hlt | rfl
      · exact hpassing i hlt
      · exact hfinal

/-- **A retry policy is exact.**  It can be made of any positive number of attempts.  If the outcome `k` of a script,
counting from zero, is the first that is final, the operation is attempted `k + 1` times, or as often as is allowed if
that is less; if none is final, it is attempted as often as is allowed.  The fixed delay is slept once between every two
attempts and at no other time, and the outcome of the last attempt is what comes of it. -/
theorem run_exact (maxAttempts : Int) (hpositive : 1 ≤ maxAttempts) (delay : Number) (retryOn : List FailureClass) :
    ∃ policy, ofSettings maxAttempts delay retryOn = .ok policy ∧
      ∀ (α : Type) (script : Script α) (description : String) (w : World (List (List Number))), w.state = [] →
        ∃ outcome w', (policy.run script.operation description).runIn w = (outcome, w') ∧
          (∀ k, Final retryOn (script k) → (∀ i < k, ¬Final retryOn (script i)) →
            Tries delay script w (min (k + 1) maxAttempts.toNat) outcome w') ∧
          ((∀ i, ¬Final retryOn (script i)) → Tries delay script w maxAttempts.toNat outcome w') := by
  refine ⟨⟨maxAttempts.toNat, delay, retryOn, by omega⟩, dif_pos hpositive, ?_⟩
  intro α script description w hw
  obtain ⟨last, hallowed, hpassing, hlast⟩ := exists_last retryOn script (maxAttempts.toNat - 1)
  obtain ⟨outcome, w', hrun, htries⟩ := run_tries ⟨maxAttempts.toNat, delay, retryOn, by omega⟩ hw
    (show last < maxAttempts.toNat by omega) hpassing (fun h => hlast (Nat.lt_sub_of_add_lt h)) description
  refine ⟨outcome, w', hrun, fun k hfinal hbefore => ?_, fun hnone => ?_⟩
  · have hreached : last ≤ k := Nat.le_of_not_lt fun hlt => hpassing k hlt hfinal
    have hfirst : last < maxAttempts.toNat - 1 → k ≤ last := fun h =>
      Nat.le_of_not_lt fun hlt => hbefore last hlt (hlast h)
    rwa [show min (k + 1) maxAttempts.toNat = last + 1 by omega]
  · have hexhausted : ¬last < maxAttempts.toNat - 1 := fun h => hnone last (hlast h)
    rwa [show maxAttempts.toNat = last + 1 by omega]

/-- A connection that breaks and a source that cannot be read. -/
def brokenRead : Script Unit
  | 0 => .error (.fault .network "the connection broke" [] ⟨0⟩ {} none)
  | _ => .error (.fault .sourceRead "the page is no page" [] ⟨0⟩ {} none)

/-- The broken connection passes, for it is a transient failure as well as one of the source; the other failure is of
the source only. -/
theorem brokenRead_exact : ∃ policy w', ofSettings 3 (.double 1.0) [.fault .retryable, .outside .timeout] = .ok policy ∧
    (policy.run brokenRead.operation "read").runIn { now := ⟨0⟩, state := [] } = (brokenRead 1, w') ∧
    w'.state = [[], [.double 1.0]] ∧ w'.sleeps = [.double 1.0] := by
  have hpassing : ¬Final [.fault .retryable, .outside .timeout] (brokenRead 0) :=
    fun h => h _ List.mem_cons_self (Failure.isOf_iff.1 rfl)
  have hfinal : Final [.fault .retryable, .outside .timeout] (brokenRead 1) :=
    List.forall_mem_cons.2 ⟨fun h => absurd (Failure.isOf_iff.2 h) (by decide),
      List.forall_mem_singleton.2 fun h => absurd (Failure.isOf_iff.2 h) (by decide)⟩
  obtain ⟨policy, hpolicy, hruns⟩ := run_exact 3 (by decide) (.double 1.0) [.fault .retryable, .outside .timeout]
  obtain ⟨outcome, w', hrun, hfirst, -⟩ := hruns Unit brokenRead "read" { now := ⟨0⟩, state := [] } rfl
  obtain ⟨hattempts, hsleeps, rfl⟩ := hfirst 1 hfinal fun i hi => by
    obtain rfl := Nat.lt_one_iff.1 hi
    exact hpassing
  exact ⟨policy, w', hpolicy, hrun, hattempts, hsleeps⟩

end TableSync.RetryPolicy
