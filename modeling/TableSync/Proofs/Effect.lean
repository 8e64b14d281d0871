/-
  TableSync/Proofs/Effect.lean
  ============================
  **How a step ends** — pre- and postconditions of effects.

  `Effect.Leads P step Q E` says: started where `P` holds of the state, the step
  ends with a value and a state of which `Q` holds, or with a failure and a
  state of which `E` holds.  Clock and log are left out on purpose: a statement
  about the state holds for every clock, and every step in between may write to
  the log.  There is one rule per way of making a step (`leads_pure`,
  `Leads.bind`, `Leads.attempt`, …); the rules for the retry loop and for
  combining records follow from them.
-/
import TableSync.Retry
import TableSync.Record.Dedup

namespace TableSync

/-- Two outcomes one after another succeed only together. -/
theorem bind_eq_ok {ε α β : Type} {x : Except ε α} {f : α → Except ε β} {b : β} :
    x >>= f = .ok b ↔ ∃ a, x = .ok a ∧ f a = .ok b := by
  cases x with
  | error e => simp [bind, Except.bind]
  | ok a => simp [bind, Except.bind]

namespace Effect

variable {σ ρ α β : Type}

/-! ## 1. The relation -/

/-- Started where `P` holds, the step ends with a value where `Q` holds or with a failure where `E`
holds. -/
def Leads (P : σ → Prop) (step : Effect σ α) (Q : α → σ → Prop) (E : Failure → σ → Prop) : Prop :=
  ∀ w : World σ, P w.state →
    (∃ a w', step.runIn w = (.ok a, w') ∧ Q a w'.state) ∨
    (∃ failure w', step.runIn w = (.error failure, w') ∧ E failure w'.state)

variable {P P' : σ → Prop} {Q Q' : α → σ → Prop} {E E' : Failure → σ → Prop} {step : Effect σ α}

theorem Leads.of_ok (h : Leads P step Q E) {w w' : World σ} {a : α} (hw : P w.state)
    (hrun : step.runIn w = (.ok a, w')) : Q a w'.state := by
  rcases h w hw with ⟨b, v, hb, hQ⟩ | ⟨failure, v, hf, _⟩
  · rw [hrun] at hb
    cases hb
    exact hQ
  · rw [hrun] at hf
    cases hf

theorem Leads.of_error (h : Leads P step Q E) {w w' : World σ} {failure : Failure} (hw : P w.state)
    (hrun : step.runIn w = (.error failure, w')) : E failure w'.state := by
  rcases h w hw with ⟨b, v, hb, _⟩ | ⟨other, v, hf, hE⟩
  · rw [hrun] at hb
    cases hb
  · rw [hrun] at hf
    cases hf
    exact hE

theorem Leads.of_run (h : Leads P step Q E) {w w' : World σ} {outcome : Except Failure α} (hw : P w.state)
    (hrun : step.runIn w = (outcome, w')) :
    (∃ a, outcome = .ok a ∧ Q a w'.state) ∨ ∃ failure, outcome = .error failure ∧ E failure w'.state := by
  cases outcome with
  | ok a => exact .inl ⟨a, rfl, h.of_ok hw hrun⟩
  | error failure => exact .inr ⟨failure, rfl, h.of_error hw hrun⟩

/-- Of a step that cannot fail anything may be said about its failures. -/
theorem Leads.sure (h : Leads P step Q fun _ _ => False) : Leads P step Q E := by
  intro w hw
  rcases h w hw with hok | ⟨_, _, _, hnever⟩
  · exact .inl hok
  · exact hnever.elim

/-- A step that cannot fail ends with a value. -/
theorem Leads.returns (h : Leads P step Q fun _ _ => False) {w : World σ} (hw : P w.state) :
    ∃ a w', step.runIn w = (.ok a, w') ∧ Q a w'.state := by
  rcases h w hw with hok | ⟨_, _, _, hnever⟩
  · exact hok
  · exact hnever.elim

/-- Assume less at the start, promise less at the end. -/
theorem Leads.weaken (h : Leads P step Q E) (hP : ∀ s, P' s → P s) (hQ : ∀ a s, Q a s → Q' a s)
    (hE : ∀ failure s, E failure s → E' failure s) : Leads P' step Q' E' := by
  intro w hw
  rcases h w (hP _ hw) with ⟨a, w', hrun, hq⟩ | ⟨failure, w', hrun, he⟩
  · exact .inl ⟨a, w', hrun, hQ _ _ hq⟩
  · exact .inr ⟨failure, w', hrun, hE _ _ he⟩

theorem leads_of_each (h : ∀ s, P s → Leads (fun t => t = s) step Q E) : Leads P step Q E :=
  fun w hw => h w.state hw w rfl

/-- A step ends in one way only, so what it leads to can be said in parts. -/
theorem Leads.and (h : Leads P step Q E) (h' : Leads P' step Q' E') :
    Leads (fun s => P s ∧ P' s) step (fun a s => Q a s ∧ Q' a s) fun failure s => E failure s ∧ E' failure s := by
  intro w hw
  rcases h w hw.1 with ⟨a, w', hrun, hq⟩ | ⟨failure, w', hrun, he⟩
  · exact .inl ⟨a, w', hrun, hq, h'.of_ok hw.2 hrun⟩
  · exact .inr ⟨failure, w', hrun, he, h'.of_error hw.2 hrun⟩

/-- A fact that does not speak of the state can be assumed. -/
theorem leads_of_fact {p : Prop} (h : p → Leads P step Q E) : Leads (fun s => p ∧ P s) step Q E :=
  fun w hw => h hw.1 w hw.2

/-- What is said to exist in the state can be named. -/
theorem leads_of_exists {ι : Type} {P : ι → σ → Prop} (h : ∀ i, Leads (P i) step Q E) :
    Leads (fun s => ∃ i, P i s) step Q E := by
  intro w hw
  obtain ⟨i, hi⟩ := hw
  exact h i w hi

/-- Every step ends, and a fact that does not speak of the state still holds. -/
theorem leads_const {p : Prop} : Leads (fun _ => p) step (fun _ _ => p) (fun _ _ => p) := by
  intro w hp
  rcases hrun : step.runIn w with ⟨failure | a, w'⟩
  · exact .inr ⟨failure, w', rfl, hp⟩
  · exact .inl ⟨a, w', rfl, hp⟩

theorem leads_trivial : Leads P step (fun _ _ => True) (fun _ _ => True) :=
  leads_const.weaken (fun _ _ => trivial) (fun _ _ hs => hs) fun _ _ hs => hs

/-! ## 2. Rules -/

theorem leads_pure {a : α} (h : ∀ s, P s → Q a s) : Leads P (pure a) Q E :=
  fun w hw => .inl ⟨a, w, rfl, h _ hw⟩

theorem leads_fail {failure : Failure} (h : ∀ s, P s → E failure s) : Leads P (fail failure) Q E :=
  fun w hw => .inr ⟨failure, w, rfl, h _ hw⟩

theorem leads_report (h : ∀ failure s, P s → E failure s) (kind : FaultKind) (message : String)
    (context : Fields Value) (cause : Option Failure) :
    Leads P (report kind message context cause) Q E :=
  fun w hw => .inr ⟨_, w, rfl, h _ _ hw⟩

theorem leads_now : Leads P now (fun _ => P) E :=
  fun w hw => .inl ⟨w.now, w, rfl, hw⟩

theorem leads_state : Leads P state (fun a s => a = s ∧ P s) E :=
  fun w hw => .inl ⟨w.state, w, rfl, rfl, hw⟩

/-- A look at the state: from then on it is known. -/
theorem Leads.ofState {Q : β → σ → Prop} {f : σ → Effect σ β} (h : ∀ s, P s → Leads (fun t => t = s) (f s) Q E) :
    Leads P (state >>= f) Q E :=
  fun w hw => h w.state hw w rfl

theorem leads_setState (s : σ) : Leads P (setState s) (fun _ t => t = s) E :=
  fun w _ => .inl ⟨(), { w with state := s }, rfl, rfl⟩

theorem leads_log (level : LogLevel) (topic : Topic) (message : String) :
    Leads P (log level topic message) (fun _ => P) E :=
  fun _ hw => .inl ⟨(), _, rfl, hw⟩

theorem leads_logWith (level : LogLevel) (topic : Topic) (message : String) (facts : Value) :
    Leads P (logWith level topic message facts) (fun _ => P) E :=
  fun _ hw => .inl ⟨(), _, rfl, hw⟩

theorem leads_sleep (seconds : Number) : Leads P (sleep seconds) (fun _ => P) E :=
  fun _ hw => .inl ⟨(), _, rfl, hw⟩

theorem leads_ofExcept (outcome : Except Failure α) :
    Leads P (ofExcept outcome) (fun a s => outcome = .ok a ∧ P s)
      (fun failure s => outcome = .error failure ∧ P s) := by
  intro w hw
  cases outcome with
  | ok a => exact .inl ⟨a, w, rfl, rfl, hw⟩
  | error failure => exact .inr ⟨failure, w, rfl, rfl, hw⟩

theorem runIn_bind_ok {f : α → Effect σ β} {w w' : World σ} {a : α} (hrun : step.runIn w = (.ok a, w')) :
    (step >>= f).runIn w = (f a).runIn w' := by
  show (ExceptT.bindCont f (step.runIn w).1).run (step.runIn w).2 = _
  rw [hrun]
  rfl

theorem runIn_bind_error {f : α → Effect σ β} {w w' : World σ} {failure : Failure}
    (hrun : step.runIn w = (.error failure, w')) : (step >>= f).runIn w = (.error failure, w') := by
  show (ExceptT.bindCont f (step.runIn w).1).run (step.runIn w).2 = _
  rw [hrun]
  rfl

theorem runIn_attempt {w w' : World σ} {outcome : Except Failure α} (hrun : step.runIn w = (outcome, w')) :
    step.attempt.runIn w = (.ok outcome, w') := by
  have hattempt : step.attempt.runIn w = (.ok (step.runIn w).1, (step.runIn w).2) := rfl
  rw [hattempt, hrun]

theorem runIn_within {get : σ → ρ} {put : ρ → σ → σ} {step : Effect ρ α} {w : World σ} {w' : World ρ}
    {outcome : Except Failure α} (hrun : step.runIn { w with state := get w.state } = (outcome, w')) :
    (within get put step).runIn w = (outcome, { w' with state := put w'.state w.state }) := by
  have hwithin : (within get put step).runIn w =
      ((step.runIn { w with state := get w.state }).1, { (step.runIn { w with state := get w.state }).2 with
        state := put (step.runIn { w with state := get w.state }).2.state w.state }) := rfl
  rw [hwithin, hrun]

/-- A run of one step after another: the first fails and is all there is, or the second goes on where it ended. -/
theorem runIn_bind_cases {f : α → Effect σ β} {w w' : World σ} {outcome : Except Failure β}
    (hrun : (step >>= f).runIn w = (outcome, w')) :
    (∃ failure, step.runIn w = (.error failure, w') ∧ outcome = .error failure) ∨
      ∃ a v, step.runIn w = (.ok a, v) ∧ (f a).runIn v = (outcome, w') := by
  rcases hstep : step.runIn w with ⟨failure | a, v⟩
  · rw [runIn_bind_error hstep] at hrun
    cases hrun
    exact .inl ⟨failure, rfl, rfl⟩
  · rw [runIn_bind_ok hstep] at hrun
    exact .inr ⟨a, v, rfl, hrun⟩

/-- One step after another; what holds between them is named by `R`. -/
theorem Leads.bind {R : α → σ → Prop} {Q : β → σ → Prop} {f : α → Effect σ β}
    (first : Leads P step R E) (second : ∀ a, Leads (R a) (f a) Q E) :
    Leads P (step >>= f) Q E := by
  intro w hw
  rcases first w hw with ⟨a, w', hrun, hR⟩ | ⟨failure, w', hrun, hE⟩
  · rw [runIn_bind_ok hrun]
    exact second a w' hR
  · exact .inr ⟨failure, w', runIn_bind_error hrun, hE⟩

theorem Leads.map {Q : β → σ → Prop} {f : α → β} (h : Leads P step (fun a => Q (f a)) E) :
    Leads P (f <$> step) Q E :=
  show Leads P (step >>= fun a => pure (f a)) Q E from h.bind fun _ => leads_pure fun _ hs => hs

theorem Leads.discard {Q : Unit → σ → Prop} (h : Leads P step (fun _ => Q ()) E) :
    Leads P (Functor.discard step) Q E :=
  Leads.map h

/-- The outcome as a value: the failure of a step becomes one of its answers. -/
theorem Leads.attempt (h : Leads P step Q E) :
    Leads P step.attempt (fun outcome s => match outcome with
      | .ok a => Q a s
      | .error failure => E failure s) E' := by
  intro w hw
  rcases h w hw with ⟨a, w', hrun, hQ⟩ | ⟨failure, w', hrun, hE⟩
  · exact .inl ⟨.ok a, w', runIn_attempt hrun, hQ⟩
  · exact .inl ⟨.error failure, w', runIn_attempt hrun, hE⟩

/-- A step on a part of the state, with the rest of the state at hand. -/
theorem Leads.within {get : σ → ρ} {put : ρ → σ → σ} {step : Effect ρ α}
    (h : ∀ s, P s → Leads (fun r => r = get s) step (fun a r => Q a (put r s))
      (fun failure r => E failure (put r s))) :
    Leads P (Effect.within get put step) Q E := by
  intro w hw
  rcases h w.state hw { w with state := get w.state } rfl with ⟨a, w', hrun, hQ⟩ | ⟨failure, w', hrun, hE⟩
  · exact .inl ⟨a, _, runIn_within hrun, hQ⟩
  · exact .inr ⟨failure, _, runIn_within hrun, hE⟩

/-! ## 3. Loops -/

theorem leads_forIn (items : List β) (body : β → Effect σ PUnit)
    (h : ∀ item, Leads P (body item) (fun _ => P) E) :
    Leads P (forIn items PUnit.unit fun item _ => do body item; pure (ForInStep.yield PUnit.unit))
      (fun _ => P) E := by
  induction items with
  | nil => exact leads_pure fun _ hs => hs
  | cons item rest ih =>
    rw [List.forIn_cons]
    have first : Leads P (do body item; pure (ForInStep.yield PUnit.unit))
        (fun next s => next = .yield PUnit.unit ∧ P s) E :=
      (h item).bind fun _ w hw => .inl ⟨_, w, rfl, rfl, hw⟩
    refine first.bind ?_
    rintro next
    refine leads_of_fact ?_
    rintro rfl
    exact ih

/-- A loop makes its step and then goes on as the step says. -/
theorem runIn_repeatM [Nonempty β] (body : α → Effect σ (α ⊕ β)) (a : α) (w : World σ) :
    (repeatM body a).runIn w = (body a >>= Sum.elim (repeatM body) pure).runIn w := by
  have : Nonempty (World σ) := ⟨w⟩
  rw [repeatM_eq_of_monadTail]
  show (body a >>= _).runIn w = _
  congr 2
  funext next
  cases next <;> rfl

/-- A loop each step of which keeps the invariant `I` and comes closer to the end. -/
theorem leads_repeatM [Nonempty β] {I : α → σ → Prop} {Q : β → σ → Prop} {body : α → Effect σ (α ⊕ β)}
    (distance : α → Nat)
    (h : ∀ a, Leads (I a) (body a) (fun next s => match next with
      | .inl b => distance b < distance a ∧ I b s
      | .inr b => Q b s) E) (a : α) : Leads (I a) (repeatM body a) Q E := by
  induction hn : distance a using Nat.strongRecOn generalizing a with
  | _ n ih =>
    intro w hw
    rw [runIn_repeatM]
    refine (h a).bind ?_ w hw
    rintro (b | b)
    · exact leads_of_fact fun hcloser => ih (distance b) (hn ▸ hcloser) b rfl
    · exact leads_pure fun _ hs => hs

end Effect

/-- Trying again goes on from what a failed attempt leaves; the failure that is left is that of an attempt. -/
theorem RetryPolicy.leads_attemptFrom {σ α : Type} {P : σ → Prop} {Q : α → σ → Prop} {E : Failure → σ → Prop}
    (policy : RetryPolicy) {operation : Effect σ α} (description : String) (h : Effect.Leads P operation Q E)
    (hagain : ∀ failure s, E failure s → P s) (left attempt : Nat) :
    Effect.Leads P (policy.attemptFrom operation description left attempt) Q E := by
  induction left generalizing attempt with
  | zero =>
    rw [attemptFrom]
    refine Effect.Leads.bind h.attempt ?_
    rintro (failure | a)
    · show Effect.Leads (E failure) (if policy.retries failure then _ else _) _ _
      split
      · exact (Effect.leads_log _ _ _).bind fun _ => Effect.leads_fail fun _ hs => hs
      · exact Effect.leads_fail fun _ hs => hs
    · exact Effect.leads_pure fun _ hs => hs
  | succ left ih =>
    rw [attemptFrom]
    refine Effect.Leads.bind h.attempt ?_
    rintro (failure | a)
    · show Effect.Leads (E failure) (if policy.retries failure then _ else _) _ _
      split
      · refine (Effect.leads_log _ _ _).bind fun _ => (Effect.leads_sleep _).bind fun _ => ?_
        exact (ih (attempt + 1)).weaken (hagain failure) (fun _ _ hs => hs) fun _ _ hs => hs
      · exact Effect.leads_fail fun _ hs => hs
    · exact Effect.leads_pure fun _ hs => hs

theorem RetryPolicy.leads_run {σ α : Type} {P : σ → Prop} {Q : α → σ → Prop} {E : Failure → σ → Prop}
    (policy : RetryPolicy) {operation : Effect σ α} (description : String) (h : Effect.Leads P operation Q E)
    (hagain : ∀ failure s, E failure s → P s) : Effect.Leads P (policy.run operation description) Q E :=
  policy.leads_attemptFrom description h hagain _ _

/-- Combining records keeps the newest of each key, and changes nothing but the log. -/
theorem Dedup.leads_run {σ : Type} {P : σ → Prop} (records : List PreparedRecord) :
    Effect.Leads P (Dedup.run records) (fun winners s => (∃ now, Dedup.keep records now = .ok winners) ∧ P s)
      (fun _ => P) := by
  refine Effect.leads_now.bind fun now => ?_
  refine ((Effect.leads_ofExcept _).weaken (fun _ hs => hs) (fun _ _ hs => hs)
    fun _ _ hs => hs.2).bind fun winners => Effect.leads_of_fact fun hwinners => ?_
  dsimp only
  split
  · exact (Effect.leads_log _ _ _).bind fun _ => Effect.leads_pure fun _ hs => ⟨⟨now, hwinners⟩, hs⟩
  · exact Effect.leads_pure fun _ hs => ⟨⟨now, hwinners⟩, hs⟩

end TableSync
