/-
  TableSync/Proofs/Pairs.lean
  ===========================
  **Two runs side by side** — steps that end alike.

  `Effect.Pairs R step step' Q E` says: run in worlds related by `R`, clock and
  log included, the two steps both end with values, related by `Q` together with
  the worlds that they leave, or both with failures, related by `E`.  A step is
  `Blind` to a part of the state if replacing that part makes no difference to
  what it answers or does: its two runs stay together.  There is one rule for
  each way of making a step, as there is for single runs; a step on another
  part of the state is blind whatever it does (`Blind.within_other`).
-/
import TableSync.Proofs.Effect

namespace TableSync

namespace Effect

variable {σ ρ α β : Type}

/-! ## 1. Pairs of runs -/

/-- Run in worlds related by `R`, the steps both end with values and worlds related by `Q`, or both with failures and
worlds related by `E`. -/
def Pairs (R : World σ → World σ → Prop) (step step' : Effect σ α) (Q : α → α → World σ → World σ → Prop)
    (E : Failure → Failure → World σ → World σ → Prop) : Prop :=
  ∀ w v, R w v →
    (∃ a b w' v', step.runIn w = (.ok a, w') ∧ step'.runIn v = (.ok b, v') ∧ Q a b w' v') ∨
      ∃ failure failure' w' v', step.runIn w = (.error failure, w') ∧ step'.runIn v = (.error failure', v') ∧
        E failure failure' w' v'

variable {R R' : World σ → World σ → Prop} {Q Q' : α → α → World σ → World σ → Prop}
variable {E E' : Failure → Failure → World σ → World σ → Prop} {step step' : Effect σ α}

namespace Pairs

theorem weaken (h : Pairs R step step' Q E) (hR : ∀ w v, R' w v → R w v) (hQ : ∀ a b w v, Q a b w v → Q' a b w v)
    (hE : ∀ f f' w v, E f f' w v → E' f f' w v) : Pairs R' step step' Q' E' := by
  intro w v hstart
  rcases h w v (hR _ _ hstart) with ⟨a, b, w', v', hw, hv, hab⟩ | ⟨f, f', w', v', hw, hv, hf⟩
  · exact .inl ⟨a, b, w', v', hw, hv, hQ _ _ _ _ hab⟩
  · exact .inr ⟨f, f', w', v', hw, hv, hE _ _ _ _ hf⟩

theorem ofPure {a b : α} (h : ∀ w v, R w v → Q a b w v) : Pairs R (pure a) (pure b) Q E :=
  fun w v hwv => .inl ⟨a, b, w, v, rfl, rfl, h w v hwv⟩

theorem bind {S : β → β → World σ → World σ → Prop} {f f' : α → Effect σ β} (first : Pairs R step step' Q E)
    (second : ∀ a b, Pairs (Q a b) (f a) (f' b) S E) : Pairs R (step >>= f) (step' >>= f') S E := by
  intro w v hstart
  rcases first w v hstart with ⟨a, b, w', v', hw, hv, hab⟩ | ⟨failure, failure', w', v', hw, hv, hE⟩
  · rw [runIn_bind_ok hw, runIn_bind_ok hv]
    exact second a b w' v' hab
  · exact .inr ⟨failure, failure', w', v', runIn_bind_error hw, runIn_bind_error hv, hE⟩

theorem attempt (h : Pairs R step step' Q E) :
    Pairs R step.attempt step'.attempt (fun outcome outcome' w v => match outcome, outcome' with
      | .ok a, .ok b => Q a b w v
      | .error failure, .error failure' => E failure failure' w v
      | _, _ => False) E' := by
  intro w v hstart
  rcases h w v hstart with ⟨a, b, w', v', hw, hv, hab⟩ | ⟨failure, failure', w', v', hw, hv, hE⟩
  · exact .inl ⟨.ok a, .ok b, w', v', runIn_attempt hw, runIn_attempt hv, hab⟩
  · exact .inl ⟨.error failure, .error failure', w', v', runIn_attempt hw, runIn_attempt hv, hE⟩

theorem ofFail {failure failure' : Failure} (h : ∀ w v, R w v → E failure failure' w v) :
    Pairs R (fail failure) (fail failure') Q E :=
  fun w v hwv => .inr ⟨failure, failure', w, v, rfl, rfl, h w v hwv⟩

end Pairs

/-! ## 2. Blind steps -/

/-- The worlds are the same, but for the part of the state that `change` replaces. -/
def Apart (change : σ → σ) (I : σ → Prop) (w v : World σ) : Prop :=
  I w.state ∧ v = { w with state := change w.state }

/-- The step answers and does the same when the part is replaced, and its answer satisfies `V`. -/
def Blind (change : σ → σ) (I : σ → Prop) (step : Effect σ α) (V : α → Prop) : Prop :=
  Pairs (Apart change I) step step (fun a b w v => a = b ∧ V a ∧ Apart change I w v) fun failure failure' w v =>
    failure = failure' ∧ Apart change I w v

variable {change : σ → σ} {I : σ → Prop} {V : α → Prop}

namespace Blind

theorem mono {V' : α → Prop} (h : Blind change I step V) (hV : ∀ a, V a → V' a) : Blind change I step V' :=
  Pairs.weaken h (fun _ _ hwv => hwv) (fun a _ _ _ hab => ⟨hab.1, hV a hab.2.1, hab.2.2⟩) fun _ _ _ _ hf => hf

/-- After a blind step two runs that began alike go on from worlds that are the same but for the part. -/
theorem after {S : β → β → World σ → World σ → Prop} {f f' : α → Effect σ β} (first : Blind change I step V)
    (hE : ∀ failure w v, Apart change I w v → E failure failure w v)
    (second : ∀ a, V a → Pairs (Apart change I) (f a) (f' a) S E) :
    Pairs (Apart change I) (step >>= f) (step >>= f') S E := by
  refine Pairs.bind (Pairs.weaken first (fun _ _ hwv => hwv) (fun _ _ _ _ hab => hab) ?_) fun a b => ?_
  · rintro failure _ w v ⟨rfl, hwv⟩
    exact hE failure w v hwv
  · rintro w v ⟨rfl, ha, hwv⟩
    exact second a ha w v hwv

theorem bind {V' : β → Prop} {f : α → Effect σ β} (first : Blind change I step V)
    (second : ∀ a, V a → Blind change I (f a) V') : Blind change I (step >>= f) V' :=
  first.after (fun _ _ _ hwv => ⟨rfl, hwv⟩) second

theorem ofPure {a : α} (h : V a) : Blind change I (pure a) V :=
  Pairs.ofPure fun _ _ hwv => ⟨rfl, h, hwv⟩

/-- A step that neither looks at the state nor changes it. -/
theorem of_steady (h : ∀ w s, step.runIn { w with state := s } = ((step.runIn w).1, { (step.runIn w).2 with state := s })) :
    Blind change I step fun _ => True := by
  rintro w _ ⟨hI, rfl⟩
  have hsame : (step.runIn w).2.state = w.state := by
    have hself := h w w.state
    exact congrArg (fun answer => answer.2.state) hself
  have hother := h w (change w.state)
  rcases hrun : step.runIn w with ⟨failure | a, w'⟩
  · rw [hrun] at hsame hother
    refine .inr ⟨failure, failure, w', _, rfl, hother, rfl, ?_⟩
    rw [← show w'.state = w.state from hsame]
    exact ⟨hsame ▸ hI, rfl⟩
  · rw [hrun] at hsame hother
    refine .inl ⟨a, a, w', _, rfl, hother, rfl, trivial, ?_⟩
    rw [← show w'.state = w.state from hsame]
    exact ⟨hsame ▸ hI, rfl⟩

theorem now : Blind change I now fun _ => True := of_steady fun _ _ => rfl

theorem ofLog (level : LogLevel) (topic : Topic) (message : String) :
    Blind change I (log level topic message) fun _ => True := of_steady fun _ _ => rfl

theorem ofSleep (seconds : Number) : Blind change I (sleep seconds) fun _ => True := of_steady fun _ _ => rfl

theorem ofFail (failure : Failure) : Blind change I (fail failure) V :=
  Pairs.ofFail fun _ _ hwv => ⟨rfl, hwv⟩

theorem ofReport (kind : FaultKind) (message : String) (context : Fields Value) (cause : Option Failure) :
    Blind change I (report kind message context cause) V := by
  rintro w _ ⟨hI, rfl⟩
  exact .inr ⟨_, _, w, _, rfl, rfl, rfl, hI, rfl⟩

theorem ofExcept (outcome : Except Failure α) : Blind change I (ofExcept outcome) fun a => outcome = .ok a := by
  intro w v hwv
  cases outcome with
  | ok a => exact .inl ⟨a, a, w, v, rfl, rfl, rfl, rfl, hwv⟩
  | error failure => exact .inr ⟨failure, failure, w, v, rfl, rfl, rfl, hwv⟩

theorem attempt (h : Blind change I step V) : Blind change I step.attempt fun outcome => ∀ a, outcome = .ok a → V a := by
  refine (Pairs.attempt h).weaken (fun _ _ hwv => hwv) ?_ fun _ _ _ _ hf => hf
  rintro (failure | a) (failure' | b) w v hend
  · exact ⟨congrArg Except.error hend.1, nofun, hend.2⟩
  · exact hend.elim
  · exact hend.elim
  · refine ⟨congrArg Except.ok hend.1, ?_, hend.2.2⟩
    rintro _ ⟨⟩
    exact hend.2.1

/-- A look at the state that does not show the part. -/
theorem ofState {V' : β → Prop} {f : σ → Effect σ β} (hf : ∀ s, f (change s) = f s)
    (h : ∀ s, I s → Blind change I (f s) V') : Blind change I (state >>= f) V' := by
  rintro w _ ⟨hI, rfl⟩
  have hlook := h w.state hI w _ ⟨hI, rfl⟩
  have hother : ∀ v : World σ, v.state = change w.state → (state >>= f).runIn v = (f w.state).runIn v := by
    intro v hv
    have hstate : (state : Effect σ σ).runIn v = (.ok v.state, v) := rfl
    rw [runIn_bind_ok hstate, hv, hf]
  have hfirst : (state >>= f).runIn w = (f w.state).runIn w := rfl
  rw [hfirst, hother _ rfl]
  exact hlook

theorem ofUpdate {f : σ → σ} (hf : ∀ s, f (change s) = change (f s)) (hI : ∀ s, I s → I (f s)) :
    Blind change I (do setState (f (← state))) fun _ => True := by
  rintro w _ ⟨hw, rfl⟩
  refine .inl ⟨(), (), { w with state := f w.state }, { w with state := f (change w.state) }, rfl, rfl, rfl, trivial,
    hI _ hw, ?_⟩
  rw [hf]

theorem within {change' : ρ → ρ} {I' : ρ → Prop} {get : σ → ρ} {put : ρ → σ → σ} {step : Effect ρ α}
    (h : Blind change' I' step V) (hget : ∀ s, get (change s) = change' (get s))
    (hput : ∀ r s, put (change' r) (change s) = change (put r s)) (hI : ∀ s, I s → I' (get s))
    (hI' : ∀ r s, I s → I' r → I (put r s)) : Blind change I (Effect.within get put step) V := by
  rintro w _ ⟨hw, rfl⟩
  have hstart : Apart change' I' { w with state := get w.state } { w with state := get (change w.state) } :=
    ⟨hI _ hw, by rw [hget]⟩
  rcases h _ _ hstart with ⟨a, b, w', v', hrun, hrun', rfl, ha, hw', rfl⟩ | ⟨f, f', w', v', hrun, hrun', rfl, hw', rfl⟩
  · refine .inl ⟨a, a, _, _, runIn_within hrun, runIn_within hrun', rfl, ha, hI' _ _ hw hw', ?_⟩
    rw [hput]
  · refine .inr ⟨f, f, _, _, runIn_within hrun, runIn_within hrun', rfl, hI' _ _ hw hw', ?_⟩
    rw [hput]

theorem any (step : Effect σ α) : Blind (fun s => s) (fun _ => True) step fun _ => True := by
  rintro w _ ⟨-, rfl⟩
  rcases hrun : step.runIn w with ⟨failure | a, w'⟩
  · exact .inr ⟨failure, failure, w', w', rfl, rfl, rfl, trivial, rfl⟩
  · exact .inl ⟨a, a, w', w', rfl, rfl, rfl, trivial, trivial, rfl⟩

/-- A step on another part of the state may be any. -/
theorem within_other {get : σ → ρ} {put : ρ → σ → σ} (step : Effect ρ α) (hget : ∀ s, get (change s) = get s)
    (hput : ∀ r s, put r (change s) = change (put r s)) (hI : ∀ r s, I s → I (put r s)) :
    Blind change I (Effect.within get put step) fun _ => True :=
  within (any step) hget hput (fun _ _ => trivial) fun r s hs _ => hI r s hs

theorem forIn (items : List β) (body : β → Effect σ PUnit) (h : ∀ item, Blind change I (body item) fun _ => True) :
    Blind change I (forIn items PUnit.unit fun item _ => do body item; pure (ForInStep.yield PUnit.unit))
      fun _ => True := by
  induction items with
  | nil => exact ofPure trivial
  | cons item rest ih =>
    rw [List.forIn_cons]
    have first : Blind change I (do body item; pure (ForInStep.yield PUnit.unit))
        fun next => next = ForInStep.yield PUnit.unit := (h item).bind fun _ _ => ofPure rfl
    refine first.bind ?_
    rintro _ rfl
    exact ih

end Blind

end Effect

theorem RetryPolicy.run_blind {σ α : Type} {change : σ → σ} {I : σ → Prop} (policy : RetryPolicy)
    {operation : Effect σ α} (description : String) (h : Effect.Blind change I operation fun _ => True) :
    Effect.Blind change I (policy.run operation description) fun _ => True := by
  have hattempts : ∀ left attempt,
      Effect.Blind change I (policy.attemptFrom operation description left attempt) fun _ => True := by
    intro left
    induction left with
    | zero =>
      intro attempt
      rw [attemptFrom]
      refine h.attempt.bind ?_
      rintro (failure | a) -
      · dsimp only
        split
        · exact (Effect.Blind.ofLog _ _ _).bind fun _ _ => Effect.Blind.ofFail _
        · exact Effect.Blind.ofFail _
      · exact Effect.Blind.ofPure trivial
    | succ left ih =>
      intro attempt
      rw [attemptFrom]
      refine h.attempt.bind ?_
      rintro (failure | a) -
      · dsimp only
        split
        · exact (Effect.Blind.ofLog _ _ _).bind fun _ _ => (Effect.Blind.ofSleep _).bind fun _ _ => ih (attempt + 1)
        · exact Effect.Blind.ofFail _
      · exact Effect.Blind.ofPure trivial
  exact hattempts _ _

theorem Dedup.run_blind {σ : Type} {change : σ → σ} {I : σ → Prop} (records : List PreparedRecord) :
    Effect.Blind change I (Dedup.run records) fun _ => True := by
  refine Effect.Blind.now.bind fun now _ => (Effect.Blind.ofExcept _).bind fun winners _ => ?_
  dsimp only
  split
  · exact (Effect.Blind.ofLog _ _ _).bind fun _ _ => Effect.Blind.ofPure trivial
  · exact Effect.Blind.ofPure trivial

end TableSync
