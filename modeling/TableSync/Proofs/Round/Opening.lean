/-
  TableSync/Proofs/Round/Opening.lean
  ===================================
  **Opening a round** — every round that is created is the round of a plan.

  `Round.create` chooses a transformation and a key generator, puts the parts
  together and makes the write client at once if the schema is known.  A `Plan`
  says the same with a transformation and keys that may be anything, and without
  the lines that opening logs.  `Plan.create_parts` shows that nothing else
  is different, so a course may open its rounds the way a program does
  (`Course.begun`, `Course.created`).

  A transformation of settings computes, fails and logs, and that is the same
  step wherever it runs: `Site.inRest` goes through it down to its filters.
-/
import TableSync.Proofs.Round.Course

namespace TableSync

variable {τ ρ α β : Type}

/-! ## 1. Steps that are the same on a site -/

namespace Site

theorem inRest_pure (a : α) : inRest (pure a : Effect ρ α) = (pure a : Effect (Site τ ρ) α) := rfl

theorem inRest_fail (failure : Failure) :
    inRest (Effect.fail failure : Effect ρ α) = (Effect.fail failure : Effect (Site τ ρ) α) := rfl

theorem inRest_report (kind : FaultKind) (message : String) (context : Fields Value) (cause : Option Failure) :
    inRest (Effect.report kind message context cause : Effect ρ α) =
      (Effect.report kind message context cause : Effect (Site τ ρ) α) := rfl

theorem runIn_inRest {step : Effect ρ α} {w : World (Site τ ρ)} {outcome : Except Failure α} {v : World ρ}
    (hrun : step.runIn { w with state := w.state.rest } = (outcome, v)) :
    (inRest step).runIn w = (outcome, { v with state := { w.state with rest := v.state } }) := by
  have hwithin : (inRest step).runIn w = ((step.runIn { w with state := w.state.rest }).1,
      { (step.runIn { w with state := w.state.rest }).2 with
        state := { w.state with rest := (step.runIn { w with state := w.state.rest }).2.state } }) := rfl
  rw [hwithin, hrun]

theorem inRest_bind (step : Effect ρ α) (f : α → Effect ρ β) :
    (inRest (step >>= f) : Effect (Site τ ρ) β) = inRest step >>= fun a => inRest (f a) := by
  funext w
  show (inRest (step >>= f)).runIn w = (inRest step >>= fun a => inRest (f a)).runIn w
  rcases hfirst : step.runIn { w with state := w.state.rest } with ⟨failure | a, v⟩
  · rw [runIn_inRest (Effect.runIn_bind_error hfirst), Effect.runIn_bind_error (runIn_inRest hfirst)]
  · rcases hsecond : (f a).runIn v with ⟨outcome, v'⟩
    have hboth : (step >>= f).runIn { w with state := w.state.rest } = (outcome, v') := by
      rw [Effect.runIn_bind_ok hfirst, hsecond]
    rw [runIn_inRest hboth, Effect.runIn_bind_ok (runIn_inRest hfirst)]
    exact (runIn_inRest (w := { v with state := { w.state with rest := v.state } }) hsecond).symm

end Site

/-! ## 2. Transformations -/

namespace Transformation

theorem tellKept_inRest (height : Nat) (frame : Frame) :
    Site.inRest (tellKept height frame : Effect ρ Unit) = (tellKept height frame : Effect (Site τ ρ) Unit) := rfl

theorem applyFilter_inRest (text : Option String) (frame : Frame) (props : Record) :
    Site.inRest (applyFilter text frame props : Effect ρ Frame) =
      (applyFilter text frame props : Effect (Site τ ρ) Frame) := by
  unfold applyFilter
  dsimp only
  split
  · exact Site.inRest_report _ _ _ _
  · split
    · exact Site.inRest_pure frame
    · split
      · exact Site.inRest_report _ _ _ _
      · rw [Site.inRest_bind, tellKept_inRest, Site.inRest_fail]
      · rw [Site.inRest_bind, tellKept_inRest, Site.inRest_pure]

mutual

/-- A transformation is the same step on a site as beside it. -/
theorem apply_inRest (transformation : Transformation) (frame : Frame) (props : Record) :
    Site.inRest (transformation.apply frame props : Effect ρ Frame) =
      (transformation.apply frame props : Effect (Site τ ρ) Frame) := by
  cases transformation with
  | filter text => exact applyFilter_inRest text frame props
  | chain steps => exact applyAll_inRest steps frame props

theorem applyAll_inRest (steps : List Transformation) (frame : Frame) (props : Record) :
    Site.inRest (applyAll steps frame props : Effect ρ Frame) =
      (applyAll steps frame props : Effect (Site τ ρ) Frame) := by
  cases steps with
  | nil => exact Site.inRest_pure frame
  | cons step rest =>
    simp only [applyAll]
    rw [Site.inRest_bind, apply_inRest step]
    congr 1
    funext transformed
    exact applyAll_inRest rest transformed props

end

end Transformation

/-! ## 3. Creating a round -/

namespace Plan

variable {plan : Plan ρ} {inner : TableStore τ} {transformation : Option Transformation}
variable {generator : Option KeyGenerator}

/-- The parts of a round of a plan, with the transformation and the keys that settings may name instead. -/
def parts (plan : Plan ρ) (transformation : Option Transformation) (generator : Option KeyGenerator)
    (inner : TableStore τ) : RoundParts (Site τ ρ) where
  config := plan.config
  source := Site.source plan.source
  store := Site.store inner
  userProvider := plan.userProvider
  transformation := transformation
  generator := generator
  catalog := plan.catalog.map (trigger inner)
  recorder := plan.recorder.map Site.recorder
  retry := plan.retry
  onClientCreated client := Site.inRest (plan.announce client.config)

/-- The plan with a transformation and keys of settings. -/
def made (plan : Plan ρ) (transformation : Option Transformation) (generator : KeyGenerator) : Plan ρ :=
  { plan with
    transformer := transformation.map Transformation.apply
    keyOf := generator.key
    errorLogLimit := 100 }

/-- What is put together from the parts is the round of such a plan. -/
theorem assemble_parts {now : Timestamp} {round : Round (Site τ ρ)}
    (h : (plan.parts transformation generator inner).assemble now = .ok round) :
    ∃ chosen keys, round = (plan.made chosen keys).round inner := by
  obtain ⟨chosen, -, h⟩ := bind_eq_ok.mp h
  obtain ⟨keys, -, h⟩ := bind_eq_ok.mp h
  cases h
  refine ⟨chosen, keys, ?_⟩
  have htransformer : (chosen.map Transformation.apply).map
      (fun (transformer : Transformer ρ) frame props =>
        (Site.inRest (transformer frame props) : Effect (Site τ ρ) Frame)) = chosen.map Transformation.apply := by
    rw [Option.map_map]
    congr 1
    funext step frame props
    exact step.apply_inRest frame props
  show _ = Round.mk _ _ _ _ _ _ _ _
  rw [← htransformer]
  rfl

theorem setUp_of_none (h : plan.userProvider = none) : plan.setUp inner = pure () := by
  rw [setUp, h]

theorem setUp_of_some {provider : SchemaProvider} (h : plan.userProvider = some provider) :
    plan.setUp inner = discard ((plan.coordinator inner).ensureInitialized (some provider) false) := by
  rw [setUp, h]

/-- Creating a round fails with its parts, or sets the round of a plan up, with a line or two in the log. -/
theorem create_parts {w w' : World (CommitState (Site τ ρ))} {outcome : Except Failure (Round (Site τ ρ))}
    (hrun : (Round.create (plan.parts transformation generator inner)).runIn w = (outcome, w')) :
    (∃ failure, outcome = .error failure ∧ w' = w) ∨
      ∃ chosen keys log done, ((plan.made chosen keys).setUp inner).runIn { w with log } = (done, w') ∧
        outcome = done.map fun _ => (plan.made chosen keys).round inner := by
  have hnow : Effect.now.runIn w = (.ok w.now, w) := rfl
  unfold Round.create at hrun
  rw [Effect.runIn_bind_ok hnow] at hrun
  cases hassemble : (plan.parts transformation generator inner).assemble w.now with
  | error failure =>
    have hparts : (Effect.ofExcept ((plan.parts transformation generator inner).assemble w.now)).runIn w =
        (.error failure, w) := congrArg (·, w) hassemble
    rw [Effect.runIn_bind_error hparts] at hrun
    cases hrun
    exact .inl ⟨failure, rfl, rfl⟩
  | ok round =>
    have hparts : (Effect.ofExcept ((plan.parts transformation generator inner).assemble w.now)).runIn w =
        (.ok round, w) := congrArg (·, w) hassemble
    obtain ⟨chosen, keys, rfl⟩ := assemble_parts hassemble
    rw [Effect.runIn_bind_ok hparts] at hrun
    -- the lines that creating logs, up to the schema of the user
    have hopened : ∃ log, (do
        (plan.made chosen keys).setUp inner
        return (plan.made chosen keys).round inner : RoundStep (Site τ ρ) (Round (Site τ ρ))).runIn { w with log } =
          (outcome, w') := by
      cases hprovider : plan.userProvider with
      | none =>
        have hgiven : (plan.parts transformation generator inner).userProvider = none := hprovider
        have hmade : (plan.made chosen keys).userProvider = none := hprovider
        rw [hgiven] at hrun
        rw [setUp_of_none hmade]
        dsimp only at hrun
        split at hrun
        · exact ⟨_, hrun⟩
        · exact ⟨_, hrun⟩
      | some provider =>
        have hgiven : (plan.parts transformation generator inner).userProvider = some provider := hprovider
        have hmade : (plan.made chosen keys).userProvider = some provider := hprovider
        rw [hgiven] at hrun
        rw [setUp_of_some hmade]
        dsimp only at hrun
        split at hrun
        · exact ⟨_, hrun⟩
        · exact ⟨_, hrun⟩
    obtain ⟨log, hopened⟩ := hopened
    right
    rcases hsetUp : ((plan.made chosen keys).setUp inner).runIn { w with log } with ⟨failure | _, v⟩
    · rw [Effect.runIn_bind_error hsetUp] at hopened
      cases hopened
      exact ⟨chosen, keys, log, _, hsetUp, rfl⟩
    · rw [Effect.runIn_bind_ok hsetUp] at hopened
      cases hopened
      exact ⟨chosen, keys, log, _, hsetUp, rfl⟩

theorem create_ok {w w' : World (CommitState (Site τ ρ))} {round : Round (Site τ ρ)}
    (hrun : (Round.create (plan.parts transformation generator inner)).runIn w = (.ok round, w')) :
    ∃ chosen keys log, round = (plan.made chosen keys).round inner ∧
      ((plan.made chosen keys).setUp inner).runIn { w with log } = (.ok (), w') := by
  rcases create_parts hrun with ⟨failure, hfailed, -⟩ | ⟨chosen, keys, log, done, hsetUp, hmade⟩
  · cases hfailed
  · cases done with
    | error failure => cases hmade
    | ok _ => exact ⟨chosen, keys, log, Except.ok.inj hmade, hsetUp⟩

end Plan

/-! ## 4. Courses of created rounds -/

section Created

variable {allowed : Plan ρ → Prop} {shared : Prop} {history : List RoundRecord} {old plan : Plan ρ}
variable {w w' : RoundWorld ρ} {transformation : Option Transformation} {generator : Option KeyGenerator}
variable {round : Round (Site Exposed ρ)}

/-- A course begins with a round that is created in a blank world. -/
theorem Course.begun (hblank : w.IsBlank) (hallowed : ∀ chosen keys, allowed (plan.made chosen keys))
    (hrun : (Round.create (plan.parts transformation generator Exposed.tableStore)).runIn w = (.ok round, w')) :
    ∃ chosen keys, round = (plan.made chosen keys).round Exposed.tableStore ∧
      Course allowed shared [] (plan.made chosen keys) w' := by
  obtain ⟨chosen, keys, log, hround, hsetUp⟩ := Plan.create_ok hrun
  refine ⟨chosen, keys, hround, ?_⟩
  have hstart : RoundWorld.IsBlank { w with log } := hblank
  exact .opened (hallowed chosen keys) hstart hsetUp

/-- A course goes on with a round that is created in place of another. -/
theorem Course.created (hcourse : Course allowed shared history old w)
    (hallowed : ∀ chosen keys, allowed (plan.made chosen keys))
    (hrun : (Round.create (plan.parts transformation generator Exposed.tableStore)).runIn w.renewed = (.ok round, w')) :
    ∃ chosen keys, round = (plan.made chosen keys).round Exposed.tableStore ∧
      Course allowed shared history (plan.made chosen keys) w' := by
  obtain ⟨chosen, keys, log, hround, hsetUp⟩ := Plan.create_ok hrun
  refine ⟨chosen, keys, hround, ?_⟩
  have hdrifted := hcourse.drifted w.now log w.sleeps w.state.outside.inner.incidents w.state.outside.rest
  exact hdrifted.reopened (hallowed chosen keys) hsetUp

end Created

end TableSync
