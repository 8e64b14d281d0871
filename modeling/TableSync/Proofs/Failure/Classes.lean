/-
  TableSync/Proofs/Failure/Classes.lean
  =====================================
  **Classes of failures** — a class takes in a kind and every kind below it.

  A kind may have several kinds directly above it, and these have others above
  them.  `Climbs` is the whole way up, of any length and along any branch; the
  list of ancestors goes up three steps.  That nothing is left out is seen on
  the two tables of kinds: what is directly above an ancestor is an ancestor
  (`mem_withinThree_iff`).  So a failure is of a class exactly if it belongs to it
  (`Failure.isOf_iff`).
-/
import Mathlib.Logic.Relation
import TableSync.Failure.Basic

namespace TableSync

/-! ## 1. The way up -/

section Climbs

variable {Kind : Type} {parents : Kind → List Kind} {kind other : Kind}

/-- From a kind one comes to another by going up, any number of times. -/
def Climbs (parents : Kind → List Kind) : Kind → Kind → Prop :=
  Relation.ReflTransGen fun kind above => above ∈ parents kind

theorem climbs_flatMap {kinds : List Kind} (h : ∀ below ∈ kinds, Climbs parents kind below) :
    ∀ above ∈ kinds.flatMap parents, Climbs parents kind above := by
  intro above habove
  obtain ⟨below, hbelow, hstep⟩ := List.mem_flatMap.1 habove
  exact (h below hbelow).tail hstep

variable [DecidableEq Kind]

theorem climbs_of_mem (h : other ∈ withinThree parents kind) : Climbs parents kind other := by
  have hself : ∀ below ∈ [kind], Climbs parents kind below := List.forall_mem_singleton.2 .refl
  have hfirst := climbs_flatMap hself
  have hsecond := climbs_flatMap hfirst
  have hthird := climbs_flatMap hsecond
  rcases List.mem_cons.1 (List.mem_eraseDups.1 h) with rfl | hmem
  · exact .refl
  · rcases List.mem_append.1 hmem with hmem | hmem
    · rcases List.mem_append.1 hmem with hmem | hmem
      · exact hfirst other hmem
      · exact hsecond other hmem
    · exact hthird other hmem

/-- Three steps are enough where the kinds that they lead to are closed under going up. -/
theorem mem_withinThree_iff (hclosed : ∀ below ∈ withinThree parents kind, ∀ above ∈ parents below,
    above ∈ withinThree parents kind) : other ∈ withinThree parents kind ↔ Climbs parents kind other := by
  refine ⟨climbs_of_mem, fun h => ?_⟩
  induction h with
  | refl => exact List.mem_eraseDups.2 List.mem_cons_self
  | tail _ hstep ih => exact hclosed _ ih _ hstep

end Climbs

/-! ## 2. The two hierarchies -/

theorem FaultKind.mem_all (kind : FaultKind) : kind ∈ all := by
  cases kind <;> decide

theorem OutsideKind.mem_all (kind : OutsideKind) : kind ∈ all := by
  cases kind <;> decide

theorem FaultKind.isA_iff {kind other : FaultKind} : kind.isA other = true ↔ Climbs parents kind other := by
  have hclosed : ∀ kind ∈ all, ∀ below ∈ withinThree parents kind, ∀ above ∈ parents below,
      above ∈ withinThree parents kind := by decide +kernel
  exact List.contains_iff_mem.trans (mem_withinThree_iff (hclosed kind kind.mem_all))

theorem OutsideKind.isA_iff {kind other : OutsideKind} : kind.isA other = true ↔ Climbs parents kind other := by
  have hclosed : ∀ kind ∈ all, ∀ below ∈ withinThree parents kind, ∀ above ∈ parents below,
      above ∈ withinThree parents kind := by decide +kernel
  exact List.contains_iff_mem.trans (mem_withinThree_iff (hclosed kind kind.mem_all))

/-! ## 3. Failures -/

namespace Failure

/-- The failure belongs to the class: the class takes in everything, or the kind of the failure lies below its kind.
An input that does not fit is a failure of value. -/
inductive Belongs : Failure → FailureClass → Prop where
  | any (failure : Failure) : Belongs failure .any
  | fault {kind other : FaultKind} {message : String} {context : List (String × Value)} {raisedAt : Timestamp}
      {hints : RetryHints} {cause : Option Failure} (below : Climbs FaultKind.parents kind other) :
      Belongs (.fault kind message context raisedAt hints cause) (.fault other)
  | outside {kind other : OutsideKind} {message : String} {ours : Bool}
      (below : Climbs OutsideKind.parents kind other) : Belongs (.outside kind message ours) (.outside other)
  | invalid {model : String} {violations : List Violation} : Belongs (.invalid model violations) (.outside .value)

theorem isOf_iff {failure : Failure} {scope : FailureClass} : failure.isOf scope = true ↔ failure.Belongs scope := by
  constructor
  · intro h
    cases scope with
    | any => exact .any failure
    | fault other =>
      cases failure with
      | fault kind => exact .fault (FaultKind.isA_iff.1 h)
      | outside => cases h
      | invalid => cases h
    | outside other =>
      cases failure with
      | fault => cases h
      | outside kind => exact .outside (OutsideKind.isA_iff.1 h)
      | invalid =>
        obtain rfl : other = .value := by simpa [isOf] using h
        exact .invalid
  · rintro (_ | below | below | _)
    · rfl
    · exact FaultKind.isA_iff.2 below
    · exact OutsideKind.isA_iff.2 below
    · rfl

end Failure

end TableSync
