/-
  TableSync/Proofs/Commit/Complaints.lean
  =======================================
  **What the log tells of refused records** — failed partitions and refused
  keys, with a cap on the keys.

  A `Complaint` is what one line is about: a partition that failed as a whole,
  or one key that was refused.  The failed partitions of a write and their keys,
  one after the other, make one list of complaints, and the cap cuts this list
  where enough keys have been told (`Complaint.upTo`).  That the lines of
  partitions and of keys stop at the same place, whichever of them the cap is
  met in, is `errorLines_eq`; it rests on `upTo_append`, by which a partition
  hands what is left of the cap to the next one.

  A partition may also fail without a word.  It counts as failed for nothing
  else than its complaint, but the text of that is empty, and the log has no
  line for it.
-/
import TableSync.Proofs.Commit.Protocol

namespace TableSync

/-! ## 1. Complaints -/

/-- What is told of a write: a partition failed as a whole, or a key was refused. -/
inductive Complaint where
  | ofPartition (error : String)
  | ofKey (key error : String)
deriving DecidableEq, Repr

namespace Complaint

def line : Complaint → String
  | ofPartition error => "Global error : " ++ error
  | ofKey key error => "Error for key:" ++ key ++ " is " ++ error

theorem line_ofPartition (error : String) : line (ofPartition error) = "Global error : " ++ error := rfl

theorem line_ofKey (key error : String) : line (ofKey key error) = "Error for key:" ++ key ++ " is " ++ error := rfl

/-- The refused key and why it was refused, of a complaint about a key. -/
def key? : Complaint → Option (String × String)
  | ofPartition _ => none
  | ofKey key error => some (key, error)

def keys (complaints : List Complaint) : List (String × String) := complaints.filterMap key?

/-- The complaint has something to say: one about a key always names the key. -/
def worded : Complaint → Bool
  | ofPartition error => !error.isEmpty
  | ofKey _ _ => true

theorem worded_iff {complaint : Complaint} : complaint.worded = true ↔ complaint ≠ ofPartition "" := by
  cases complaint with
  | ofPartition error => simp [worded]
  | ofKey key error => simp [worded]

/-- The complaints that come before the cap: fewer than `n` keys stand before each of them. -/
def upTo : Nat → List Complaint → List Complaint
  | 0, _ => []
  | _ + 1, [] => []
  | n + 1, ofPartition error :: rest => ofPartition error :: upTo (n + 1) rest
  | n + 1, ofKey key error :: rest => ofKey key error :: upTo n rest

end Complaint

/-- The complaint about a partition as a whole, if there is one, and those about its keys. -/
def WriteStatus.complaints (status : WriteStatus) : List Complaint :=
  status.globalError.toList.map .ofPartition ++ status.errors.map fun entry => .ofKey entry.1 entry.2

def complaintsOf (statuses : List WriteStatus) : List Complaint := statuses.flatMap WriteStatus.complaints

/-- The refused keys of partitions, in the order of the partitions. -/
def refusedKeys (statuses : List WriteStatus) : List (String × String) := statuses.flatMap WriteStatus.errors

namespace Complaint

@[simp] theorem keys_nil : keys [] = [] := rfl

@[simp] theorem keys_ofPartition (error : String) (rest : List Complaint) :
    keys (ofPartition error :: rest) = keys rest := rfl

@[simp] theorem keys_ofKey (key error : String) (rest : List Complaint) :
    keys (ofKey key error :: rest) = (key, error) :: keys rest := rfl

theorem keys_append (first rest : List Complaint) : keys (first ++ rest) = keys first ++ keys rest :=
  List.filterMap_append

theorem keys_ofKeys (entries : List (String × String)) :
    keys (entries.map fun entry => ofKey entry.1 entry.2) = entries := by
  induction entries with
  | nil => rfl
  | cons entry rest ih => simp [ih]

theorem keys_complaints (status : WriteStatus) : keys status.complaints = status.errors := by
  unfold WriteStatus.complaints
  cases status.globalError with
  | none => simp [keys_ofKeys]
  | some error => simp [keys_ofKeys]

theorem keys_complaintsOf (statuses : List WriteStatus) : keys (complaintsOf statuses) = refusedKeys statuses := by
  induction statuses with
  | nil => rfl
  | cons status rest ih =>
    simp only [complaintsOf, refusedKeys, List.flatMap_cons] at ih ⊢
    rw [keys_append, keys_complaints, ih]

/-! ## 2. The cap -/

section UpTo

variable (n : Nat) (complaints : List Complaint)

@[simp] theorem upTo_zero : upTo 0 complaints = [] := by simp [upTo]

@[simp] theorem upTo_nil : upTo n [] = [] := by
  cases n <;> simp [upTo]

theorem upTo_isPrefix : upTo n complaints <+: complaints := by
  fun_induction upTo n complaints with
  | case1 complaints => exact List.nil_prefix
  | case2 n => exact List.nil_prefix
  | case3 n error rest ih => exact List.cons_prefix_cons.mpr ⟨rfl, ih⟩
  | case4 n key error rest ih => exact List.cons_prefix_cons.mpr ⟨rfl, ih⟩

theorem keys_upTo : keys (upTo n complaints) = (keys complaints).take n := by
  fun_induction upTo n complaints with
  | case1 complaints => simp
  | case2 n => simp
  | case3 n error rest ih => simp [ih]
  | case4 n key error rest ih => simp [ih]

/-- What comes later has what is left of the cap. -/
theorem upTo_append (later : List Complaint) :
    upTo n (complaints ++ later) = upTo n complaints ++ upTo (n - (keys complaints).length) later := by
  fun_induction upTo n complaints with
  | case1 complaints => simp
  | case2 n => simp
  | case3 n error rest ih => simp [upTo, ih]
  | case4 n key error rest ih => simp [upTo, ih]

/-- Where fewer keys stand than the cap, nothing is cut. -/
theorem upTo_eq_self {n : Nat} {complaints : List Complaint} (h : (keys complaints).length < n) :
    upTo n complaints = complaints := by
  fun_induction upTo n complaints with
  | case1 complaints => exact absurd h (Nat.not_lt_zero _)
  | case2 n => rfl
  | case3 n error rest ih => rw [ih h]
  | case4 n key error rest ih => rw [ih (Nat.lt_of_succ_lt_succ h)]

/-- A complaint comes before the cap exactly if fewer keys than that stand before it. -/
theorem prefix_upTo_iff (earlier : List Complaint) (complaint : Complaint) (later : List Complaint) :
    earlier ++ [complaint] <+: upTo n (earlier ++ complaint :: later) ↔ (keys earlier).length < n := by
  rw [upTo_append]
  constructor
  · intro h
    by_contra hmet
    rw [Nat.sub_eq_zero_of_le (Nat.le_of_not_lt hmet), upTo_zero, List.append_nil] at h
    have hlong := h.length_le
    have hshort := (upTo_isPrefix n earlier).length_le
    simp only [List.length_append, List.length_singleton] at hlong
    omega
  · intro h
    obtain ⟨left, hleft⟩ : ∃ left, n - (keys earlier).length = left + 1 := ⟨n - (keys earlier).length - 1, by omega⟩
    rw [upTo_eq_self h, hleft]
    apply (List.prefix_append_right_inj earlier).mpr
    cases complaint with
    | ofPartition error => simp [upTo]
    | ofKey key error => simp [upTo]

theorem upTo_ofKeys (entries : List (String × String)) :
    upTo n (entries.map fun entry => ofKey entry.1 entry.2) =
      (entries.take n).map fun entry => ofKey entry.1 entry.2 := by
  induction entries generalizing n with
  | nil => simp
  | cons entry rest ih =>
    cases n with
    | zero => simp
    | succ n => simp [upTo, ih]

end UpTo

/-- Of a partition, the failure as a whole is told as soon as any key may be told. -/
theorem upTo_complaints (n : Nat) (status : WriteStatus) :
    upTo (n + 1) status.complaints = status.globalError.toList.map ofPartition ++
      (status.errors.take (n + 1)).map fun entry => ofKey entry.1 entry.2 := by
  unfold WriteStatus.complaints
  cases status.globalError with
  | none => exact upTo_ofKeys (n + 1) status.errors
  | some error => exact congrArg (ofPartition error :: ·) (upTo_ofKeys (n + 1) status.errors)

end Complaint

open Complaint

/-! ## 3. The lines -/

/-- What a log with a cap of `n` keys tells of a write: of the complaints of the failed partitions, in their order, up
to `n` about keys, and those about partitions before which fewer than `n` keys stand. -/
structure Capped (n : Nat) (outcome : WriteOutcome) (told : List Complaint) : Prop where
  inOrder : told <+: complaintsOf outcome.errorStatuses
  keys : keys told = (refusedKeys outcome.errorStatuses).take n
  partitions : ∀ before status after error, outcome.errorStatuses = before ++ status :: after →
    status.globalError = some error →
    (complaintsOf before ++ [.ofPartition error] <+: told ↔ (refusedKeys before).length < n)

theorem capped_upTo (n : Nat) (outcome : WriteOutcome) :
    Capped n outcome (upTo n (complaintsOf outcome.errorStatuses)) where
  inOrder := upTo_isPrefix n _
  keys := by rw [keys_upTo, keys_complaintsOf]
  partitions := by
    intro before status after error hsplit herror
    have hcomplaints : complaintsOf outcome.errorStatuses =
        complaintsOf before ++ .ofPartition error :: (status.errors.map (fun entry => .ofKey entry.1 entry.2) ++
          complaintsOf after) := by
      simp [hsplit, complaintsOf, WriteStatus.complaints, herror]
    rw [hcomplaints, prefix_upTo_iff, keys_complaintsOf]

namespace Coordinator

variable {σ : Type}

theorem lines_ofKeys (entries : List (String × String)) :
    ((entries.map fun entry => Complaint.ofKey entry.1 entry.2).filter worded).map line =
      entries.map fun entry => "Error for key:" ++ entry.1 ++ " is " ++ entry.2 := by
  induction entries with
  | nil => rfl
  | cons entry rest ih =>
    have hworded : worded (.ofKey entry.1 entry.2) = true := rfl
    rw [List.map_cons, List.filter_cons_of_pos hworded, List.map_cons, List.map_cons, ih, line_ofKey]

/-- A partition is told of up to the cap, and the next ones have what its keys leave of the cap. -/
theorem errorLines_cons (n : Nat) (status : WriteStatus) (rest : List WriteStatus) :
    errorLines (n + 1) (status :: rest) = ((upTo (n + 1) status.complaints).filter worded).map line ++
      errorLines (n + 1 - status.errors.length) rest := by
  have hleft : n + 1 - min (n + 1) status.errors.length = n + 1 - status.errors.length := by omega
  rw [upTo_complaints, List.filter_append, List.map_append, lines_ofKeys]
  simp only [errorLines, List.length_map, List.length_take, hleft]
  cases status.globalError with
  | none => simp
  | some error =>
    cases hempty : error.isEmpty with
    | true => simp [worded, hempty]
    | false => simp [worded, line_ofPartition, hempty]

/-- The lines of all partitions are those of the complaints cut once, at the cap. -/
theorem errorLines_eq (n : Nat) (statuses : List WriteStatus) :
    errorLines n statuses = ((upTo n (complaintsOf statuses)).filter worded).map line := by
  induction statuses generalizing n with
  | nil => cases n <;> rfl
  | cons status rest ih =>
    cases n with
    | zero => simp [errorLines]
    | succ n =>
      have hsplit : complaintsOf (status :: rest) = status.complaints ++ complaintsOf rest := List.flatMap_cons
      rw [errorLines_cons, hsplit, upTo_append, keys_complaints, List.filter_append, List.map_append, ih]

/-- The last key of a partition meets the cap, so that the next partition, which failed as a whole, is not told of. -/
example : errorLines 1 [{ totalErrorRecords := 1, errors := [("k0", "bad")] }, { globalError := some "disk full" }] =
    ["Error for key:k0 is bad"] := by
  decide

end Coordinator

/-! ## 4. The log -/

/-- The world once messages about errors are logged. -/
def World.withErrors {σ : Type} (w : World σ) (messages : List String) : World σ :=
  { w with log := w.log ++ messages.map fun message => { level := .error, topic := .coordinator, message } }

theorem World.withErrors_withErrors {σ : Type} (w : World σ) (first rest : List String) :
    (w.withErrors first).withErrors rest = w.withErrors (first ++ rest) := by
  simp only [withErrors, List.map_append, List.append_assoc]

namespace Coordinator

theorem say_runIn (message : String) (w : World (CommitState σ)) :
    (say .error message).runIn w = (.ok (), w.withErrors [message]) := rfl

/-- A loop that logs messages ends with all of them in the log, and changes nothing else. -/
theorem forIn_say_runIn (messages : List String) (w : World (CommitState σ)) :
    (forIn messages PUnit.unit fun message _ => do
      say .error message
      pure (ForInStep.yield PUnit.unit)).runIn w = (.ok PUnit.unit, w.withErrors messages) := by
  induction messages generalizing w with
  | nil =>
    rw [World.withErrors, List.map_nil, List.append_nil]
    rfl
  | cons message rest ih =>
    have hfirst : (do
        say .error message
        pure (ForInStep.yield PUnit.unit)).runIn w = (.ok (.yield PUnit.unit), w.withErrors [message]) := rfl
    rw [List.forIn_cons, Effect.runIn_bind_ok hfirst]
    exact (ih _).trans (congrArg _ (w.withErrors_withErrors [message] rest))

variable {coordinator : Coordinator σ} {outcome : WriteOutcome} {w : World (CommitState σ)}
variable {told other : List Complaint}

/-- The log names the cap, and then has a line for each of the complaints. Nothing else happens. -/
def Tells (coordinator : Coordinator σ) (outcome : WriteOutcome) (w : World (CommitState σ))
    (told : List Complaint) : Prop :=
  (coordinator.logErrors outcome).runIn w = (.ok (), w.withErrors
    (("Printing out the top " ++ toString coordinator.errorLogLimit ++ " errors") :: told.map line))

theorem Tells.length_eq (h : coordinator.Tells outcome w told) (hother : coordinator.Tells outcome w other) :
    told.length = other.length := by
  have hworlds := (Prod.mk.inj (h.symm.trans hother)).2
  have hlogs := congrArg (fun v => v.log.length) hworlds
  simpa [World.withErrors] using hlogs

theorem logErrors_tells (coordinator : Coordinator σ) (outcome : WriteOutcome) (w : World (CommitState σ)) :
    coordinator.Tells outcome w
      ((upTo coordinator.errorLogLimit.toNat (complaintsOf outcome.errorStatuses)).filter worded) := by
  unfold Tells
  rw [← errorLines_eq, logErrors, Effect.runIn_bind_ok (say_runIn _ w), Effect.runIn_bind_ok (forIn_say_runIn _ _),
    World.withErrors_withErrors]
  rfl

/-- **The cap of the error log.** For every outcome of a write and every cap, the log tells of the first refused keys of
the failed partitions, as many as the cap allows, and of each partition that failed as a whole before the cap was met,
unless it failed without a word: of that there is no line. So all that the cap allows is told exactly if no such failure
is among it. -/
theorem logErrors_capped (coordinator : Coordinator σ) (outcome : WriteOutcome) (w : World (CommitState σ)) :
    ∃ told, Capped coordinator.errorLogLimit.toNat outcome told ∧
      coordinator.Tells outcome w (told.filter worded) ∧
      (coordinator.Tells outcome w told ↔ .ofPartition "" ∉ told) := by
  have htells := logErrors_tells coordinator outcome w
  refine ⟨_, capped_upTo _ outcome, htells, ?_⟩
  constructor
  · intro hall
    have hworded := List.length_filter_eq_length_iff.mp (htells.length_eq hall)
    intro hmem
    cases hworded _ hmem
  · intro hnone
    rwa [List.filter_eq_self.mpr fun complaint hmem => worded_iff.mpr fun h => hnone (h ▸ hmem)] at htells

/-- One partition refuses a record; another one fails without a word, and refuses none. -/
def wordlessOutcome : WriteOutcome :=
  ⟨[{ partitionPath := "a", totalRecords := 1, totalErrorRecords := 1, errors := [("k0", "bad")] },
    { partitionPath := "b", totalRecords := 1, globalError := some "" }]⟩

/-- Both partitions count as failed and the cap is not met, but there is no line for the second one. -/
theorem wordless_failure_untold :
    let coordinator := { stubbornCoordinator with errorLogLimit := 5 }
    wordlessOutcome.errorStatuses = wordlessOutcome.statuses ∧
      ¬∃ told, Capped 5 wordlessOutcome told ∧
        coordinator.Tells wordlessOutcome ⟨⟨0⟩, [], [], { outside := 0 }⟩ told := by
  intro coordinator
  refine ⟨rfl, ?_⟩
  rintro ⟨told, hcapped, htells⟩
  have hsecond : [.ofKey "k0" "bad", .ofPartition ""] <+: told :=
    (hcapped.partitions [_] _ [] "" rfl rfl).mpr (by decide)
  have hone : told.length = 1 := htells.length_eq (logErrors_tells _ _ _)
  have htwo : 2 ≤ told.length := hsecond.length_le
  omega

end Coordinator

end TableSync
