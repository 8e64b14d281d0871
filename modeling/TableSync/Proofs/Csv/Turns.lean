/-
  TableSync/Proofs/Csv/Turns.lean
  ===============================
  **Every file once** — what fetching from a directory comes to.

  Fetch after fetch the selections follow one another in time and leave nothing
  out, whatever the limits are.  Each fetch uses up one of the times of
  modification at least, so that there are no more fetches that find something
  than there are times.
-/
import Mathlib
import TableSync.Proofs.Csv.Fetch

namespace TableSync.Csv

namespace Directory

variable {σ : Type} {directory : Directory σ} {files : List StoredFile} {after : Int}

/-! ## 1. Fetching in turn -/

/-- Fetch once for each limit, each time from the checkpoint that was handed out before. -/
def fetchInTurn (directory : Directory σ) : Option String → List Int → Effect σ (List (Batch Frame))
  | _, [] => return []
  | since, limit :: limits => do
    let batch ← directory.fetch since limit
    let later ← directory.fetchInTurn batch.checkpoint limits
    return batch :: later

/-- One of several fetches: its checkpoint, the files that it selects and the batch that it hands out. -/
structure Turn where
  since : Option String
  selected : List StoredFile
  batch : Batch Frame

/-- A turn that keeps a limit: it selects what the window of some listing of the files selects. -/
structure Made (directory : Directory σ) (files : List StoredFile) (limit : Int) (turn : Turn) : Prop where
  selected : ∃ listed after, listed.Perm files ∧ newerThan turn.since = .ok after ∧
    turn.selected = directory.selection listed after limit
  batch : turn.batch = directory.batchOf turn.since turn.selected

/-- Turns that go on from one another, from a first checkpoint to a last one. -/
inductive InTurn (directory : Directory σ) (files : List StoredFile) :
    Option String → List Int → List Turn → Option String → Prop
  | done (since : Option String) : InTurn directory files since [] [] since
  | turn {limit : Int} {limits : List Int} {turn : Turn} {turns : List Turn} {last : Option String}
      (made : directory.Made files limit turn)
      (later : InTurn directory files turn.batch.checkpoint limits turns last) :
      InTurn directory files turn.since (limit :: limits) (turn :: turns) last

/-- What a turn comes to from a time on: there is nothing newer, or it moves on. -/
inductive Comes (directory : Directory σ) (files : List StoredFile) (after : Int) (turn : Turn) : Int → Prop
  | idle (nothing : ∀ file ∈ directory.matching files, file.modifiedMillis ≤ after) (selected : turn.selected = [])
      (batch : turn.batch = ⟨none, turn.since, directory.provider⟩) : Comes directory files after turn after
  | step {reached : Int} (takes : directory.Takes files after reached turn.selected)
      (there : ∃ file ∈ directory.matching files, file.modifiedMillis = reached)
      (data : turn.batch.data = some (frameOfAll turn.selected))
      (checkpoint : turn.batch.checkpoint = some (toString reached)) : Comes directory files after turn reached

theorem newerThan_toString {n : Int} (h : 0 ≤ n) : newerThan (some (toString n)) = .ok n := by
  obtain ⟨n, rfl⟩ := Int.eq_ofNat_of_zero_le h
  have hread := Text.Integer.read?_toString n
  unfold newerThan
  split
  next hsome => exact absurd hsome (by simp)
  next hempty =>
    -- no number is written without digits
    rw [Option.some_inj.1 hempty] at hread
    exact absurd hread (by simp [show Text.Integer.read? "" = none by decide])
  next text _ hsome => rw [← Option.some_inj.1 hsome, hread]

namespace Stocked

variable (stocked : directory.Stocked files)
include stocked

theorem comes {limit : Int} {turn : Turn} (made : directory.Made files limit turn)
    (hsince : newerThan turn.since = .ok after) :
    ∃ reached, directory.Comes files after turn reached ∧ newerThan turn.batch.checkpoint = .ok reached := by
  obtain ⟨listed, start, hperm, hstart, hselected⟩ := made.selected
  obtain rfl : start = after := Except.ok.inj (hstart.symm.trans hsince)
  by_cases hunread : ∃ file ∈ directory.matching files, start < file.modifiedMillis
  · obtain ⟨reached, htakes⟩ := selection_takes limit hperm hunread
    rw [← hselected] at htakes
    obtain ⟨newest, hlast, rfl⟩ := htakes.newest
    have hbatch := made.batch
    rw [batchOf, hlast] at hbatch
    have hthere : newest ∈ directory.matching files :=
      (List.mem_filter.1 (htakes.perm.mem_iff.1 (List.mem_of_getLast? hlast))).1
    refine ⟨_, .step htakes ⟨newest, hthere, rfl⟩ (by rw [hbatch]) (by rw [hbatch]), ?_⟩
    rw [hbatch]
    exact newerThan_toString (stocked.dated newest hthere)
  · have hread : ∀ file ∈ directory.matching files, file.modifiedMillis ≤ start := by simpa using hunread
    have hnone : turn.selected = [] := hselected.trans (selection_nil hperm hread)
    have hbatch := made.batch
    rw [batchOf, hnone] at hbatch
    refine ⟨start, .idle hread hnone hbatch, ?_⟩
    rw [hbatch]
    exact hsince

theorem leads_fetchInTurn {since : Option String} (hsince : newerThan since = .ok after) (limits : List Int) :
    Effect.Leads stocked.steady (directory.fetchInTurn since limits)
      (fun batches s => (∃ turns last, batches = turns.map Turn.batch ∧ directory.InTurn files since limits turns last) ∧
        stocked.steady s) (fun _ _ => False) := by
  induction limits generalizing since after with
  | nil => exact Effect.leads_pure fun s hs => ⟨⟨[], since, rfl, .done since⟩, hs⟩
  | cons limit limits ih =>
    rw [fetchInTurn]
    refine (stocked.leads_fetch hsince limit).bind fun batch => Effect.leads_of_fact ?_
    rintro ⟨listed, hperm, hbatch⟩
    have hmade : directory.Made files limit ⟨since, directory.selection listed after limit, batch⟩ :=
      ⟨⟨listed, after, hperm, hsince, rfl⟩, hbatch⟩
    obtain ⟨reached, -, hreached⟩ := stocked.comes hmade hsince
    refine (ih hreached).bind fun batches => Effect.leads_of_fact ?_
    rintro ⟨turns, last, rfl, hturns⟩
    exact Effect.leads_pure fun s hs => ⟨⟨_ :: turns, last, rfl, .turn hmade hturns⟩, hs⟩

end Stocked

/-! ## 2. All turns -/

/-- The times at which the files were modified. -/
def times (directory : Directory σ) (files : List StoredFile) : Finset Int :=
  ((directory.matching files).map StoredFile.modifiedMillis).toFinset

def timesAfter (directory : Directory σ) (files : List StoredFile) (after : Int) : Finset Int :=
  (directory.times files).filter (after < ·)

theorem mem_timesAfter {time : Int} : time ∈ directory.timesAfter files after ↔
    (∃ file ∈ directory.matching files, file.modifiedMillis = time) ∧ after < time := by
  simp [timesAfter, times]

theorem InTurn.split {since last : Option String} {limits : List Int} {before later : List Turn} {turn : Turn}
    (h : directory.InTurn files since limits (before ++ turn :: later) last) :
    ∃ first limit rest, limits = first ++ limit :: rest ∧ directory.InTurn files since first before turn.since ∧
      directory.Made files limit turn ∧ directory.InTurn files turn.batch.checkpoint rest later last := by
  induction before generalizing since limits with
  | nil =>
    cases h with
    | turn made rest => exact ⟨[], _, _, rfl, .done _, made, rest⟩
  | cons head before ih =>
    cases h with
    | turn made rest =>
      obtain ⟨first, limit, others, rfl, hbefore, hturn, hlater⟩ := ih rest
      exact ⟨_ :: first, limit, others, rfl, .turn made hbefore, hturn, hlater⟩

theorem InTurn.length_eq {since last : Option String} {limits : List Int} {turns : List Turn}
    (h : directory.InTurn files since limits turns last) : turns.length = limits.length := by
  induction h with
  | done since => rfl
  | turn made later ih => rw [List.length_cons, List.length_cons, ih]

theorem Comes.selected_perm {turn : Turn} {reached : Int} (h : directory.Comes files after turn reached) :
    turn.selected.Perm ((directory.matching files).filter fun file =>
      after < file.modifiedMillis && file.modifiedMillis ≤ reached) := by
  cases h with
  | idle _ selected _ =>
    rw [selected]
    refine List.Perm.of_eq (List.filter_eq_nil_iff.2 fun file _ => ?_).symm
    simp
  | step takes _ _ _ => exact takes.perm

theorem Comes.le {turn : Turn} {reached : Int} (h : directory.Comes files after turn reached) : after ≤ reached := by
  cases h with
  | idle _ _ _ => exact le_refl _
  | step takes _ _ _ => exact le_of_lt takes.onward

/-- A turn uses up a time, unless there is none left. -/
theorem Comes.card_timesAfter {turn : Turn} {reached : Int} (h : directory.Comes files after turn reached) :
    (directory.timesAfter files reached).card ≤ (directory.timesAfter files after).card - 1 := by
  cases h with
  | idle nothing _ _ =>
    have hnone : directory.timesAfter files after = ∅ := by
      refine Finset.eq_empty_of_forall_notMem fun time htime => ?_
      obtain ⟨⟨file, hfile, rfl⟩, hlater⟩ := mem_timesAfter.1 htime
      exact absurd hlater (not_lt.2 (nothing file hfile))
    rw [hnone]
    exact Nat.zero_le _
  | step takes there _ _ =>
    refine Nat.le_sub_one_of_lt (Finset.card_lt_card ?_)
    refine (Finset.ssubset_iff_of_subset fun time htime => ?_).2 ⟨reached, mem_timesAfter.2 ⟨there, takes.onward⟩, ?_⟩
    · obtain ⟨hthere, hlater⟩ := mem_timesAfter.1 htime
      exact mem_timesAfter.2 ⟨hthere, lt_trans takes.onward hlater⟩
    · exact fun hself => absurd (mem_timesAfter.1 hself).2 (lt_irrefl _)

/-- What turns select between two times, and how many times they leave. -/
structure Account (directory : Directory σ) (files : List StoredFile) (after reached : Int)
    (turns : List Turn) : Prop where
  onward : after ≤ reached
  perm : (turns.flatMap Turn.selected).Perm ((directory.matching files).filter fun file =>
    after < file.modifiedMillis && file.modifiedMillis ≤ reached)
  ordered : ∀ turn ∈ turns, turn.selected.Pairwise fun a b => readBefore a b = true
  apart : turns.Pairwise fun earlier later =>
    ∀ a ∈ earlier.selected, ∀ b ∈ later.selected, a.modifiedMillis < b.modifiedMillis
  left : (directory.timesAfter files reached).card ≤ (directory.timesAfter files after).card - turns.length

theorem account_nil (after : Int) : directory.Account files after after [] where
  onward := le_refl _
  perm := .of_eq (List.filter_eq_nil_iff.2 fun file _ => by simp).symm
  ordered := by simp
  apart := .nil
  left := Nat.le_refl _

/-- One turn more at the start. -/
theorem Comes.account {turn : Turn} {turns : List Turn} {middle reached : Int}
    (first : directory.Comes files after turn middle) (rest : directory.Account files middle reached turns) :
    directory.Account files after reached (turn :: turns) where
  onward := le_trans first.le rest.onward
  perm := by
    rw [List.flatMap_cons]
    refine (first.selected_perm.append rest.perm).trans ?_
    have hle := first.le
    have hle' := rest.onward
    -- the files up to the middle one, then those beyond it
    have hsplit := List.filter_append_perm (fun file : StoredFile => decide (file.modifiedMillis ≤ middle))
      ((directory.matching files).filter fun file => after < file.modifiedMillis && file.modifiedMillis ≤ reached)
    rw [List.filter_filter, List.filter_filter] at hsplit
    refine (List.Perm.of_eq ?_).trans hsplit
    congr 1
    · refine List.filter_congr fun file _ => ?_
      rw [Bool.eq_iff_iff]
      simp only [Bool.and_eq_true, decide_eq_true_eq]
      omega
    · refine List.filter_congr fun file _ => ?_
      rw [Bool.eq_iff_iff]
      simp only [Bool.and_eq_true, decide_eq_true_eq, Bool.not_eq_true', decide_eq_false_iff_not]
      omega
  ordered := by
    refine List.forall_mem_cons.2 ⟨?_, rest.ordered⟩
    cases first with
    | idle _ selected _ => rw [selected]; exact .nil
    | step takes _ _ _ => exact takes.ordered
  apart := by
    refine List.pairwise_cons.2 ⟨fun later hlater a ha b hb => ?_, rest.apart⟩
    have hearlier := (List.mem_filter.1 (first.selected_perm.mem_iff.1 ha)).2
    have hthere := (List.mem_filter.1 (rest.perm.mem_iff.1 (List.mem_flatMap.2 ⟨later, hlater, hb⟩))).2
    simp only [Bool.and_eq_true, decide_eq_true_eq] at hearlier hthere
    omega
  left := by
    have hfirst := first.card_timesAfter
    have hrest := rest.left
    rw [List.length_cons]
    omega

theorem Stocked.account (stocked : directory.Stocked files) {since last : Option String} {limits : List Int}
    {turns : List Turn} (h : directory.InTurn files since limits turns last) (hsince : newerThan since = .ok after) :
    ∃ reached, newerThan last = .ok reached ∧ directory.Account files after reached turns := by
  induction h generalizing after with
  | done since => exact ⟨after, hsince, account_nil after⟩
  | turn made later ih =>
    obtain ⟨middle, hcomes, hmiddle⟩ := stocked.comes made hsince
    obtain ⟨reached, hreached, hrest⟩ := ih hmiddle
    exact ⟨reached, hreached, hcomes.account hrest⟩

theorem Stocked.all_later (stocked : directory.Stocked files) :
    ∀ file ∈ directory.matching files, -1 < file.modifiedMillis := by
  intro file hfile
  have hdated := stocked.dated file hfile
  omega

/-- **Every file is read, and none twice.**  Fetching in turn from a directory whose files stay as they are, each
turn selects the files that follow in time on what was selected before.  No file is selected twice, and every file
once there are as many turns as times of modification.  While a file is unread a turn moves on, even if it finds
nothing in the files that it reads; afterwards it hands out nothing and stays where it is. -/
theorem Stocked.every_file_once (stocked : directory.Stocked files) (limits : List Int) {w : World σ}
    (hsteady : stocked.steady w.state) :
    ∃ turns last w', (directory.fetchInTurn none limits).runIn w = (.ok (turns.map Turn.batch), w') ∧
      stocked.steady w'.state ∧ directory.InTurn files none limits turns last ∧
      (turns.flatMap Turn.selected).Subperm (directory.matching files) ∧
      ((directory.times files).card ≤ limits.length →
        (turns.flatMap Turn.selected).Perm (directory.matching files)) ∧
      (∀ turn ∈ turns, turn.selected.Pairwise fun a b => readBefore a b = true) ∧
      (turns.Pairwise fun earlier later =>
        ∀ a ∈ earlier.selected, ∀ b ∈ later.selected, a.modifiedMillis < b.modifiedMillis) ∧
      ∀ before turn later, turns = before ++ turn :: later →
        ((∃ file ∈ directory.matching files, file ∉ before.flatMap Turn.selected) →
          ∃ m n : Int, newerThan turn.since = .ok m ∧ turn.batch.checkpoint = some (toString n) ∧
            newerThan turn.batch.checkpoint = .ok n ∧ m < n ∧
            turn.batch.data = some (frameOfAll turn.selected)) ∧
        ((directory.times files).card ≤ before.length →
          turn.batch.data = none ∧ turn.batch.checkpoint = turn.since) := by
  have hfirst : newerThan none = .ok (-1) := rfl
  obtain ⟨batches, w', hrun, ⟨turns, last, rfl, hturns⟩, hw'⟩ := (stocked.leads_fetchInTurn hfirst limits).returns hsteady
  obtain ⟨reached, -, haccount⟩ := stocked.account hturns rfl
  have hlength : turns.length = limits.length := hturns.length_eq
  have htimes : directory.timesAfter files (-1) = directory.times files := by
    refine Finset.filter_true_of_mem fun time htime => ?_
    obtain ⟨file, hfile, rfl⟩ := List.mem_map.1 (List.mem_toFinset.1 htime)
    exact stocked.all_later file hfile
  refine ⟨turns, last, w', hrun, hw', hturns, ?_, fun henough => ?_, haccount.ordered, haccount.apart, ?_⟩
  · exact haccount.perm.subperm.trans List.filter_sublist.subperm
  · refine haccount.perm.trans (.of_eq (List.filter_eq_self.2 fun file hfile => ?_))
    have hnone : directory.timesAfter files reached = ∅ := by
      refine Finset.card_eq_zero.1 ?_
      have hleft := haccount.left
      rw [htimes] at hleft
      omega
    have hread : ¬ reached < file.modifiedMillis := fun hlater =>
      absurd (mem_timesAfter.2 ⟨⟨file, hfile, rfl⟩, hlater⟩) (by simp [hnone])
    simp [stocked.all_later file hfile, not_lt.1 hread]
  · rintro before turn later rfl
    obtain ⟨first, limit, rest, -, hbefore, hmade, -⟩ := hturns.split
    obtain ⟨middle, hmiddle, hearlier⟩ := stocked.account hbefore rfl
    obtain ⟨next, hcomes, hnext⟩ := stocked.comes hmade hmiddle
    constructor
    · rintro ⟨file, hfile, hunread⟩
      have hlater : middle < file.modifiedMillis := by
        refine not_le.1 fun hle => hunread (hearlier.perm.mem_iff.2 (List.mem_filter.2 ⟨hfile, ?_⟩))
        simp [stocked.all_later file hfile, hle]
      cases hcomes with
      | idle nothing _ _ => exact absurd (nothing file hfile) (not_le.2 hlater)
      | step takes _ data checkpoint => exact ⟨middle, next, hmiddle, checkpoint, hnext, takes.onward, data⟩
    · intro hlate
      have hnone : (directory.timesAfter files middle).card = 0 := by
        have hleft := hearlier.left
        rw [htimes] at hleft
        omega
      cases hcomes with
      | idle _ _ batch => rw [batch]; exact ⟨rfl, rfl⟩
      | step takes there _ _ =>
        have hmem := mem_timesAfter.2 ⟨there, takes.onward⟩
        rw [Finset.card_eq_zero.1 hnone] at hmem
        exact absurd hmem (Finset.notMem_empty _)

/-- Two files of one time, one of them blank, a later blank one, and one that the pattern leaves out. -/
def sampleFiles : List StoredFile :=
  [{ path := "b.csv", modifiedNanos := 1000000000, content := "id\n1\n".toUTF8 },
    { path := "a.csv", modifiedNanos := 1000000000 },
    { path := "c.csv", modifiedNanos := 2000000000 },
    { path := "notes.txt", modifiedNanos := 1500000000 }]

def sampleDirectory : Directory Unit :=
  { sourceName := "orders", path := "/data", listing := pure (some sampleFiles) }

/-- The sample directory, listed in the same order each time. -/
def sampleStocked : sampleDirectory.Stocked sampleFiles where
  steady := fun _ => True
  listed := Effect.leads_pure fun _ hs => ⟨⟨sampleFiles, rfl, .refl _⟩, hs⟩
  readable := by
    have hall : ∀ file ∈ sampleDirectory.matching sampleFiles, (frameOf file.content).toOption.isSome = true := by
      decide +kernel
    intro file hfile
    have hread := hall file hfile
    cases hframe : frameOf file.content with
    | ok frame => exact ⟨frame, rfl⟩
    | error cause => rw [hframe] at hread; cases hread
  dated := by decide +kernel

/-- Two turns of one byte read all of the sample directory, and a third one finds nothing. -/
theorem sample_every_file_once :
    ∃ turns w', (sampleDirectory.fetchInTurn none [1, 1, 1]).runIn { now := ⟨0⟩, state := () } =
        (.ok (turns.map Turn.batch), w') ∧
      (turns.flatMap Turn.selected).Perm (sampleDirectory.matching sampleFiles) ∧
      ∀ before turn later, turns = before ++ turn :: later → 2 ≤ before.length →
        turn.batch.data = none ∧ turn.batch.checkpoint = turn.since := by
  have htimes : (sampleDirectory.times sampleFiles).card = 2 := by decide +kernel
  obtain ⟨turns, last, w', hrun, -, -, -, hall, -, -, heach⟩ :=
    sampleStocked.every_file_once [1, 1, 1] (w := { now := ⟨0⟩, state := () }) trivial
  refine ⟨turns, w', hrun, hall (by rw [htimes]; decide), fun before turn later hsplit hlate => ?_⟩
  exact (heach before turn later hsplit).2 (by rw [htimes]; exact hlate)

end Directory

end TableSync.Csv
