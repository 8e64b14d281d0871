/-
  TableSync/Proofs/Csv/Budget.lean
  ================================
  **As much as fits** — the selection is the longest one that a budget allows.

  A round may read a front of the files that leaves no file of a time behind
  and stays within the budget (`Affordable`).  The greedy run is the longest front
  within the budget, whatever it splits, so every front that fits lies in it
  (`Affordable.front_greedy`).  Each way in which the run is corrected then keeps all
  of them, and it goes over the budget only where none of them has a file.
-/
import Mathlib
import TableSync.Proofs.Csv.Fetch

namespace TableSync.Csv

variable {budget taken : Int} {files front rest : List FileEntry} {last : FileEntry}

/-! ## 1. Fronts that fit -/

/-- The bytes of files together. -/
def totalSize (files : List FileEntry) : Int := (files.map (·.size)).sum

/-- No file has a size below zero. -/
def Sized (files : List FileEntry) : Prop := ∀ entry ∈ files, 0 ≤ entry.size

/-- A front of the files within a budget, with no file of the same time behind it. -/
structure Affordable (budget : Int) (files front : List FileEntry) : Prop where
  isFront : front <+: files
  whole : ∀ entry ∈ front, ∀ other ∈ files.drop front.length, entry.modified ≠ other.modified
  within : totalSize front ≤ budget

@[simp] theorem totalSize_nil : totalSize [] = 0 := rfl

@[simp] theorem totalSize_cons (entry : FileEntry) (rest : List FileEntry) :
    totalSize (entry :: rest) = entry.size + totalSize rest := by
  simp [totalSize]

theorem Sized.totalSize_nonneg (h : Sized files) : 0 ≤ totalSize files := by
  refine List.sum_nonneg fun size hsize => ?_
  obtain ⟨entry, hentry, rfl⟩ := List.mem_map.1 hsize
  exact h entry hentry

/-- A part has no more bytes than the whole. -/
theorem Sized.totalSize_le {part : List FileEntry} (h : Sized files) (hpart : part.Sublist files) :
    totalSize part ≤ totalSize files := by
  induction hpart with
  | slnil => exact le_refl _
  | cons entry _ ih =>
    have hentry := h entry List.mem_cons_self
    have := ih fun other hother => h other (List.mem_cons_of_mem _ hother)
    rw [totalSize_cons]
    omega
  | cons_cons entry _ ih =>
    have := ih fun other hother => h other (List.mem_cons_of_mem _ hother)
    rw [totalSize_cons, totalSize_cons]
    omega

/-- What a directory has to choose from comes oldest first, and no size is below zero. -/
theorem entries_of_eligible (pattern : String) (after : Int) (stored : List StoredFile) :
    ByTime ((eligible pattern after stored).map StoredFile.entry) ∧
      Sized ((eligible pattern after stored).map StoredFile.entry) := by
  have hordered : (eligible pattern after stored).Pairwise fun a b => readBefore a b = true :=
    List.pairwise_mergeSort readBefore_trans readBefore_total _
  refine ⟨List.pairwise_map.2 (hordered.imp modifiedMillis_le_of_readBefore), fun entry hentry => ?_⟩
  obtain ⟨file, -, rfl⟩ := List.mem_map.1 hentry
  exact Int.natCast_nonneg _

/-! ## 2. The greedy run -/

/-- What still fits is the longest run that does. -/
theorem front_fitting (h : Sized files) (hfront : front <+: files) (hfits : taken + totalSize front ≤ budget) :
    front <+: fitting budget taken files := by
  induction files generalizing front taken with
  | nil => rwa [fitting]
  | cons entry rest ih =>
    cases front with
    | nil => exact List.nil_prefix
    | cons next others =>
      obtain ⟨rfl, hothers⟩ := List.cons_prefix_cons.1 hfront
      have hrest : Sized rest := fun other hother => h other (List.mem_cons_of_mem _ hother)
      have hnonneg : 0 ≤ totalSize others :=
        Sized.totalSize_nonneg fun other hother => hrest other (hothers.subset hother)
      rw [totalSize_cons] at hfits
      rw [fitting, if_neg (by omega)]
      exact List.cons_prefix_cons.2 ⟨rfl, ih hrest hothers (by omega)⟩

theorem totalSize_fitting (h : taken ≤ budget) : taken + totalSize (fitting budget taken files) ≤ budget := by
  induction files generalizing taken with
  | nil => simpa [fitting] using h
  | cons entry rest ih =>
    rw [fitting]
    split
    · simpa using h
    next hfits =>
      have hrest : taken + entry.size + totalSize (fitting budget (taken + entry.size) rest) ≤ budget := ih (by omega)
      rw [totalSize_cons]
      omega

theorem Sized.greedy (h : Sized files) : Sized (greedy budget files) :=
  fun entry hentry => h entry ((greedy_front budget files).subset hentry)

/-- Every front that fits is a front of the greedy run. -/
theorem Affordable.front_greedy (h : Affordable budget files front) (hsized : Sized files) :
    front <+: greedy budget files := by
  cases files with
  | nil => exact h.isFront
  | cons entry rest =>
    cases front with
    | nil => exact List.nil_prefix
    | cons next others =>
      obtain ⟨rfl, hothers⟩ := List.cons_prefix_cons.1 h.isFront
      have hwithin := h.within
      rw [totalSize_cons] at hwithin
      have hrest : Sized rest := fun other hother => hsized other (List.mem_cons_of_mem _ hother)
      exact List.cons_prefix_cons.2 ⟨rfl, front_fitting hrest hothers hwithin⟩

/-- The greedy run stays within the budget unless the first file alone is over it, and then it ends there. -/
theorem greedy_cases (budget : Int) (first : FileEntry) (rest : List FileEntry) (hsized : Sized (first :: rest)) :
    totalSize (greedy budget (first :: rest)) ≤ budget ∨
      budget < first.size ∧ greedy budget (first :: rest) = [first] := by
  by_cases hfirst : first.size ≤ budget
  · left
    rw [greedy, totalSize_cons]
    exact totalSize_fitting hfirst
  · right
    refine ⟨by omega, ?_⟩
    cases rest with
    | nil => rfl
    | cons next rest =>
      have hnext : 0 ≤ next.size := hsized next (by simp)
      rw [greedy, fitting, if_pos (by omega)]

/-! ## 3. The corrections -/

theorem ByTime.first_le {first : FileEntry} (h : ByTime (first :: rest)) :
    ∀ entry ∈ first :: rest, first.modified ≤ entry.modified := by
  intro entry hentry
  rcases List.mem_cons.1 hentry with rfl | hlater
  · exact le_refl _
  · exact (List.pairwise_cons.1 h).1 entry hlater

/-- What is up to a time is a front that leaves no file of a time behind. -/
theorem ByTime.upTo_whole (h : ByTime files) (time : Int) :
    (files.filter fun entry => entry.modified ≤ time) <+: files ∧
      ∀ other ∈ files.drop (files.filter fun entry => entry.modified ≤ time).length, time < other.modified := by
  induction files with
  | nil => simp
  | cons entry rest ih =>
    obtain ⟨hentry, hrest⟩ := List.pairwise_cons.1 h
    by_cases hkept : entry.modified ≤ time
    · obtain ⟨hfront, hbehind⟩ := ih hrest
      rw [List.filter_cons_of_pos (by simpa using hkept)]
      exact ⟨List.cons_prefix_cons.2 ⟨rfl, hfront⟩, by simpa using hbehind⟩
    · -- from the first file that is too late on all are
      have hlate : ∀ other ∈ entry :: rest, time < other.modified := by
        intro other hother
        rcases List.mem_cons.1 hother with rfl | hlater
        · omega
        · have := hentry other hlater
          omega
      have hnone : ((entry :: rest).filter fun entry => entry.modified ≤ time) = [] :=
        List.filter_eq_nil_iff.2 fun other hother => by simpa using hlate other hother
      rw [hnone]
      exact ⟨List.nil_prefix, hlate⟩

/-- The three ways in which a selection ends: with the greedy run, before the last time of the run, or with all files of
that time. The run is corrected only if the next file has its last time. -/
theorem select_cases (budget : Int) (hsome : files ≠ []) :
    ∃ last rest, (greedy budget files).getLast? = some last ∧ greedy budget files ++ rest = files ∧
      ((select budget files).1 = greedy budget files ∨
        (∃ next ∈ rest, next.modified = last.modified) ∧
          let older := (greedy budget files).filter fun entry => entry.modified < last.modified
          (older ≠ [] ∧ (select budget files).1 = older ∨
            older = [] ∧ (select budget files).1 = files.filter fun entry => entry.modified == last.modified)) := by
  have hlast := List.getLast?_eq_some_getLast (greedy_ne_nil budget hsome)
  refine ⟨_, files.drop (greedy budget files).length, hlast,
    List.prefix_iff_eq_append.1 (greedy_front budget files), ?_⟩
  unfold select
  simp only [hlast]
  generalize (greedy budget files).getLast (greedy_ne_nil budget hsome) = last
  rcases files.drop (greedy budget files).length with _ | ⟨next, rest⟩
  · exact .inl rfl
  · by_cases hsame : next.modified = last.modified
    · simp only [hsame, ne_eq, not_true_eq_false, if_false]
      refine .inr ⟨⟨next, List.mem_cons_self, hsame⟩, ?_⟩
      by_cases holder : ((greedy budget files).filter fun entry => entry.modified < last.modified) = []
      · rw [if_pos (List.isEmpty_iff.2 holder)]
        exact .inr ⟨holder, rfl⟩
      · rw [if_neg (by simpa using holder)]
        exact .inl ⟨holder, rfl⟩
    · simp only [ne_eq, hsame, not_false_eq_true, if_true]
      exact .inl trivial

theorem ByTime.select_ne_nil (h : ByTime files) (hsome : files ≠ []) : (select budget files).1 ≠ [] := by
  obtain ⟨reached, hreached, hselect⟩ := select_upTo budget h hsome
  rw [hselect]
  exact List.ne_nil_of_mem (List.mem_filter.2 ⟨hreached, by simp⟩)

theorem selectWithinBudget_runIn {σ : Type} (budget : Int) (files : List FileEntry) (w : World σ) :
    ∃ log, (selectWithinBudget budget files).runIn w = (.ok (select budget files).1, { w with log }) := by
  unfold selectWithinBudget
  rcases select budget files with ⟨_ | ⟨first, others⟩, _ | _⟩
  all_goals exact ⟨_, rfl⟩

/-- Where the next file has the last time of the greedy run, fronts that fit end before that time. -/
theorem Affordable.front_older (h : Affordable budget files front) (htime : ByTime files) (hsized : Sized files)
    (hlast : (greedy budget files).getLast? = some last) (hsplit : greedy budget files ++ rest = files)
    (hnext : ∃ next ∈ rest, next.modified = last.modified) :
    front <+: (greedy budget files).filter fun entry => entry.modified < last.modified := by
  obtain ⟨next, hnext, hsame⟩ := hnext
  have hgreedy := h.front_greedy hsized
  have hrun : ByTime (greedy budget files) := by
    rw [← hsplit] at htime
    exact (List.pairwise_append.1 htime).1
  have hbehind : next ∈ files.drop front.length := by
    rw [← hsplit, List.drop_append_of_le_length hgreedy.length_le]
    exact List.mem_append_right _ hnext
  have hearlier : ∀ entry ∈ front, entry.modified < last.modified := by
    intro entry hentry
    have hle := rel_getLast hrun hlast (le_refl _) entry (hgreedy.subset hentry)
    have hne := h.whole entry hentry next hbehind
    omega
  have hall : (front.filter fun entry => entry.modified < last.modified) = front :=
    List.filter_eq_self.2 fun entry hentry => decide_eq_true (hearlier entry hentry)
  rw [← hall]
  exact hgreedy.filter _

/-! ## 4. The longest front that fits -/

theorem Affordable.front_select (h : Affordable budget files front) (htime : ByTime files) (hsized : Sized files) :
    front <+: (select budget files).1 := by
  rcases eq_or_ne files [] with rfl | hsome
  · exact h.isFront
  obtain ⟨last, rest, hlast, hsplit, hrun | ⟨hnext, ⟨-, hselect⟩ | ⟨hnone, -⟩⟩⟩ := select_cases budget hsome
  · rw [hrun]
    exact h.front_greedy hsized
  · rw [hselect]
    exact h.front_older htime hsized hlast hsplit hnext
  · have hfront := h.front_older htime hsized hlast hsplit hnext
    rw [hnone, List.prefix_nil] at hfront
    rw [hfront]
    exact List.nil_prefix

/-- What is selected splits no time. -/
theorem ByTime.select_whole (htime : ByTime files) (hwithin : totalSize (select budget files).1 ≤ budget) :
    Affordable budget files (select budget files).1 := by
  rcases eq_or_ne files [] with rfl | hsome
  · exact ⟨List.prefix_rfl, by simp [select, greedy], hwithin⟩
  obtain ⟨reached, -, hselect⟩ := select_upTo budget htime hsome
  obtain ⟨hfront, hbehind⟩ := htime.upTo_whole reached.modified
  refine ⟨hselect ▸ hfront, fun entry hentry other hother => ?_, hwithin⟩
  rw [hselect] at hentry hother
  have hle := of_decide_eq_true (List.mem_filter.1 hentry).2
  have := hbehind other hother
  omega

theorem Affordable.totalSize_select (h : Affordable budget files front) (hfront : front ≠ []) (htime : ByTime files)
    (hsized : Sized files) : totalSize (select budget files).1 ≤ budget := by
  have hgreedy : totalSize (greedy budget files) ≤ budget := by
    cases files with
    | nil => exact absurd (List.prefix_nil.1 h.isFront) hfront
    | cons first others =>
      rcases greedy_cases budget first others hsized with hwithin | ⟨hover, hsingle⟩
      · exact hwithin
      · -- the front has the first file in it
        have hrun := h.front_greedy hsized
        rw [hsingle] at hrun ⊢
        have hwhole := hrun.eq_of_length_le (List.length_pos_iff.2 hfront)
        rw [← hwhole]
        exact h.within
  have hsome : files ≠ [] := by
    rintro rfl
    exact hfront (List.prefix_nil.1 h.isFront)
  obtain ⟨last, rest, hlast, hsplit, hrun | ⟨hnext, ⟨-, hselect⟩ | ⟨hnone, -⟩⟩⟩ := select_cases budget hsome
  · rwa [hrun]
  · rw [hselect]
    exact (hsized.greedy.totalSize_le List.filter_sublist).trans hgreedy
  · have hempty := h.front_older htime hsized hlast hsplit hnext
    rw [hnone, List.prefix_nil] at hempty
    exact absurd hempty hfront

/-- Over the budget all files of the oldest time are selected, and no others. -/
theorem ByTime.select_oldest {first : FileEntry} (htime : ByTime (first :: rest)) (hsized : Sized (first :: rest))
    (hover : budget < totalSize (select budget (first :: rest)).1) :
    (select budget (first :: rest)).1 = (first :: rest).filter fun entry => entry.modified == first.modified := by
  have hsingle : budget < totalSize (greedy budget (first :: rest)) → greedy budget (first :: rest) = [first] := by
    intro hgreedy
    rcases greedy_cases budget first rest hsized with hwithin | ⟨-, hsingle⟩
    · omega
    · exact hsingle
  obtain ⟨last, behind, hlast, hsplit, hrun | ⟨hnext, ⟨holder, hselect⟩ | ⟨hnone, hselect⟩⟩⟩ :=
    select_cases budget (List.cons_ne_nil first rest)
  · rw [hrun] at hover
    obtain ⟨reached, hreached, hupTo⟩ := select_upTo budget htime (List.cons_ne_nil first rest)
    have hmem : reached ∈ (select budget (first :: rest)).1 := by
      rw [hupTo]
      exact List.mem_filter.2 ⟨hreached, by simp⟩
    rw [hrun, hsingle hover, List.mem_singleton] at hmem
    rw [hupTo, hmem]
    have hgroup := ByTime.group_upTo (show ByTime ([first] ++ rest) from htime) (List.mem_singleton_self first)
      (by simp)
    exact hgroup.symm
  · -- a run of one file has nothing before its last time
    rw [hselect] at hover
    rw [hsingle (hover.trans_le (hsized.greedy.totalSize_le List.filter_sublist))] at hlast holder
    cases hlast
    simp at holder
  · have hnotEarlier := List.filter_eq_nil_iff.1 hnone first List.mem_cons_self
    have hle := htime.first_le last ((greedy_front budget _).subset (List.mem_of_getLast? hlast))
    have hsame : last.modified = first.modified := by
      rw [decide_eq_true_iff] at hnotEarlier
      omega
    rw [hselect, hsame]

/-- **The byte budget selects the longest front that fits.** The files are given oldest first and have no sizes below
zero; the budget is at least one byte. The selection never fails and changes nothing but the log. If a front with a file
fits, or if there are no files, it is a front that fits and has all others in it. Otherwise it is all files of the
oldest time. -/
theorem ByTime.longest_selected {σ : Type} (htime : ByTime files) (hsized : Sized files) (hbudget : 1 ≤ budget)
    (w : World σ) :
    ∃ selected log, (selectWithinBudget budget files).runIn w = (.ok selected, { w with log }) ∧
      ((∃ front, Affordable budget files front ∧ front ≠ []) ∨ files = [] →
        Affordable budget files selected ∧ ∀ front, Affordable budget files front → front <+: selected) ∧
      ((∀ front, Affordable budget files front → front = []) → files ≠ [] →
        ∃ oldest ∈ files, (∀ entry ∈ files, oldest.modified ≤ entry.modified) ∧
          selected = files.filter fun entry => entry.modified == oldest.modified) := by
  obtain ⟨log, hrun⟩ := selectWithinBudget_runIn budget files w
  refine ⟨(select budget files).1, log, hrun, fun hfits => ⟨htime.select_whole ?_, fun front hfront => ?_⟩, ?_⟩
  · rcases hfits with ⟨front, hfront, hsome⟩ | rfl
    · exact hfront.totalSize_select hsome htime hsized
    · exact le_trans zero_le_one hbudget
  · exact hfront.front_select htime hsized
  · intro hnone hsome
    obtain ⟨first, rest, rfl⟩ := List.exists_cons_of_ne_nil hsome
    refine ⟨first, List.mem_cons_self, htime.first_le, htime.select_oldest hsized ?_⟩
    by_contra hwithin
    exact htime.select_ne_nil hsome (hnone _ (htime.select_whole (not_lt.1 hwithin)))

/-- Two times of two files each; the first of them has an empty file. -/
def sampleEntries : List FileEntry := [⟨1, "a.csv", 3⟩, ⟨1, "b.csv", 0⟩, ⟨2, "c.csv", 4⟩, ⟨2, "d.csv", 1⟩]

example : (select 8 sampleEntries).1 = sampleEntries := by decide

theorem sampleEntries_byTime : ByTime sampleEntries := by
  simp [ByTime, sampleEntries]

theorem sampleEntries_sized : Sized sampleEntries := by
  simp [Sized, sampleEntries]

theorem Affordable.eq_take (h : Affordable budget files front) : ∃ n ≤ files.length, front = files.take n :=
  ⟨front.length, h.isFront.length_le, List.prefix_iff_eq_take.1 h.isFront⟩

/-- No front but the empty one is within two bytes. -/
theorem sampleEntries_over (h : Affordable 2 sampleEntries front) : front = [] := by
  obtain ⟨n, hn, rfl⟩ := h.eq_take
  have hlength : n ≤ 4 := hn
  have hwithin := h.within
  interval_cases n
  · rfl
  all_goals exact absurd hwithin (by decide)

/-- Of a budget that three of the sample files meet exactly, and of one that the first file is over, the same two files
are selected: those of the first time. -/
theorem sampleEntries_selected :
    (∃ log, (selectWithinBudget 7 sampleEntries).runIn { now := ⟨0⟩, state := () } =
      (.ok [⟨1, "a.csv", 3⟩, ⟨1, "b.csv", 0⟩], { now := ⟨0⟩, log, state := () })) ∧
    ∃ log, (selectWithinBudget 2 sampleEntries).runIn { now := ⟨0⟩, state := () } =
      (.ok [⟨1, "a.csv", 3⟩, ⟨1, "b.csv", 0⟩], { now := ⟨0⟩, log, state := () }) := by
  constructor
  · have hseven : (1 : Int) ≤ 7 := by decide
    obtain ⟨selected, log, hrun, hfits, -⟩ :=
      sampleEntries_byTime.longest_selected sampleEntries_sized hseven { now := ⟨0⟩, state := () }
    have hpair : Affordable 7 sampleEntries [⟨1, "a.csv", 3⟩, ⟨1, "b.csv", 0⟩] := ⟨by decide, by decide, by decide⟩
    obtain ⟨hselected, hlongest⟩ := hfits (.inl ⟨_, hpair, by decide⟩)
    have hfront := hlongest _ hpair
    refine ⟨log, ?_⟩
    rw [hrun]
    obtain ⟨n, hn, rfl⟩ := hselected.eq_take
    have hlength : n ≤ 4 := hn
    interval_cases n
    · exact absurd hfront (by decide)
    · exact absurd hfront (by decide)
    · rfl
    · exact absurd rfl (hselected.whole ⟨2, "c.csv", 4⟩ (by decide) ⟨2, "d.csv", 1⟩ (by decide))
    · exact absurd hselected.within (by decide)
  · have htwo : (1 : Int) ≤ 2 := by decide
    obtain ⟨selected, log, hrun, -, hover⟩ :=
      sampleEntries_byTime.longest_selected sampleEntries_sized htwo { now := ⟨0⟩, state := () }
    obtain ⟨oldest, hmem, hfirst, rfl⟩ := hover (fun _ => sampleEntries_over) (by decide)
    have hleast : oldest.modified ≤ 1 := hfirst ⟨1, "a.csv", 3⟩ (by decide)
    have htimes : ∀ entry ∈ sampleEntries, entry.modified ≤ 1 → entry.modified = 1 := by decide
    refine ⟨log, ?_⟩
    rw [hrun, htimes oldest hmem hleast]
    rfl

end TableSync.Csv
