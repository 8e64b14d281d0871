/-
  TableSync/Proofs/Csv/Selection.lean
  ===================================
  **What one round reads** — all that is no newer than one of the files.

  The budget decides how far a round reads, but never splits the files of one
  modification time: what is selected from files in the order of time is
  everything up to the time of one of them.  This is what lets the latest time
  that was read stand for all that was read.
-/
import Mathlib
import TableSync.Csv.Directory

namespace TableSync.Csv

/-! ## 1. The greedy run -/

theorem fitting_front (budget taken : Int) (files : List FileEntry) : fitting budget taken files <+: files := by
  induction files generalizing taken with
  | nil => exact List.prefix_rfl
  | cons entry rest ih =>
    rw [fitting]
    split
    · exact List.nil_prefix
    · exact (List.cons_prefix_cons).2 ⟨rfl, ih _⟩

theorem greedy_front (budget : Int) (files : List FileEntry) : greedy budget files <+: files := by
  cases files with
  | nil => exact List.prefix_rfl
  | cons entry rest => exact (List.cons_prefix_cons).2 ⟨rfl, fitting_front budget _ rest⟩

theorem greedy_ne_nil (budget : Int) {files : List FileEntry} (h : files ≠ []) : greedy budget files ≠ [] := by
  cases files with
  | nil => exact absurd rfl h
  | cons entry rest => exact List.cons_ne_nil _ _

/-! ## 2. The selection -/

theorem rel_getLast {α : Type} {R : α → α → Prop} {l : List α} {last : α} (h : l.Pairwise R)
    (hlast : l.getLast? = some last) (hrefl : R last last) : ∀ a ∈ l, R a last := by
  intro a ha
  have hne : l ≠ [] := List.ne_nil_of_mem ha
  obtain rfl : l.getLast hne = last := Option.some_inj.1 ((List.getLast?_eq_some_getLast hne).symm.trans hlast)
  exact h.rel_getLast_of_rel_getLast_getLast ha hrefl

/-- Oldest first. -/
def ByTime (files : List FileEntry) : Prop := files.Pairwise fun a b => a.modified ≤ b.modified

variable {files front rest : List FileEntry} {last : FileEntry}

/-- The front of the files, cut off where the time changes. -/
theorem ByTime.front_upTo (h : ByTime (front ++ rest)) (hlast : front.getLast? = some last)
    (hrest : ∀ entry ∈ rest, last.modified < entry.modified) :
    front = (front ++ rest).filter fun entry => entry.modified ≤ last.modified := by
  have hfront : ByTime front := (List.pairwise_append.1 h).1
  have hkept : front.filter (fun entry => entry.modified ≤ last.modified) = front :=
    List.filter_eq_self.2 fun entry hentry => decide_eq_true (rel_getLast hfront hlast (le_refl _) entry hentry)
  have hleft : rest.filter (fun entry => entry.modified ≤ last.modified) = [] :=
    List.filter_eq_nil_iff.2 fun entry hentry => by simpa using hrest entry hentry
  rw [List.filter_append, hkept, hleft, List.append_nil]

theorem ByTime.group_upTo (h : ByTime (front ++ rest)) (hlast : last ∈ front)
    (hleast : ∀ entry ∈ front, ¬ entry.modified < last.modified) :
    ((front ++ rest).filter fun entry => entry.modified == last.modified) =
      (front ++ rest).filter fun entry => entry.modified ≤ last.modified := by
  refine List.filter_congr fun entry hentry => ?_
  have hle : last.modified ≤ entry.modified := by
    rcases List.mem_append.1 hentry with hfront | hrest
    · exact not_lt.1 (hleast entry hfront)
    · exact (List.pairwise_append.1 h).2.2 last hlast entry hrest
  by_cases hsame : entry.modified = last.modified
  · simp [hsame]
  · have hlater : ¬ entry.modified ≤ last.modified := by omega
    simp [hsame, hlater]

/-- What is older than the time at which the front would be split. -/
theorem ByTime.older_upTo (h : ByTime (front ++ rest)) (hlast : ∀ entry ∈ rest, last.modified ≤ entry.modified)
    (hsome : (front.filter fun entry => entry.modified < last.modified) ≠ []) :
    ∃ reached ∈ front, (front.filter fun entry => entry.modified < last.modified) =
      (front ++ rest).filter fun entry => entry.modified ≤ reached.modified := by
  set older := front.filter fun entry => entry.modified < last.modified with holder
  have hreached : older.getLast? = some (older.getLast hsome) := List.getLast?_eq_some_getLast hsome
  set reached := older.getLast hsome
  obtain ⟨hmem, hearlier⟩ := List.mem_filter.1 (holder ▸ List.mem_of_getLast? hreached)
  have hearlier : reached.modified < last.modified := of_decide_eq_true hearlier
  have hsorted : ByTime older := (List.pairwise_append.1 h).1.filter _
  refine ⟨reached, hmem, ?_⟩
  have hleft : rest.filter (fun entry => entry.modified ≤ reached.modified) = [] := by
    refine List.filter_eq_nil_iff.2 fun entry hentry => ?_
    have hlater := hlast entry hentry
    simpa using show reached.modified < entry.modified by omega
  rw [List.filter_append, hleft, List.append_nil, holder]
  refine List.filter_congr fun entry hentry => ?_
  by_cases hbefore : entry.modified < last.modified
  · have hkept : entry ∈ older := List.mem_filter.2 ⟨hentry, decide_eq_true hbefore⟩
    simp [hbefore, rel_getLast hsorted hreached (le_refl _) entry hkept]
  · have hlater : ¬ entry.modified ≤ reached.modified := by omega
    simp [hbefore, hlater]

/-- **Files of one time are taken or left together.**  The selection ends in one of three ways: where the
time changes, before the time that it would split, or after the only time that it has reached. -/
theorem select_upTo (budget : Int) (h : ByTime files) (hsome : files ≠ []) :
    ∃ reached ∈ files, (select budget files).1 = files.filter fun entry => entry.modified ≤ reached.modified := by
  have hsplit := List.prefix_iff_eq_append.1 (greedy_front budget files)
  have hlast := List.getLast?_eq_some_getLast (greedy_ne_nil budget hsome)
  have hmem := List.getLast_mem (greedy_ne_nil budget hsome)
  unfold select
  simp only [hlast]
  generalize (greedy budget files).getLast (greedy_ne_nil budget hsome) = last at *
  generalize files.drop (greedy budget files).length = rest at *
  generalize greedy budget files = front at *
  subst hsplit
  have hacross := (List.pairwise_append.1 h).2.2 last hmem
  have hthere : last ∈ front ++ rest := List.mem_append_left _ hmem
  rcases rest with _ | ⟨next, rest⟩
  · exact ⟨last, hthere, h.front_upTo hlast (by simp)⟩
  · have hnext := List.pairwise_cons.1 (List.pairwise_append.1 h).2.1
    by_cases hsame : next.modified = last.modified
    · simp only [hsame, ne_eq, not_true_eq_false, if_false]
      by_cases holder : (front.filter fun entry => entry.modified < last.modified) = []
      · rw [if_pos (List.isEmpty_iff.2 holder)]
        have hleast := List.filter_eq_nil_iff.1 holder
        exact ⟨last, hthere, h.group_upTo hmem fun entry hentry => by simpa using hleast entry hentry⟩
      · rw [if_neg (by simpa using holder)]
        obtain ⟨reached, hreached, heq⟩ := h.older_upTo hacross holder
        exact ⟨reached, List.mem_append_left _ hreached, heq⟩
    · simp only [ne_eq, hsame, not_false_eq_true, if_true]
      refine ⟨last, hthere, h.front_upTo hlast ?_⟩
      have hlater : last.modified < next.modified := by
        have := hacross next List.mem_cons_self
        omega
      intro entry hentry
      rcases List.mem_cons.1 hentry with rfl | hentry
      · exact hlater
      · exact lt_of_lt_of_le hlater (hnext.1 entry hentry)

end TableSync.Csv
