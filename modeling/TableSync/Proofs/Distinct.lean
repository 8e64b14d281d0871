/-
  TableSync/Proofs/Distinct.lean
  ==============================
  **Each value once** — a list without its repetitions.

  Keys, partitions and column names are listed in the order in which they are
  first seen.  Such a list grows at its end by what is new, and nothing occurs
  in it twice.  Lists that are shown are sorted by what they are shown by.
-/
import Mathlib.Data.List.Induction
import Mathlib.Data.List.Nodup

namespace TableSync

variable {α : Type} [BEq α] [LawfulBEq α] {seen : List α} {a : α}

theorem eraseDups_snoc_of_mem (h : a ∈ seen) : (seen ++ [a]).eraseDups = seen.eraseDups := by
  rw [List.eraseDups_append, List.removeAll, List.filter_cons_of_neg (by simpa using h), List.filter_nil,
    List.eraseDups_nil, List.append_nil]

theorem eraseDups_snoc_of_notMem (h : a ∉ seen) : (seen ++ [a]).eraseDups = seen.eraseDups ++ [a] := by
  rw [List.eraseDups_append, List.removeAll, List.filter_cons_of_pos (by simpa using h), List.filter_nil]
  rfl

theorem nodup_eraseDups (seen : List α) : seen.eraseDups.Nodup := by
  induction seen using List.reverseRecOn with
  | nil => exact List.nodup_nil
  | append_singleton seen a ih =>
    by_cases hmem : a ∈ seen
    · rw [eraseDups_snoc_of_mem hmem]
      exact ih
    · rw [eraseDups_snoc_of_notMem hmem]
      exact List.nodup_append.2 ⟨ih, List.nodup_singleton _, fun b hb c hc heq =>
        hmem (List.mem_eraseDups.1 (List.mem_singleton.1 hc ▸ heq ▸ hb))⟩

theorem eraseDups_sublist (seen : List α) : seen.eraseDups.Sublist seen := by
  induction seen using List.reverseRecOn with
  | nil => exact .slnil
  | append_singleton seen a ih =>
    by_cases hmem : a ∈ seen
    · rw [eraseDups_snoc_of_mem hmem]
      exact ih.trans (List.sublist_append_left _ _)
    · rw [eraseDups_snoc_of_notMem hmem]
      exact ih.append_right _

theorem eraseDups_of_nodup (h : seen.Nodup) : seen.eraseDups = seen := by
  induction seen with
  | nil => rfl
  | cons a rest ih =>
    obtain ⟨hnew, hrest⟩ := List.nodup_cons.1 h
    have hothers : rest.filter (fun b => !b == a) = rest :=
      List.filter_eq_self.2 fun b hb => by simpa using fun heq : b = a => hnew (heq ▸ hb)
    rw [List.eraseDups_cons, hothers, ih hrest]

/-- A list that is sorted by a measure of its members. -/
theorem pairwise_le_mergeSort {α β : Type} [LE β] [DecidableLE β] [Std.IsLinearPreorder β] (measure : α → β)
    (items : List α) :
    (items.mergeSort fun a b => decide (measure a ≤ measure b)).Pairwise fun a b => measure a ≤ measure b := by
  refine (List.pairwise_mergeSort ?_ ?_ items).imp of_decide_eq_true
  · intro a b c hab hbc
    exact decide_eq_true (Std.le_trans (of_decide_eq_true hab) (of_decide_eq_true hbc))
  · intro a b
    simpa using Std.le_total

end TableSync
