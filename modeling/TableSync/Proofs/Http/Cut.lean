/-
  TableSync/Proofs/Http/Cut.lean
  ==============================
  **Where a window ends** — records cut between two timestamps.

  The next window begins strictly after the greatest timestamp of this one.
  Nothing is lost and nothing comes twice exactly if every record of the
  window is strictly earlier than every record that it leaves: that is a
  `Cut`.  A window of sorted records ends in one of four ways (`Ends`).  Three
  of them are cuts, whatever is still to come on later pages; in the fourth one
  timestamp fills the window and is the least of all.
-/
import TableSync.Http.Paged
import TableSync.Proofs.Distinct

namespace TableSync.Http.PagedApi

variable {api : PagedApi}

/-! ## 1. Timestamps -/

/-- The record is newer than a checkpoint; every record is newer than none. -/
def isAfter (api : PagedApi) (since : Option String) (record : Record) : Bool :=
  match since with
  | some checkpoint => decide (checkpoint < api.timestamp record)
  | none => true

theorem isAfter_some {checkpoint : String} {record : Record} :
    api.isAfter (some checkpoint) record = true ↔ checkpoint < api.timestamp record :=
  decide_eq_true_iff

theorem not_isAfter_some {checkpoint : String} {record : Record} :
    api.isAfter (some checkpoint) record = false ↔ api.timestamp record ≤ checkpoint := by
  rw [isAfter, decide_eq_false_iff_not, Std.not_lt]

/-- The record has a text as its timestamp, and the text is not empty. -/
def Stamped (api : PagedApi) (record : Record) : Prop :=
  ∃ t, Fields.get? record api.timestampField = some (.text t) ∧ t ≠ ""

theorem Stamped.timestamp_ne {record : Record} (h : api.Stamped record) : api.timestamp record ≠ "" := by
  obtain ⟨t, hget, hne⟩ := h
  simp [timestamp, hget, Value.isBlank, hne]

theorem sorted_perm (records : List Record) : (api.sorted records).Perm records :=
  List.mergeSort_perm records _

theorem pairwise_sorted (records : List Record) :
    (api.sorted records).Pairwise fun a b => api.timestamp a ≤ api.timestamp b :=
  pairwise_le_mergeSort api.timestamp records

/-- The search for the greatest timestamp, once there is one. -/
theorem foldl_greater (times : List String) (first : String) :
    ∃ greatest ∈ first :: times, times.foldl greater (some first) = some greatest ∧
      ∀ t ∈ first :: times, t ≤ greatest := by
  induction times generalizing first with
  | nil => exact ⟨first, by simp⟩
  | cons t rest ih =>
    rw [List.foldl_cons, greater]
    split
    next hlt =>
      obtain ⟨greatest, hmem, hfold, hle⟩ := ih t
      have ht : t ≤ greatest := hle t List.mem_cons_self
      have hfirst : first ≤ greatest := Std.le_of_lt (Std.lt_of_lt_of_le hlt ht)
      exact ⟨greatest, List.mem_cons_of_mem _ hmem, hfold, List.forall_mem_cons.2 ⟨hfirst, hle⟩⟩
    next hge =>
      obtain ⟨greatest, hmem, hfold, hle⟩ := ih first
      obtain ⟨hfirst, hrest⟩ := List.forall_mem_cons.1 hle
      have ht : t ≤ greatest := Std.le_trans (Std.not_lt.1 hge) hfirst
      exact ⟨greatest, by grind, hfold, List.forall_mem_cons.2 ⟨hfirst, List.forall_mem_cons.2 ⟨ht, hrest⟩⟩⟩

theorem empty_le (t : String) : "" ≤ t := by
  rw [← Std.not_lt, String.lt_iff]
  exact List.not_lt_nil _

/-- The greatest timestamp is that of a record that has one; there is none if every record is blank. -/
theorem latest?_cases (records : List Record) :
    (api.latest? records = none ∧ ∀ r ∈ records, api.timestamp r = "") ∨
    ∃ last ∈ records, api.timestamp last ≠ "" ∧ api.latest? records = some (api.timestamp last) ∧
      ∀ r ∈ records, api.timestamp r ≤ api.timestamp last := by
  have hmem : ∀ t, t ∈ (records.map api.timestamp).filter (fun t => !t.isEmpty) ↔
      ∃ r ∈ records, api.timestamp r = t ∧ t ≠ "" := by
    intro t
    simp only [List.mem_filter, List.mem_map, Bool.not_eq_true', String.isEmpty_eq_false_iff]
    grind
  rw [latest?]
  cases htimes : (records.map api.timestamp).filter fun t => !t.isEmpty with
  | nil =>
    left
    refine ⟨rfl, fun r hr => Decidable.byContradiction fun hne => ?_⟩
    have hthere := (hmem _).2 ⟨r, hr, rfl, hne⟩
    rw [htimes] at hthere
    exact List.not_mem_nil hthere
  | cons first rest =>
    right
    obtain ⟨greatest, hgreatest, hfold, hle⟩ := foldl_greater rest first
    rw [htimes] at hmem
    obtain ⟨last, hlast, rfl, hne⟩ := (hmem greatest).1 hgreatest
    refine ⟨last, hlast, hne, hfold, fun r hr => ?_⟩
    by_cases hblank : api.timestamp r = ""
    · rw [hblank]
      exact empty_le _
    · exact hle _ ((hmem _).2 ⟨r, hr, rfl, hblank⟩)

/-- The greatest timestamp of records that all have one is the timestamp of one of them. -/
theorem latest?_of_ne_nil {records : List Record} (hstamped : ∀ r ∈ records, api.Stamped r) (hne : records ≠ []) :
    ∃ last ∈ records, api.latest? records = some (api.timestamp last) ∧
      ∀ r ∈ records, api.timestamp r ≤ api.timestamp last := by
  rcases @latest?_cases api records with ⟨-, hblank⟩ | ⟨last, hlast, -, hlatest, hle⟩
  · obtain ⟨first, hfirst⟩ := List.exists_mem_of_ne_nil records hne
    exact absurd (hblank first hfirst) (hstamped first hfirst).timestamp_ne
  · exact ⟨last, hlast, hlatest, hle⟩

/-! ## 2. Cuts -/

/-- Records are shared out between a window and what it leaves for later, and everything in the window
is strictly earlier than everything left. -/
structure Cut (api : PagedApi) (records kept left : List Record) : Prop where
  perm : (kept ++ left).Perm records
  earlier : ∀ a ∈ kept, ∀ b ∈ left, api.timestamp a < api.timestamp b

theorem cut_all (records : List Record) : api.Cut records records [] :=
  ⟨by simp, by simp⟩

/-- The records on one side of a line that separates timestamps, if what is unseen lies on the other side. -/
theorem cut_filter {side : Record → Bool} {read unseen : List Record}
    (hside : ∀ a b, side a = true → side b = false → api.timestamp a < api.timestamp b)
    (hunseen : ∀ r ∈ unseen, side r = false) :
    api.Cut (read ++ unseen) (read.filter side) ((read ++ unseen).filter fun r => !side r) := by
  have hnone : unseen.filter side = [] :=
    List.filter_eq_nil_iff.2 fun r hr => by rw [hunseen r hr]; exact Bool.false_ne_true
  have hperm := List.filter_append_perm side (read ++ unseen)
  rw [List.filter_append, hnone, List.append_nil] at hperm
  refine ⟨hperm, fun a ha b hb => hside a b (List.mem_filter.1 ha).2 ?_⟩
  simpa using (List.mem_filter.1 hb).2

theorem cut_before {boundary : String} {read unseen : List Record}
    (hunseen : ∀ r ∈ unseen, boundary ≤ api.timestamp r) :
    ∃ left, api.Cut (read ++ unseen) (read.filter fun r => decide (api.timestamp r < boundary)) left := by
  refine ⟨_, cut_filter (fun a b ha hb => ?_) fun r hr => ?_⟩
  · rw [decide_eq_true_eq] at ha
    rw [decide_eq_false_iff_not, Std.not_lt] at hb
    exact Std.lt_of_lt_of_le ha hb
  · rw [decide_eq_false_iff_not, Std.not_lt]
    exact hunseen r hr

theorem cut_upTo {boundary : String} {read unseen : List Record}
    (hunseen : ∀ r ∈ unseen, boundary < api.timestamp r) :
    ∃ left, api.Cut (read ++ unseen) (read.filter fun r => decide (api.timestamp r ≤ boundary)) left := by
  refine ⟨_, cut_filter (fun a b ha hb => ?_) fun r hr => ?_⟩
  · rw [decide_eq_true_eq] at ha
    rw [decide_eq_false_iff_not, Std.not_le] at hb
    exact Std.lt_of_le_of_lt ha hb
  · rw [decide_eq_false_iff_not, Std.not_le]
    exact hunseen r hr

theorem Cut.of_perm {records records' kept kept' left : List Record} (h : api.Cut records kept left)
    (hkept : kept.Perm kept') (hrecords : records.Perm records') : api.Cut records' kept' left :=
  ⟨(hkept.symm.append_right left).trans (h.perm.trans hrecords), fun a ha => h.earlier a (hkept.mem_iff.2 ha)⟩

/-- A cut is exact: the greatest timestamp of the window tells what is in it. -/
theorem Cut.perm_filter {records kept left : List Record} (h : api.Cut records kept left) {last : Record}
    (hlast : last ∈ kept) (hle : ∀ r ∈ kept, api.timestamp r ≤ api.timestamp last) :
    kept.Perm (records.filter fun r => !api.isAfter (some (api.timestamp last)) r) := by
  have hkept : kept.filter (fun r => !api.isAfter (some (api.timestamp last)) r) = kept :=
    List.filter_eq_self.2 fun r hr => by rw [Bool.not_eq_true', not_isAfter_some]; exact hle r hr
  have hleft : left.filter (fun r => !api.isAfter (some (api.timestamp last)) r) = [] :=
    List.filter_eq_nil_iff.2 fun r hr => by
      rw [Bool.not_eq_true', not_isAfter_some, Std.not_le]
      exact h.earlier last hlast r hr
  have hperm := h.perm.filter fun r => !api.isAfter (some (api.timestamp last)) r
  rwa [List.filter_append, hkept, hleft, List.append_nil] at hperm

/-! ## 3. The end of a window -/

/-- Sorted records around one of them. -/
theorem around {front rest : List Record} {last : Record}
    (hsorted : (front ++ last :: rest).Pairwise fun a b => api.timestamp a ≤ api.timestamp b) :
    (∀ r ∈ front ++ [last], api.timestamp r ≤ api.timestamp last) ∧ ∀ r ∈ rest, api.timestamp last ≤ api.timestamp r := by
  obtain ⟨-, hrest, hacross⟩ := List.pairwise_append.1 hsorted
  constructor
  · intro r hr
    rcases List.mem_append.1 hr with hmem | hmem
    · exact hacross r hmem last List.mem_cons_self
    · obtain rfl := List.mem_singleton.1 hmem
      exact Std.le_refl _
  · exact (List.pairwise_cons.1 hrest).1

/-- What follows a cut that splits no timestamp is later, and no page is left. -/
theorem later_of_not_straddles {boundary : String} {more : Bool} {rest : List Record}
    (h : api.straddles boundary more rest = false)
    (hsorted : rest.Pairwise fun a b => api.timestamp a ≤ api.timestamp b)
    (hle : ∀ r ∈ rest, boundary ≤ api.timestamp r) : more = false ∧ ∀ r ∈ rest, boundary < api.timestamp r := by
  cases rest with
  | nil => exact ⟨h, List.forall_mem_nil _⟩
  | cons next rest =>
    simp only [straddles, Bool.or_eq_false_iff, beq_eq_false_iff_ne] at h
    have hnext : boundary < api.timestamp next := Std.lt_of_le_of_ne (hle next List.mem_cons_self) h.2.symm
    exact ⟨h.1, List.forall_mem_cons.2
      ⟨hnext, fun r hr => Std.lt_of_lt_of_le hnext ((List.pairwise_cons.1 hsorted).1 r hr)⟩⟩

theorem again_of_straddles {boundary : String} {more : Bool} {rest : List Record}
    (h : api.straddles boundary more rest = true) : more = true ∨ ∃ r ∈ rest, api.timestamp r = boundary := by
  cases rest with
  | nil => exact .inl h
  | cons next rest =>
    rw [straddles, Bool.or_eq_true, beq_iff_eq] at h
    rcases h with hmore | hsame
    · exact .inl hmore
    · exact .inr ⟨next, List.mem_cons_self, hsame⟩

/-- If more records were read than a window may hold, or may follow, there is a last one that it may hold. -/
theorem exists_last {records : List Record} {limit : Int} {more : Bool} (hlimit : 1 ≤ limit)
    (hmore : more = true → limit ≤ records.length) (hover : ¬ (more = false ∧ (records.length : Int) ≤ limit)) :
    ∃ front last rest, records = front ++ last :: rest ∧ (front.length + 1 : Int) = limit := by
  have hlen : limit ≤ records.length := by
    cases more with
    | true => exact hmore rfl
    | false => simp only [true_and, Int.not_le] at hover; omega
  have hlt : limit.toNat - 1 < records.length := by omega
  refine ⟨records.take (limit.toNat - 1), records[limit.toNat - 1], records.drop (limit.toNat - 1 + 1), ?_, ?_⟩
  · rw [List.getElem_cons_drop, List.take_append_drop]
  · rw [List.length_take]
    omega

/-- How a window of sorted records ends: with all of them, with the first ones up to the limit, with those before
the last timestamp that it reaches, or with the whole of the least timestamp. -/
inductive Ends (api : PagedApi) (limit : Int) (more : Bool) (records : List Record) : Ending → Prop
  | all (fits : (records.length : Int) ≤ limit) (done : more = false) : Ends api limit more records (.upTo records)
  | full {front rest : List Record} {last : Record} (split : records = front ++ last :: rest)
      (length : (front.length + 1 : Int) = limit) (done : more = false)
      (later : ∀ r ∈ rest, api.timestamp last < api.timestamp r) :
      Ends api limit more records (.upTo (front ++ [last]))
  | before {front rest : List Record} {last : Record} (split : records = front ++ last :: rest)
      (length : (front.length + 1 : Int) = limit)
      (again : more = true ∨ ∃ r ∈ rest, api.timestamp r = api.timestamp last)
      (earlier : ∃ r ∈ front, api.timestamp r < api.timestamp last) :
      Ends api limit more records (.upTo (front.filter fun r => decide (api.timestamp r < api.timestamp last)))
  | through {front rest : List Record} {last : Record} (split : records = front ++ last :: rest)
      (length : (front.length + 1 : Int) = limit) (least : ∀ r ∈ records, api.timestamp last ≤ api.timestamp r) :
      Ends api limit more records (.through (api.timestamp last))

theorem ending_ends {records : List Record} {limit : Int} {more : Bool}
    (hsorted : records.Pairwise fun a b => api.timestamp a ≤ api.timestamp b) (hlimit : 1 ≤ limit)
    (hmore : more = true → limit ≤ records.length) :
    ∃ last, api.ending limit more records = .ok last ∧ api.Ends limit more records last := by
  by_cases hfits : more = false ∧ (records.length : Int) ≤ limit
  · exact ⟨_, by simp [ending, hfits.1, hfits.2], .all hfits.2 hfits.1⟩
  · obtain ⟨front, last, rest, rfl, hlength⟩ := exists_last hlimit hmore hfits
    have hover : (!more && decide (((front ++ last :: rest).length : Int) ≤ limit)) = false := by
      simpa [and_comm] using hfits
    have hcut : min (front ++ last :: rest).length limit.toNat = front.length + 1 := by
      rw [List.length_append, List.length_cons]
      omega
    have htake : (front ++ last :: rest).take (front.length + 1) = front ++ [last] := by
      rw [List.take_append, List.take_of_length_le (by omega)]
      simp
    have hdrop : (front ++ last :: rest).drop (front.length + 1) = rest := by
      rw [List.drop_append, List.drop_of_length_le (by omega)]
      simp
    have hbefore : (front ++ [last]).filter (fun r => decide (api.timestamp r < api.timestamp last)) =
        front.filter fun r => decide (api.timestamp r < api.timestamp last) := by
      rw [List.filter_append, List.filter_cons_of_neg (by simp), List.filter_nil, List.append_nil]
    obtain ⟨-, hafter⟩ := around hsorted
    have hrest := (List.pairwise_cons.1 (List.pairwise_append.1 hsorted).2.1).2
    simp only [ending, hover, hcut, htake, hdrop, hbefore, List.getLast?_concat, Bool.false_eq_true, if_false]
    by_cases hstraddles : api.straddles (api.timestamp last) more rest = true
    · rw [if_neg (by simp [hstraddles])]
      by_cases hnone : front.filter (fun r => decide (api.timestamp r < api.timestamp last)) = []
      · rw [if_pos (List.isEmpty_iff.2 hnone)]
        refine ⟨_, rfl, .through rfl hlength ?_⟩
        intro r hr
        rcases List.mem_append.1 hr with hmem | hmem
        · -- nothing of the first records is before the last of them
          have hge := List.filter_eq_nil_iff.1 hnone r hmem
          rwa [decide_eq_true_eq, Std.not_lt] at hge
        · rcases List.mem_cons.1 hmem with rfl | hmem
          · exact Std.le_refl _
          · exact hafter r hmem
      · rw [if_neg (by rwa [List.isEmpty_iff])]
        obtain ⟨early, hearly⟩ := List.exists_mem_of_ne_nil _ hnone
        obtain ⟨hmem, hlt⟩ := List.mem_filter.1 hearly
        exact ⟨_, rfl, .before rfl hlength (again_of_straddles hstraddles) ⟨early, hmem, of_decide_eq_true hlt⟩⟩
    · rw [if_pos (by simp [hstraddles])]
      obtain ⟨hdone, hlater⟩ := later_of_not_straddles (Bool.not_eq_true _ ▸ hstraddles) hrest hafter
      exact ⟨_, rfl, .full rfl hlength hdone hlater⟩

/-- A window that ends within its limit is a cut, whatever is still to come on later pages. -/
theorem Ends.cut {records unseen kept : List Record} {limit : Int} {more : Bool}
    (h : api.Ends limit more records (.upTo kept))
    (hsorted : records.Pairwise fun a b => api.timestamp a ≤ api.timestamp b) (hdone : more = false → unseen = [])
    (hunseen : ∀ a ∈ records, ∀ b ∈ unseen, api.timestamp a ≤ api.timestamp b) :
    (∃ left, api.Cut (records ++ unseen) kept left) ∧ (kept.length : Int) ≤ limit ∧
      (kept = [] → records ++ unseen = []) := by
  cases h with
  | all fits done =>
    rw [hdone done, List.append_nil]
    exact ⟨⟨[], cut_all records⟩, fits, fun h => h⟩
  | @full front rest last split length done later =>
    -- the cut falls between two timestamps, and no page is left
    subst split
    obtain ⟨hbefore, -⟩ := around hsorted
    refine ⟨⟨rest, ?_, ?_⟩, by simp; omega, by simp⟩
    · simp [hdone done]
    · intro a ha b hb
      exact Std.lt_of_le_of_lt (hbefore a ha) (later b hb)
  | @before front rest last split length again earlier =>
    -- the last timestamp is left for later
    subst split
    obtain ⟨-, hafter⟩ := around hsorted
    have hlater : ∀ r ∈ last :: rest ++ unseen, api.timestamp last ≤ api.timestamp r := by
      intro r hr
      rcases List.mem_append.1 hr with hmem | hmem
      · rcases List.mem_cons.1 hmem with rfl | hmem
        · exact Std.le_refl _
        · exact hafter r hmem
      · exact hunseen last (by simp) r hmem
    obtain ⟨left, hcut⟩ := @cut_before api _ front _ hlater
    rw [← List.append_assoc] at hcut
    refine ⟨⟨left, hcut⟩, ?_, ?_⟩
    · have hshort := List.length_filter_le (fun r => decide (api.timestamp r < api.timestamp last)) front
      omega
    · intro hnone
      obtain ⟨r, hr, hlt⟩ := earlier
      exact absurd hnone (List.ne_nil_of_mem (List.mem_filter.2 ⟨hr, decide_eq_true hlt⟩))

/-- A timestamp that fills the window is there, and the least of all. -/
theorem Ends.boundary {records : List Record} {limit : Int} {more : Bool} {boundary : String}
    (h : api.Ends limit more records (.through boundary)) :
    (∃ r ∈ records, api.timestamp r = boundary) ∧ ∀ r ∈ records, boundary ≤ api.timestamp r := by
  cases h with
  | @through front rest last split length least => exact ⟨⟨last, by simp [split], rfl⟩, least⟩

end TableSync.Http.PagedApi
