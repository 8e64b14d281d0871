/-
  TableSync/Proofs/Csv/Fetch.lean
  ===============================
  **One fetch from a directory** — which files it selects and what it hands out.

  What is selected are the files between the checkpoint and the time of the
  newest of them, in the order of reading.  Over a directory whose files stay
  as they are and can be read, a fetch returns; its batch follows from the
  selection.
-/
import Mathlib
import TableSync.Proofs.Csv.Selection
import TableSync.Proofs.Effect

namespace TableSync.Csv

/-! ## 1. The order of reading -/

theorem readBefore_iff {a b : StoredFile} : readBefore a b = true ↔
    a.modifiedMillis < b.modifiedMillis ∨ a.modifiedMillis = b.modifiedMillis ∧ a.name ≤ b.name := by
  simp [readBefore]

theorem modifiedMillis_le_of_readBefore {a b : StoredFile} (h : readBefore a b = true) :
    a.modifiedMillis ≤ b.modifiedMillis := by
  rcases readBefore_iff.1 h with hlt | ⟨heq, -⟩
  · exact le_of_lt hlt
  · exact le_of_eq heq

theorem readBefore_trans (a b c : StoredFile) (hab : readBefore a b = true) (hbc : readBefore b c = true) :
    readBefore a c = true := by
  rw [readBefore_iff] at hab hbc ⊢
  rcases hab with hab | ⟨hab, hname⟩ <;> rcases hbc with hbc | ⟨hbc, hname'⟩
  · exact .inl (by omega)
  · exact .inl (by omega)
  · exact .inl (by omega)
  · exact .inr ⟨by omega, le_trans hname hname'⟩

theorem readBefore_total (a b : StoredFile) : (readBefore a b || readBefore b a) = true := by
  rw [Bool.or_eq_true, readBefore_iff, readBefore_iff]
  rcases lt_trichotomy a.modifiedMillis b.modifiedMillis with h | h | h
  · exact .inl (.inl h)
  · rcases le_total a.name b.name with hname | hname
    · exact .inl (.inr ⟨h, hname⟩)
    · exact .inr (.inr ⟨h.symm, hname⟩)
  · exact .inr (.inl h)

namespace Directory

variable {σ : Type} {directory : Directory σ} {files listed selected : List StoredFile} {after budget : Int}

/-! ## 2. What is selected -/

/-- The files of the pattern. -/
def matching (directory : Directory σ) (files : List StoredFile) : List StoredFile :=
  files.filter fun file => !file.isDirectory && Text.Glob.pathFits directory.pattern file.path

/-- What a window of a listing holds. -/
def selection (directory : Directory σ) (listed : List StoredFile) (after budget : Int) : List StoredFile :=
  let candidates := eligible directory.pattern after listed
  candidates.filter fun file => (select budget (candidates.map StoredFile.entry)).1.contains file.entry

theorem eligible_perm : (eligible directory.pattern after files).Perm
    ((directory.matching files).filter fun file => after < file.modifiedMillis) := by
  rw [eligible, matching, List.filter_filter]
  refine (List.mergeSort_perm _ _).trans (.of_eq (List.filter_congr fun file _ => ?_))
  rw [Bool.and_comm]

theorem eligible_ordered : (eligible directory.pattern after files).Pairwise fun a b => readBefore a b = true :=
  List.pairwise_mergeSort readBefore_trans readBefore_total _

/-- The selection follows from what it reaches: the time of one of the files. -/
theorem selection_upTo (budget : Int) (h : eligible directory.pattern after listed ≠ []) :
    ∃ reached ∈ eligible directory.pattern after listed, directory.selection listed after budget =
      (eligible directory.pattern after listed).filter fun file => file.modifiedMillis ≤ reached.modifiedMillis := by
  have hsorted : ByTime ((eligible directory.pattern after listed).map StoredFile.entry) :=
    List.pairwise_map.2 (eligible_ordered.imp modifiedMillis_le_of_readBefore)
  obtain ⟨entry, hentry, hselect⟩ := select_upTo budget hsorted (by simpa using h)
  obtain ⟨reached, hreached, rfl⟩ := List.mem_map.1 hentry
  refine ⟨reached, hreached, ?_⟩
  rw [selection, hselect]
  refine List.filter_congr fun file hfile => ?_
  rw [Bool.eq_iff_iff, List.contains_iff_mem, List.mem_filter]
  exact ⟨fun ⟨_, hle⟩ => hle, fun hle => ⟨List.mem_map_of_mem hfile, hle⟩⟩

/-- What a window selects that is newer than one time: all up to another one, in order. -/
structure Takes (directory : Directory σ) (files : List StoredFile) (after reached : Int)
    (selected : List StoredFile) : Prop where
  perm : selected.Perm ((directory.matching files).filter fun file =>
    after < file.modifiedMillis && file.modifiedMillis ≤ reached)
  ordered : selected.Pairwise fun a b => readBefore a b = true
  onward : after < reached
  newest : ∃ file, selected.getLast? = some file ∧ file.modifiedMillis = reached

theorem selection_takes (budget : Int) (hlisted : listed.Perm files)
    (hunread : ∃ file ∈ directory.matching files, after < file.modifiedMillis) :
    ∃ reached, directory.Takes files after reached (directory.selection listed after budget) := by
  have hmatching : (directory.matching listed).Perm (directory.matching files) := hlisted.filter _
  obtain ⟨unread, hthere, hnewer⟩ := hunread
  have hsome : eligible directory.pattern after listed ≠ [] := by
    refine List.ne_nil_of_mem (eligible_perm.mem_iff.2 (List.mem_filter.2 ⟨?_, decide_eq_true hnewer⟩))
    exact hmatching.mem_iff.2 hthere
  obtain ⟨reached, hreached, hselection⟩ := selection_upTo budget hsome
  have hordered : (directory.selection listed after budget).Pairwise fun a b => readBefore a b = true := by
    rw [hselection]
    exact eligible_ordered.filter _
  refine ⟨reached.modifiedMillis, ?_, hordered, ?_, ?_⟩
  · rw [hselection]
    refine ((eligible_perm.filter _).trans (.of_eq (List.filter_filter ..))).trans ?_
    refine (List.Perm.of_eq (List.filter_congr fun file _ => ?_)).trans (hmatching.filter _)
    rw [Bool.and_comm]
  · exact of_decide_eq_true (List.mem_filter.1 (eligible_perm.mem_iff.1 hreached)).2
  · -- the last file is no newer than what is reached, and no older as it comes last
    have hmem : reached ∈ directory.selection listed after budget := by
      rw [hselection]
      exact List.mem_filter.2 ⟨hreached, decide_eq_true (le_refl _)⟩
    obtain ⟨last, hlast⟩ := Option.isSome_iff_exists.1 (List.getLast?_isSome.2 (List.ne_nil_of_mem hmem))
    have hkept := List.mem_of_getLast? hlast
    rw [hselection] at hkept
    have hle := modifiedMillis_le_of_readBefore
      (rel_getLast hordered hlast (readBefore_iff.2 (.inr ⟨rfl, le_refl _⟩)) reached hmem)
    exact ⟨last, hlast, le_antisymm (of_decide_eq_true (List.mem_filter.1 hkept).2) hle⟩

theorem selection_nil (hlisted : listed.Perm files)
    (hread : ∀ file ∈ directory.matching files, file.modifiedMillis ≤ after) :
    directory.selection listed after budget = [] := by
  have hnone : eligible directory.pattern after listed = [] := by
    refine List.eq_nil_iff_forall_not_mem.2 fun file hfile => ?_
    obtain ⟨hthere, hnewer⟩ := List.mem_filter.1 (eligible_perm.mem_iff.1 hfile)
    have hle := hread file ((hlisted.filter _).mem_iff.1 hthere)
    exact absurd (of_decide_eq_true hnewer) (not_lt.2 hle)
  rw [selection, hnone]
  rfl

/-! ## 3. One fetch -/

/-- The frame of files one below another. -/
def frameOfAll (files : List StoredFile) : Frame :=
  (Frame.concat (files.filterMap fun file => (frameOf file.content).toOption.join)).rename normalized

/-- What a fetch hands out that selects these files. -/
def batchOf (directory : Directory σ) (since : Option String) (selected : List StoredFile) : Batch Frame :=
  match selected.getLast? with
  | none => ⟨none, since, directory.provider⟩
  | some newest => ⟨some (frameOfAll selected), some (toString newest.modifiedMillis), directory.provider⟩

/-- A directory whose files stay as they are: they can be read, and none is of a time before all times. -/
structure Stocked (directory : Directory σ) (files : List StoredFile) where
  /-- The states in which the listing answers. -/
  steady : σ → Prop
  listed : Effect.Leads steady directory.listing
    (fun found s => (∃ listed, found = some listed ∧ listed.Perm files) ∧ steady s) (fun _ _ => False)
  readable : ∀ file ∈ directory.matching files, ∃ frame, frameOf file.content = .ok frame
  dated : ∀ file ∈ directory.matching files, 0 ≤ file.modifiedMillis

theorem leads_window {P : σ → Prop} {E : Failure → σ → Prop} :
    Effect.Leads P (directory.window listed after budget)
      (fun selected s => selected = directory.selection listed after budget ∧ P s) E := by
  have hselect : ∀ entries : List FileEntry, Effect.Leads P (selectWithinBudget budget entries)
      (fun selected s => selected = (select budget entries).1 ∧ P s) E := by
    intro entries
    unfold selectWithinBudget
    rcases select budget entries with ⟨selected, overBudget⟩
    dsimp only
    split
    · exact (Effect.leads_log _ _ _).bind fun _ => Effect.leads_pure fun s hs => ⟨rfl, hs⟩
    · exact Effect.leads_pure fun s hs => ⟨rfl, hs⟩
  refine (hselect _).bind fun entries => Effect.leads_of_fact fun hentries => ?_
  exact Effect.leads_pure fun s hs => ⟨by rw [hentries]; rfl, hs⟩

theorem leads_readFiles {P : σ → Prop} {E : Failure → σ → Prop} :
    ∀ files : List StoredFile, (∀ file ∈ files, ∃ frame, frameOf file.content = .ok frame) →
      Effect.Leads P (directory.readFiles files)
        (fun frames s => frames = files.filterMap (fun file => (frameOf file.content).toOption.join) ∧ P s) E := by
  intro files hreadable
  induction files with
  | nil => exact Effect.leads_pure fun s hs => ⟨rfl, hs⟩
  | cons file rest ih =>
    obtain ⟨⟨found, hfound⟩, hrest⟩ := List.forall_mem_cons.1 hreadable
    have hread : Effect.Leads P (directory.readFile file) (fun frame s => frame = found ∧ P s) E := by
      unfold readFile
      rw [hfound]
      cases found with
      | none => exact (Effect.leads_log _ _ _).bind fun _ => Effect.leads_pure fun s hs => ⟨rfl, hs⟩
      | some frame => exact Effect.leads_pure fun s hs => ⟨rfl, hs⟩
    rw [readFiles]
    refine hread.bind fun frame => Effect.leads_of_fact ?_
    rintro rfl
    refine (ih hrest).bind fun others => Effect.leads_of_fact ?_
    rintro rfl
    refine Effect.leads_pure fun s hs => ⟨?_, hs⟩
    rw [List.filterMap_cons, hfound]
    cases frame with
    | none => rfl
    | some frame => rfl

theorem leads_readWindow {P : σ → Prop} {E : Failure → σ → Prop}
    (hreadable : ∀ file ∈ selected, ∃ frame, frameOf file.content = .ok frame) :
    Effect.Leads P (directory.readWindow selected) (fun frame s => frame = frameOfAll selected ∧ P s) E := by
  refine (Effect.leads_log _ _ _).bind fun _ => ?_
  refine (leads_readFiles selected hreadable).bind fun frames => Effect.leads_of_fact ?_
  rintro rfl
  exact Effect.leads_pure fun s hs => ⟨rfl, hs⟩

/-- A fetch from a listing of which `L` holds, if what it selects can be read. -/
theorem leads_fetch_of_listing {P : σ → Prop} {E : Failure → σ → Prop} {L : List StoredFile → Prop} {since : Option String}
    {limit : Int} (hlisting : Effect.Leads P directory.listing
      (fun found s => (∃ listed, found = some listed ∧ L listed) ∧ P s) E) (hsince : newerThan since = .ok after)
    (hreadable : ∀ listed, L listed → ∀ file ∈ directory.selection listed after limit,
      ∃ frame, frameOf file.content = .ok frame) :
    Effect.Leads P (directory.fetch since limit)
      (fun batch s => (∃ listed : List StoredFile, L listed ∧
        batch = directory.batchOf since (directory.selection listed after limit)) ∧ P s) E := by
  unfold fetch
  refine hlisting.bind fun found => Effect.leads_of_fact ?_
  rintro ⟨listed, rfl, hlisted⟩
  simp only [hsince]
  refine leads_window.bind fun selected => Effect.leads_of_fact fun hselected => ?_
  cases hlast : selected.getLast? with
  | none =>
    refine (Effect.leads_log _ _ _).bind fun _ => Effect.leads_pure fun s hs => ⟨⟨listed, hlisted, ?_⟩, hs⟩
    rw [← hselected, batchOf, hlast]
  | some newest =>
    have hread : ∀ file ∈ selected, ∃ frame, frameOf file.content = .ok frame := by
      rw [hselected]
      exact hreadable listed hlisted
    refine (leads_readWindow hread).bind fun frame => Effect.leads_of_fact fun hframe => ?_
    refine (Effect.leads_log _ _ _).bind fun _ => Effect.leads_pure fun s hs => ⟨⟨listed, hlisted, ?_⟩, hs⟩
    rw [← hselected, batchOf, hlast, hframe]

theorem mem_matching_of_selection {file : StoredFile} (hfile : file ∈ directory.selection listed after budget) :
    file ∈ directory.matching listed ∧ after < file.modifiedMillis := by
  obtain ⟨hthere, hnewer⟩ := List.mem_filter.1 (eligible_perm.mem_iff.1 (List.mem_filter.1 hfile).1)
  exact ⟨hthere, of_decide_eq_true hnewer⟩

namespace Stocked

variable (stocked : directory.Stocked files)
include stocked

theorem leads_fetch {since : Option String} (hsince : newerThan since = .ok after) (limit : Int) :
    Effect.Leads stocked.steady (directory.fetch since limit)
      (fun batch s => (∃ listed : List StoredFile, listed.Perm files ∧
        batch = directory.batchOf since (directory.selection listed after limit)) ∧ stocked.steady s)
      (fun _ _ => False) := by
  apply leads_fetch_of_listing stocked.listed hsince
  intro listed hperm file hfile
  exact stocked.readable file ((hperm.filter _).mem_iff.1 (mem_matching_of_selection hfile).1)

end Stocked

end Directory

end TableSync.Csv
