/-
  TableSync/Proofs/Csv/Together.lean
  ==================================
  **Files read together and one by one** — in records.

  A directory is read alone with one of its files, and with all that a round
  selects.  If each file can be read alone, all can be read together unless two
  different names in their headers are normalised to one, while there is a row.
  The records are then those of one file after the other, each with what it
  shows alone and null beside it (`read_together`).
-/
import TableSync.Proofs.Csv.Columns
import TableSync.Proofs.Csv.Fetch

namespace TableSync

namespace Source

variable {frame : Frame} {checkpoint : Option String} {given : Option SchemaProvider} {batch : Batch (List Record)}

/-- Rows become records if they can be told apart and described. -/
theorem recordsOf_eq_ok : recordsOf ⟨some frame, checkpoint, given⟩ = .ok batch ↔
    ∃ records provider, frame.toRecords = .ok records ∧ rowProvider ⟨some frame, checkpoint, given⟩ = .ok provider ∧
      batch = ⟨some records, checkpoint, provider⟩ := by
  unfold recordsOf
  cases hrecords : frame.toRecords with
  | error failure =>
    constructor
    · intro h
      simp only [hrecords] at h
      cases h
    · rintro ⟨_, _, hnone, -⟩
      cases hnone
  | ok records =>
    simp only [hrecords]
    constructor
    · intro h
      obtain ⟨data, hdata, h⟩ := bind_eq_ok.1 h
      cases hdata
      obtain ⟨provider, hprovider, h⟩ := bind_eq_ok.1 h
      exact ⟨records, provider, rfl, hprovider, (Except.ok.inj h).symm⟩
    · rintro ⟨_, provider, hsame, hprovider, rfl⟩
      cases hsame
      exact bind_eq_ok.2 ⟨_, rfl, bind_eq_ok.2 ⟨provider, hprovider, rfl⟩⟩

theorem recordsOf_none : recordsOf ⟨none, checkpoint, given⟩ = .ok ⟨none, checkpoint, given⟩ := by
  cases given <;> rfl

theorem exists_rowProvider_iff : (∃ provider, rowProvider ⟨some frame, checkpoint, given⟩ = .ok provider) ↔
    given = none → ∀ name ∈ frame.names, 1 ≤ name.length := by
  cases given with
  | some provider =>
    constructor
    · intro _ hnone
      cases hnone
    · intro _
      exact ⟨some provider, rfl⟩
  | none =>
    rw [← Frame.exists_provider_iff Frame.derivedName]
    constructor
    · rintro ⟨provider, hprovider⟩ -
      obtain ⟨derived, hderived, -⟩ := bind_eq_ok.1 (show frame.provider Frame.derivedName >>= _ = _ from hprovider)
      exact ⟨derived, hderived⟩
    · intro h
      obtain ⟨derived, hderived⟩ := h rfl
      exact ⟨some derived, congrArg (some <$> ·) hderived⟩

end Source

namespace Csv.Directory

variable {σ : Type} {directory : Directory σ} {files selected : List StoredFile} {file : StoredFile}
variable {since : Option String} {after budget : Int} {w : World σ} {batch own : Batch (List Record)}

/-! ## 1. Reading a directory that holds some files -/

/-- The directory with other files in it. -/
def holding (directory : Directory σ) (files : List StoredFile) : Directory σ :=
  { directory with listing := pure (some files) }

/-- Reading the directory in records gives a batch. -/
def Reads (directory : Directory σ) (w : World σ) (since : Option String) (budget : Int)
    (batch : Batch (List Record)) : Prop :=
  ∃ w', (directory.source.fetchRecords since budget).runIn w = (.ok batch, w')

theorem leads_listing_holding {P : σ → Prop} {E : Failure → σ → Prop} (files : List StoredFile) :
    Effect.Leads P (directory.holding files).listing
      (fun found s => (∃ listed, found = some listed ∧ listed = files) ∧ P s) E :=
  Effect.leads_pure fun _ hs => ⟨⟨files, rfl, rfl⟩, hs⟩

/-- What is read follows from the selection, if that can be read. -/
theorem reads_holding_iff (hsince : newerThan since = .ok after)
    (hreadable : ∀ file ∈ directory.selection files after budget, ∃ frame, frameOf file.content = .ok frame) :
    (directory.holding files).Reads w since budget batch ↔
      Source.recordsOf (directory.batchOf since (directory.selection files after budget)) = .ok batch := by
  have hfetch : Effect.Leads (fun _ => True) ((directory.holding files).fetch since budget)
      (fun found _ => found = directory.batchOf since (directory.selection files after budget)) (fun _ _ => False) := by
    apply (leads_fetch_of_listing (leads_listing_holding files) hsince ?_).weaken (fun _ hs => hs) ?_ (fun _ _ hs => hs)
    · rintro listed rfl
      exact hreadable
    · rintro found s ⟨⟨listed, rfl, hfound⟩, -⟩
      exact hfound
  obtain ⟨found, w', hrun, hfound⟩ := hfetch.returns (w := w) trivial
  have hsource : ((directory.holding files).source.fetchRecords since budget).runIn w =
      (Source.recordsOf found, w') := Effect.runIn_bind_ok hrun
  rw [Reads, hsource, hfound]
  constructor
  · rintro ⟨_, hpair⟩
    exact (Prod.mk.inj hpair).1
  · intro hbatch
    exact ⟨w', by rw [hbatch]⟩

theorem selection_alone (hfile : file ∈ directory.selection files after budget) :
    directory.selection [file] after budget = [file] := by
  obtain ⟨hthere, hnewer⟩ := mem_matching_of_selection hfile
  obtain ⟨-, hmatches⟩ := List.mem_filter.1 hthere
  have heligible : eligible directory.pattern after [file] = [file] := by
    rw [eligible, List.filter_cons_of_pos (by simp [hmatches, hnewer]), List.filter_nil, List.mergeSort_singleton]
  rw [selection, heligible]
  simp [select, greedy, fitting]

/-- A file that is read alone can be read. -/
theorem Reads.readable (h : (directory.holding [file]).Reads w since budget own) (hsince : newerThan since = .ok after)
    (hfile : file ∈ directory.selection files after budget) : ∃ frame, frameOf file.content = .ok frame := by
  cases hframe : frameOf file.content with
  | ok frame => exact ⟨frame, rfl⟩
  | error cause =>
    have hread : Effect.Leads (fun _ : σ => True) ((directory.holding [file]).readFile file) (fun _ _ => False)
        (fun _ _ => True) := by
      unfold readFile
      rw [hframe]
      dsimp only
      split
      · exact Effect.leads_report (fun _ _ _ => trivial) _ _ _ _
      · exact Effect.leads_fail fun _ _ => trivial
    have hfetch : Effect.Leads (fun _ : σ => True) ((directory.holding [file]).fetch since budget) (fun _ _ => False)
        (fun _ _ => True) := by
      unfold fetch
      refine (leads_listing_holding [file]).bind fun found => Effect.leads_of_fact ?_
      rintro ⟨listed, rfl, rfl⟩
      simp only [hsince]
      refine leads_window.bind fun chosen => Effect.leads_of_fact fun hchosen => ?_
      have halone : chosen = [file] := hchosen.trans (selection_alone hfile)
      rw [halone]
      refine Effect.Leads.bind (R := fun _ _ => False) ?_ fun _ w hw => hw.elim
      refine (Effect.leads_log _ _ _).bind fun _ => ?_
      refine Effect.Leads.bind (R := fun _ _ => False) ?_ fun _ w hw => hw.elim
      exact hread.bind fun _ w hw => hw.elim
    obtain ⟨w', hrun⟩ := h
    have hrecords : Effect.Leads (fun _ : σ => True) ((directory.holding [file]).source.fetchRecords since budget)
        (fun _ _ => False) (fun _ _ => True) := hfetch.bind fun _ w hw => hw.elim
    exact (hrecords.of_ok trivial hrun).elim

/-! ## 2. The frames of files -/

/-- The frames of the files that are not blank. -/
def framesOf (files : List StoredFile) : List Frame :=
  files.filterMap fun file => (frameOf file.content).toOption.join

theorem mem_framesOf {frame : Frame} :
    frame ∈ framesOf files ↔ ∃ file ∈ files, frameOf file.content = .ok (some frame) := by
  rw [framesOf, List.mem_filterMap]
  apply exists_congr
  intro file
  rw [and_congr_right_iff]
  intro _
  cases frameOf file.content with
  | error cause => exact ⟨nofun, nofun⟩
  | ok found => simp [Except.toOption]

theorem framesOf_alone (file : StoredFile) : framesOf [file] = [] ∨ ∃ frame, framesOf [file] = [frame] := by
  rw [framesOf, List.filterMap_cons, List.filterMap_nil]
  cases (frameOf file.content).toOption.join with
  | none => exact .inl rfl
  | some frame => exact .inr ⟨frame, rfl⟩

theorem framesOf_subset (hfile : file ∈ files) : framesOf [file] ⊆ framesOf files := by
  intro frame hframe
  obtain ⟨own, hown, hcontent⟩ := mem_framesOf.1 hframe
  rw [List.mem_singleton.1 hown] at hcontent
  exact mem_framesOf.2 ⟨file, hfile, hcontent⟩

theorem regular_of_mem_framesOf {frame : Frame} (h : frame ∈ framesOf files) : frame.Regular := by
  obtain ⟨file, -, hframe⟩ := mem_framesOf.1 h
  exact regular_of_frameOf hframe

theorem framesOf_flatMap (files : List StoredFile) : framesOf files = files.flatMap fun file => framesOf [file] := by
  induction files with
  | nil => rfl
  | cons file rest ih =>
    rw [List.flatMap_cons, ← ih, ← List.singleton_append, framesOf, List.filterMap_append]
    rfl

/-- The records of files that are read in one batch. -/
def recordsOfAll (files : List StoredFile) : List Record :=
  (framesOf files).flatMap (Frame.share (framesOf files) normalized)

/-- The records of one file among them. -/
def partOf (files : List StoredFile) (file : StoredFile) : List Record :=
  (framesOf [file]).flatMap (Frame.share (framesOf files) normalized)

theorem recordsOfAll_eq (files : List StoredFile) : recordsOfAll files = files.flatMap (partOf files) := by
  conv => lhs; rw [recordsOfAll]; arg 2; rw [framesOf_flatMap]
  rw [List.flatMap_assoc]
  rfl

theorem toRecords_frameOfAll (files : List StoredFile) : (frameOfAll files).toRecords =
    if Frame.Compatible (framesOf files) normalized then .ok (recordsOfAll files)
    else .error (.outside .value "DataFrame columns must be unique for orient='records'." false) :=
  Frame.toRecords_concat (fun _ hframe => regular_of_mem_framesOf hframe) normalized

theorem names_frameOfAll (files : List StoredFile) :
    (frameOfAll files).names = (Frame.headers (framesOf files)).map normalized :=
  Frame.names_concat_rename

theorem batchOf_of_ne_nil (directory : Directory σ) (hsome : selected ≠ []) (since : Option String) : ∃ checkpoint,
    directory.batchOf since selected = ⟨some (frameOfAll selected), checkpoint, directory.provider⟩ := by
  rw [batchOf, List.getLast?_eq_some_getLast hsome]
  exact ⟨_, rfl⟩

theorem exists_records_iff (hsome : selected ≠ []) :
    (∃ batch, Source.recordsOf (directory.batchOf since selected) = .ok batch) ↔
      Frame.Compatible (framesOf selected) normalized ∧ (directory.provider = none →
        ∀ name ∈ Frame.headers (framesOf selected), 1 ≤ (normalized name).length) := by
  obtain ⟨checkpoint, hbatch⟩ := batchOf_of_ne_nil directory hsome since
  have hprovider := @Source.exists_rowProvider_iff (frameOfAll selected) checkpoint directory.provider
  rw [names_frameOfAll, List.forall_mem_map] at hprovider
  rw [hbatch, ← hprovider]
  constructor
  · rintro ⟨batch, hrecords⟩
    obtain ⟨records, provider, hrows, hgiven, -⟩ := Source.recordsOf_eq_ok.1 hrecords
    refine ⟨?_, provider, hgiven⟩
    by_contra hnot
    rw [toRecords_frameOfAll, if_neg hnot] at hrows
    cases hrows
  · rintro ⟨hcompatible, provider, hgiven⟩
    refine ⟨_, Source.recordsOf_eq_ok.2 ⟨recordsOfAll selected, provider, ?_, hgiven, rfl⟩⟩
    rw [toRecords_frameOfAll, if_pos hcompatible]

theorem data_of_records (h : Source.recordsOf (directory.batchOf since selected) = .ok batch) :
    batch.data.getD [] = recordsOfAll selected := by
  by_cases hsome : selected = []
  · subst hsome
    rw [batchOf, List.getLast?_nil] at h
    dsimp only at h
    rw [Source.recordsOf_none] at h
    cases h
    rfl
  · obtain ⟨checkpoint, hbatch⟩ := batchOf_of_ne_nil directory hsome since
    have hcompatible := ((exists_records_iff hsome).1 ⟨batch, h⟩).1
    rw [hbatch] at h
    obtain ⟨records, provider, hrows, -, rfl⟩ := Source.recordsOf_eq_ok.1 h
    rw [toRecords_frameOfAll, if_pos hcompatible] at hrows
    exact (Except.ok.inj hrows).symm

/-! ## 3. Together and one by one -/

theorem carried_partOf (hfile : file ∈ selected) (hcompatible : Frame.Compatible (framesOf selected) normalized) :
    List.Forall₂ (Carries ((Frame.headers (framesOf selected)).map normalized)) (recordsOfAll [file])
      (partOf selected file) := by
  rcases framesOf_alone file with hnone | ⟨frame, hone⟩
  · rw [recordsOfAll, partOf, hnone]
    exact .nil
  · have hframe : frame ∈ framesOf selected := framesOf_subset hfile (hone ▸ List.mem_singleton_self frame)
    rw [recordsOfAll, partOf, hone, List.flatMap_singleton, List.flatMap_singleton]
    exact Frame.carried_share (regular_of_mem_framesOf hframe) hframe hcompatible

/-- **Files read together and one by one.**  Each file that a round selects can be read when it is alone in the
directory.  Then all of them can be read in one batch if and only if no two names in their headers are normalised to
one, or there is no row.  The batch consists of the records of one file after the other, in the order of the
selection. -/
theorem read_together (hsince : newerThan since = .ok after)
    (halone : ∀ file ∈ directory.selection files after budget, ∃ own,
      (directory.holding [file]).Reads w since budget own) :
    ((∃ batch, (directory.holding files).Reads w since budget batch) ↔
      Frame.Compatible (framesOf (directory.selection files after budget)) normalized) ∧
    ∀ batch, (directory.holding files).Reads w since budget batch → ∃ parts : StoredFile → List Record,
      batch.data.getD [] = (directory.selection files after budget).flatMap parts ∧
      ∀ file ∈ directory.selection files after budget, ∀ own, (directory.holding [file]).Reads w since budget own →
        List.Forall₂ (Carries ((Frame.headers (framesOf (directory.selection files after budget))).map normalized))
          (own.data.getD []) (parts file) := by
  have hreadable : ∀ file ∈ directory.selection files after budget, ∃ frame, frameOf file.content = .ok frame := by
    intro file hfile
    obtain ⟨own, hown⟩ := halone file hfile
    exact hown.readable hsince hfile
  have hown : ∀ file ∈ directory.selection files after budget, ∀ own, (directory.holding [file]).Reads w since budget own →
      Source.recordsOf (directory.batchOf since [file]) = .ok own := by
    intro file hfile own hreads
    have hsingle := selection_alone hfile
    have hread : ∀ other ∈ directory.selection [file] after budget, ∃ frame, frameOf other.content = .ok frame := by
      rw [hsingle]
      exact List.forall_mem_singleton.2 (hreadable file hfile)
    have hrecords := (reads_holding_iff hsince hread).1 hreads
    rwa [hsingle] at hrecords
  have hall : ∀ batch, (directory.holding files).Reads w since budget batch ↔
      Source.recordsOf (directory.batchOf since (directory.selection files after budget)) = .ok batch :=
    fun batch => reads_holding_iff hsince hreadable
  simp only [hall]
  constructor
  · by_cases hsome : directory.selection files after budget = []
    · rw [hsome]
      constructor
      · intro _
        exact .inl nofun
      · intro _
        exact ⟨_, Source.recordsOf_none⟩
    · rw [exists_records_iff hsome, and_iff_left_iff_imp]
      -- every name stands in the header of a file, which has been read alone
      intro _ hnone name hname
      obtain ⟨frame, hframe, hthere⟩ := Frame.mem_headers.1 hname
      obtain ⟨file, hfile, hcontent⟩ := mem_framesOf.1 hframe
      obtain ⟨own, hreads⟩ := halone file hfile
      have hnamed := ((exists_records_iff (List.cons_ne_nil file [])).1 ⟨own, hown file hfile own hreads⟩).2 hnone
      apply hnamed
      exact Frame.mem_headers.2 ⟨frame, mem_framesOf.2 ⟨file, List.mem_singleton_self file, hcontent⟩, hthere⟩
  · intro batch hbatch
    refine ⟨partOf (directory.selection files after budget), ?_, ?_⟩
    · rw [data_of_records hbatch, recordsOfAll_eq]
    · intro file hfile own hreads
      have hsome : directory.selection files after budget ≠ [] := List.ne_nil_of_mem hfile
      rw [data_of_records (hown file hfile own hreads)]
      exact carried_partOf hfile ((exists_records_iff hsome).1 ⟨batch, hbatch⟩).1

/-- Whether a directory can be read is found by computing, if its files can be read. -/
theorem exists_reads_iff (hsince : newerThan since = .ok after)
    (hreadable : ∀ file ∈ directory.selection files after budget, (frameOf file.content).toOption.isSome = true) :
    (∃ batch, (directory.holding files).Reads w since budget batch) ↔
      (Source.recordsOf (directory.batchOf since (directory.selection files after budget))).toOption.isSome = true := by
  have hframes : ∀ file ∈ directory.selection files after budget, ∃ frame, frameOf file.content = .ok frame := by
    intro file hfile
    have hread := hreadable file hfile
    cases hframe : frameOf file.content with
    | ok frame => exact ⟨frame, rfl⟩
    | error cause => rw [hframe] at hread; cases hread
  simp only [reads_holding_iff hsince hframes]
  cases Source.recordsOf (directory.batchOf since (directory.selection files after budget)) with
  | error failure => exact ⟨nofun, nofun⟩
  | ok batch => exact ⟨fun _ => rfl, fun _ => ⟨batch, rfl⟩⟩

/-- Files that all match and come in the order of reading are selected if the budget lets them. -/
theorem selection_of_sorted (hall : ∀ file ∈ files, (!file.isDirectory && Text.Glob.pathFits directory.pattern file.path &&
      decide (after < file.modifiedMillis)) = true) (hsorted : files.Pairwise fun a b => readBefore a b = true)
    (hfits : (select budget (files.map StoredFile.entry)).1 = files.map StoredFile.entry) :
    directory.selection files after budget = files := by
  have heligible : eligible directory.pattern after files = files := by
    rw [eligible, List.filter_eq_self.2 hall]
    exact List.mergeSort_of_pairwise hsorted
  rw [selection, heligible, hfits]
  apply List.filter_eq_self.2
  intro file hfile
  rw [List.contains_iff_mem]
  exact List.mem_map_of_mem hfile

/-- A directory of orders, and a world in which it is read. -/
def ordersDirectory : Directory Unit :=
  { sourceName := "orders", path := "/data", listing := pure (some []) }

def ordersWorld : World Unit := { now := ⟨0⟩, state := () }

/-- Two files that share a column. -/
def ordersAndPrices : List StoredFile :=
  [{ path := "a.csv", modifiedNanos := 1000000000, content := "ID,Count\n1,2\n".toUTF8 },
    { path := "b.csv", modifiedNanos := 2000000000, content := "ID,Unit price\n3,0.5\n".toUTF8 }]

theorem ordersAndPrices_together :
    ∃ batch, (ordersDirectory.holding ordersAndPrices).Reads ordersWorld none 100 batch := by
  have hsince : newerThan none = .ok (-1) := rfl
  have hselection : ordersDirectory.selection ordersAndPrices (-1) 100 = ordersAndPrices :=
    selection_of_sorted (by decide +kernel) (by decide +kernel) (by decide +kernel)
  have halone : ∀ file ∈ ordersDirectory.selection ordersAndPrices (-1) 100, ∃ own,
      (ordersDirectory.holding [file]).Reads ordersWorld none 100 own := by
    rw [hselection]
    simp only [ordersAndPrices, List.forall_mem_cons]
    refine ⟨?_, ?_, nofun⟩
    · exact (exists_reads_iff hsince (by decide +kernel)).2 (by decide +kernel)
    · exact (exists_reads_iff hsince (by decide +kernel)).2 (by decide +kernel)
  have htogether := (read_together hsince halone).1
  rw [hselection] at htogether
  exact htogether.2 (by decide +kernel)

/-- Two files whose headers differ in the case of letters. -/
def renamedOrders : List StoredFile :=
  [{ path := "a.csv", modifiedNanos := 1000000000, content := "ID,v\n1,2\n".toUTF8 },
    { path := "b.csv", modifiedNanos := 2000000000, content := "id,v\n3,4\n".toUTF8 }]

/-- Each of them can be read alone, but not both together. -/
theorem renamedOrders_refused :
    (∀ file ∈ ordersDirectory.selection renamedOrders (-1) 100, ∃ own,
      (ordersDirectory.holding [file]).Reads ordersWorld none 100 own) ∧
    ¬ ∃ batch, (ordersDirectory.holding renamedOrders).Reads ordersWorld none 100 batch := by
  have hsince : newerThan none = .ok (-1) := rfl
  have hselection : ordersDirectory.selection renamedOrders (-1) 100 = renamedOrders :=
    selection_of_sorted (by decide +kernel) (by decide +kernel) (by decide +kernel)
  rw [exists_reads_iff hsince (by rw [hselection]; decide +kernel), hselection]
  constructor
  · simp only [renamedOrders, List.forall_mem_cons]
    refine ⟨?_, ?_, nofun⟩
    · exact (exists_reads_iff hsince (by decide +kernel)).2 (by decide +kernel)
    · exact (exists_reads_iff hsince (by decide +kernel)).2 (by decide +kernel)
  · decide +kernel

end Csv.Directory

end TableSync
