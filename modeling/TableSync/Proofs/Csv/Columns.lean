/-
  TableSync/Proofs/Csv/Columns.lean
  =================================
  **What a file is read as** — a frame with full columns.

  Whatever the fields of a file are, its frame has a column, all columns have a
  value for each row, and a column that is one of whole numbers or truth values
  holds nothing else (`regular_of_frameOf`).
-/
import TableSync.Csv.Directory
import TableSync.Proofs.Frame.Below

namespace TableSync.Csv

/-! ## 1. Columns of fields -/

variable {words : List String} {cells : List Value} {column : Column}

theorem length_readAll {read : String → Option Value} (h : readAll read words = some cells) :
    cells.length = words.length := by
  induction words generalizing cells with
  | nil => cases h; rfl
  | cons word rest ih =>
    rw [readAll] at h
    split at h
    · obtain ⟨others, hothers, rfl⟩ := Option.map_eq_some_iff.1 h
      simp [ih hothers]
    · split at h
      · obtain ⟨others, hothers, rfl⟩ := Option.map_eq_some_iff.1 h
        simp [ih hothers]
      · cases h

theorem mem_readAll {read : String → Option Value} (h : readAll read words = some cells)
    (hthere : anyMissing words = false) : ∀ cell ∈ cells, ∃ word, read word = some cell := by
  induction words generalizing cells with
  | nil => cases h; exact nofun
  | cons word rest ih =>
    rw [anyMissing, List.any_cons, Bool.or_eq_false_iff] at hthere
    rw [readAll, hthere.1] at h
    simp only [Bool.false_eq_true, if_false] at h
    split at h
    next value hvalue =>
      obtain ⟨others, hothers, rfl⟩ := Option.map_eq_some_iff.1 h
      exact List.forall_mem_cons.2 ⟨⟨word, hvalue⟩, ih hothers hthere.2⟩
    next => cases h

theorem whole_of_obstacle? {read : String → Option Int} {fits : Int → Bool} (h : obstacle? read fits words = none)
    (hthere : anyMissing words = false) : ∀ word ∈ words, ∃ n, read word = some n := by
  induction words with
  | nil => exact nofun
  | cons word rest ih =>
    rw [anyMissing, List.any_cons, Bool.or_eq_false_iff] at hthere
    rw [obstacle?, hthere.1] at h
    simp only [Bool.false_eq_true, if_false] at h
    split at h
    next => cases h
    next n hread =>
      split at h
      · exact List.forall_mem_cons.2 ⟨⟨n, hread⟩, ih h hthere.2⟩
      · cases h

/-- A column of as many values as there are fields; all are whole numbers or truth values if its type says so. -/
structure Fits (words : List String) (column : Column) : Prop where
  long : column.cells.length = words.length
  discrete : column.type.isDiscrete = true → ∀ cell ∈ column.cells, ∃ n, cell.number? = some (.whole n)

theorem fits_textColumn (words : List String) : Fits words (textColumn words) := by
  constructor
  · simp [textColumn]
  · simp [textColumn, ColumnType.isDiscrete]

theorem fits_otherColumn (words : List String) : Fits words (otherColumn words) := by
  unfold otherColumn
  split
  next cells hcells => exact ⟨length_readAll hcells, by simp [ColumnType.isDiscrete]⟩
  next =>
    split
    next cells hcells =>
      refine ⟨length_readAll hcells, fun htype cell hcell => ?_⟩
      have hthere : anyMissing words = false := by
        by_contra hmissing
        rw [Bool.not_eq_false] at hmissing
        rw [hmissing] at htype
        cases htype
      obtain ⟨word, hword⟩ := mem_readAll hcells hthere cell hcell
      obtain ⟨b, -, rfl⟩ := Option.map_eq_some_iff.1 hword
      exact ⟨_, rfl⟩
    next => exact fits_textColumn words

theorem fits_exactColumn (words : List String) : Fits words (exactColumn words) := by
  unfold exactColumn
  split
  next cells hcells => exact ⟨length_readAll hcells, by simp [ColumnType.isDiscrete]⟩
  next => exact fits_textColumn words

theorem fits_wideColumn (words : List String) : Fits words (wideColumn words) := by
  unfold wideColumn
  split
  · exact fits_otherColumn words
  · exact fits_exactColumn words
  · dsimp only
    split
    · exact fits_textColumn words
    · split
      · exact fits_exactColumn words
      · constructor
        · simp
        · intro _ cell hcell
          obtain ⟨word, -, rfl⟩ := List.mem_map.1 hcell
          exact ⟨_, rfl⟩

theorem fits_columnOf (words : List String) : Fits words (columnOf words) := by
  unfold columnOf
  split
  next hnone =>
    rw [List.isEmpty_iff.1 hnone]
    exact ⟨rfl, by simp [ColumnType.isDiscrete]⟩
  next =>
    split
    · exact fits_otherColumn words
    · exact fits_wideColumn words
    next hall =>
      dsimp only
      split
      · exact ⟨by simp, by simp [ColumnType.isDiscrete]⟩
      next hthere =>
        constructor
        · simp
        · intro _ cell hcell
          obtain ⟨word, hword, rfl⟩ := List.mem_map.1 hcell
          obtain ⟨n, hn⟩ := whole_of_obstacle? hall (Bool.eq_false_iff.2 hthere) word hword
          exact ⟨n, by rw [hn]; rfl⟩

/-! ## 2. Headers -/

theorem endRow_ne_nil {scanned : Scanned} (h : ∀ row ∈ scanned.rows, row ≠ []) :
    ∀ row ∈ scanned.endRow.rows, row ≠ [] := by
  show ∀ row ∈ scanned.endField.fields.reverse :: scanned.rows, row ≠ []
  rw [List.forall_mem_cons]
  constructor
  · simp [Scanned.endField]
  · exact h

theorem scanLineEnd_ne_nil {place : Place} {scanned : Scanned} (h : ∀ row ∈ scanned.rows, row ≠ []) :
    ∀ row ∈ (scanLineEnd place scanned).rows, row ≠ [] := by
  unfold scanLineEnd
  split
  · exact h
  · exact endRow_ne_nil h

theorem rows_scanChar (place : Place) (scanned : Scanned) (c : Char) :
    (scanChar place scanned c).2.rows = scanned.rows := by
  unfold scanChar
  cases place <;> dsimp only <;> split_ifs <;> rfl

theorem scanFrom_ne_nil {place : Place} {scanned : Scanned} {cs : List Char} {rows : List (List String)}
    (h : ∀ row ∈ scanned.rows, row ≠ []) (hscan : scanFrom place scanned cs = some rows) : ∀ row ∈ rows, row ≠ [] := by
  fun_induction scanFrom place scanned cs with
  | case1 => cases hscan
  | case2 place scanned hplace =>
    cases hscan
    intro row hrow
    exact scanLineEnd_ne_nil h row (List.mem_reverse.1 hrow)
  | case3 scanned rest ih => exact ih h hscan
  | case4 place scanned rest hplace ih => exact ih (scanLineEnd_ne_nil h) hscan
  | case5 place scanned c rest hnot hend ih => exact ih (scanLineEnd_ne_nil h) hscan
  | case6 place scanned c rest hnot hinside place' scanned' hchar ih =>
    apply ih _ hscan
    have hrows := rows_scanChar place scanned c
    rw [hchar] at hrows
    rw [hrows]
    exact h

theorem header_ne_nil {text : String} {grid : Grid} (h : Grid.ofText text = .grid grid) : grid.header ≠ [] := by
  unfold Grid.ofText at h
  split at h
  next => cases h
  next => cases h
  next header rows hrows =>
    have hheader : header ≠ [] := scanFrom_ne_nil (by simp) hrows header List.mem_cons_self
    unfold Grid.ofRows at h
    split at h
    · cases h
      exact hheader
    · dsimp only at h
      split at h
      · cases h
        exact hheader
      · cases h

theorem length_distinctFrom (counts : List (String × Nat)) (names : List String) (places : List Nat) :
    (distinctFrom counts names places).length = names.length := by
  induction places generalizing counts names with
  | nil => rfl
  | cons place rest ih =>
    rw [distinctFrom]
    dsimp only
    split
    · exact ih _ _
    · rw [ih, List.length_set]

theorem length_names (grid : Grid) : grid.names.length = grid.header.length := by
  rw [Grid.names]
  dsimp only
  rw [length_distinctFrom, List.length_map, replaced, List.length_mapIdx]

/-! ## 3. Frames of files -/

theorem regular_of_header {grid : Grid} (h : grid.header ≠ []) : grid.toFrame.Regular := by
  have hcolumn : ∀ column ∈ grid.toFrame.columns, ∃ place, Fits (grid.column place) column.2 := by
    intro column hmem
    obtain ⟨place, hplace, rfl⟩ := List.mem_mapIdx.1 hmem
    exact ⟨place, fits_columnOf _⟩
  constructor
  · intro hnone
    apply h
    rw [← List.length_eq_zero_iff, ← length_names grid, ← List.length_mapIdx, List.length_eq_zero_iff]
    exact hnone
  · intro column hmem
    obtain ⟨place, hfits⟩ := hcolumn column hmem
    rw [hfits.long, Grid.column, List.length_map]
    rfl
  · intro column hmem
    obtain ⟨place, hfits⟩ := hcolumn column hmem
    exact hfits.discrete

/-- The frame of a file is full. -/
theorem regular_of_frameOf {content : ByteArray} {frame : Frame} (h : frameOf content = .ok (some frame)) :
    frame.Regular := by
  unfold frameOf at h
  split at h
  next => cases h
  next text _ =>
    split at h
    next => cases h
    next grid hgrid =>
      cases h
      exact regular_of_header (header_ne_nil hgrid)
    next => cases h

end TableSync.Csv
