/-
  TableSync/Proofs/Frame/Rows.lean
  ================================
  **The rows of a batch** — record by record.

  A frame is made column by column and read row by row.  Its rows are those of
  its records, one after another (`toRecords_ofRecords`), and what a row shows
  of its record depends on the other records through the types of the columns
  alone.  A column changes a value in one case: a whole number in a column of
  doubles becomes a double (`shown_eq`).
-/
import TableSync.Frame.Records
import TableSync.Proofs.Distinct

namespace TableSync

/-! ## 1. Cells -/

def Column.cast (type : ColumnType) (cell : Value) : Value :=
  match type with
  | .double => cell.asDouble
  | .text => if cell.isNull then .missing else cell
  | _ => cell

theorem Column.ofCells_eq (cells : List Value) :
    Column.ofCells cells = ⟨typeOf cells, cells.map (cast (typeOf cells))⟩ := by
  unfold ofCells
  cases htype : typeOf cells with
  | double | text => rfl
  | truth | whole | count | mixed => exact congrArg (Column.mk _) (List.map_id cells).symm

namespace Frame

variable {records : List Record} {record : Record} {name : String}

def cellOf (name : String) (record : Record) : Value := (Fields.get? record name).getD .missing

def typeIn (records : List Record) (name : String) : ColumnType := Column.typeOf (records.map (cellOf name))

/-- What the row of a record shows under the name of a column. -/
def shown (records : List Record) (name : String) (record : Record) : Value :=
  Value.ofCell (Column.cast (typeIn records name) (cellOf name record))

def rowOf (records : List Record) (record : Record) : Record :=
  (fieldNames records).map fun name => (name, shown records name record)

/-! ## 2. Rows -/

theorem rows_map (names : List String) (cell : String → Record → Value) (records : List Record) :
    rows records.length (names.map fun name => (name, records.map (cell name))) =
      records.map fun record => names.map fun name => (name, cell name record) := by
  induction records with
  | nil => rfl
  | cons record rest ih =>
    rw [List.length_cons, rows, List.map_cons, ← ih, List.map_map, List.map_map]
    rfl

theorem nodup_fieldNames (records : List Record) : (fieldNames records).Nodup := nodup_eraseDups _

theorem mem_fieldNames : name ∈ fieldNames records ↔ ∃ record ∈ records, name ∈ Fields.names record := by
  rw [fieldNames, List.mem_eraseDups, List.mem_flatMap]

theorem names_ofRecords (records : List Record) : (ofRecords records).names = fieldNames records := by
  rw [names, ofRecords, List.map_map]
  exact List.map_id _

/-- A batch of records can be read back: each record gives a row, unless no record has a field. -/
theorem toRecords_ofRecords (records : List Record) :
    (ofRecords records).toRecords = .ok (if fieldNames records = [] then [] else records.map (rowOf records)) := by
  have hdiffer : (ofRecords records).namesDiffer = true := by
    rw [namesDiffer, names_ofRecords, eraseDups_of_nodup (nodup_fieldNames records)]
    exact beq_self_eq_true _
  have hcolumns : (ofRecords records).columns.map (fun column => (column.1, column.2.cells.map Value.ofCell)) =
      (fieldNames records).map fun name => (name, records.map (shown records name)) := by
    rw [ofRecords, List.map_map]
    refine List.map_congr_left fun name _ => ?_
    simp only [Function.comp_apply, Column.ofCells_eq, List.map_map]
    rfl
  by_cases hnames : fieldNames records = []
  · have hempty : (ofRecords records).isEmpty = true := by simp [isEmpty, ofRecords, hnames]
    rw [toRecords, if_pos hempty, if_pos hnames]
  · have hheight : (ofRecords records).height = records.length := by simp [ofRecords, hnames]
    have hrecords : records ≠ [] := by
      rintro rfl
      exact hnames rfl
    have hempty : (ofRecords records).isEmpty = false := by
      rw [isEmpty, hheight]
      simp [ofRecords, hnames, hrecords]
    rw [toRecords, hempty, hdiffer, hheight, hcolumns, rows_map, if_neg hnames]
    rfl

theorem eq_rowOf {rows : List Record} {row : Record} {place : Nat} (hrows : (ofRecords records).toRecords = .ok rows)
    (hrow : rows[place]? = some row) (hrecord : records[place]? = some record) : row = rowOf records record := by
  rw [toRecords_ofRecords] at hrows
  cases hrows
  split at hrow
  · simp at hrow
  · rw [List.getElem?_map, hrecord] at hrow
    exact (Option.some.inj hrow).symm

theorem get?_rowOf (records : List Record) (record : Record) (name : String) :
    Fields.get? (rowOf records record) name =
      if name ∈ fieldNames records then some (shown records name record) else none :=
  Fields.get?_ofNames (fun name => shown records name record) _ _

end Frame

/-! ## 3. Columns of doubles -/

namespace Sightings

variable {seen later : Sightings} {cell : Value} {cells : List Value}

/-- A cell that a column of numbers or truth values has shown. -/
inductive Sees (seen : Sightings) : Value → Prop where
  | null : Sees seen .null
  | truth (b : Bool) : seen.truth = true → Sees seen (.bool b)
  | whole (n : Int) : Sees seen (.int n)
  | double (x : Float) : Sees seen (.float x)

theorem Sees.mono (h : seen.Sees cell) (htruth : seen.truth = true → later.truth = true) : later.Sees cell := by
  cases h with
  | null => exact .null
  | truth b hseen => exact .truth b (htruth hseen)
  | whole n => exact .whole n
  | double x => exact .double x

theorem add_sees (h : (seen.add cell).other = false) : (seen.add cell).Sees cell := by
  cases cell with
  | null => exact .null
  | bool b => exact .truth b rfl
  | int n => exact .whole n
  | float x => exact .double x
  | text | list | object => cases h

theorem truth_add (h : seen.truth = true) : (seen.add cell).truth = true := by
  cases cell with
  | int n =>
    rw [add, addWhole]
    dsimp only
    split <;> exact h
  | float x =>
    rw [add]
    split <;> exact h
  | bool b => rfl
  | null | text | list | object => exact h

theorem ofCells_sees (h : (ofCells seen cells).other = false) :
    (seen.truth = true → (ofCells seen cells).truth = true) ∧ ∀ cell ∈ cells, (ofCells seen cells).Sees cell := by
  -- Reading stops at a cell of another kind; without one, every cell is seen, and what was shown stays shown.
  induction cells generalizing seen with
  | nil => exact ⟨id, nofun⟩
  | cons cell rest ih =>
    rw [ofCells] at h ⊢
    split at h
    next hother =>
      rw [h] at hother
      cases hother
    next hother =>
      rw [if_neg hother]
      obtain ⟨htruth, hrest⟩ := ih h
      have hcell := (add_sees (Bool.eq_false_iff.2 hother)).mono htruth
      exact ⟨fun hseen => htruth (truth_add hseen), List.forall_mem_cons.2 ⟨hcell, hrest⟩⟩

theorem numeric?_eq_double (h : seen.numeric? = some .double) : seen.other = false ∧ seen.truth = false := by
  unfold numeric? at h
  split at h
  · cases h
  next hother =>
    split at h
    · split at h <;> cases h
    next htruth => exact ⟨Bool.eq_false_iff.2 hother, Bool.eq_false_iff.2 htruth⟩

/-- Nothing has been seen that turns whole numbers into doubles. -/
def KeepsWholes (seen : Sightings) : Prop := seen.null = false ∧ seen.gap = false ∧ seen.double = false

theorem KeepsWholes.addWhole (h : seen.KeepsWholes) (n : Int) : (seen.addWhole n).KeepsWholes := by
  unfold Sightings.addWhole
  dsimp only
  split <;> exact h

theorem KeepsWholes.ofCells (h : seen.KeepsWholes) (hcells : ∀ cell ∈ cells, ∃ n, cell = .int n) :
    (ofCells seen cells).KeepsWholes := by
  induction cells generalizing seen with
  | nil => exact h
  | cons cell rest ih =>
    obtain ⟨⟨n, rfl⟩, hrest⟩ := List.forall_mem_cons.1 hcells
    rw [Sightings.ofCells, add]
    split
    · exact h.addWhole n
    · exact ih (h.addWhole n) hrest

theorem KeepsWholes.numeric?_ne (h : seen.KeepsWholes) : seen.numeric? ≠ some .double := by
  obtain ⟨hnull, hgap, hdouble⟩ := h
  unfold numeric?
  rw [hnull, hgap, hdouble]
  simp only [Bool.or_self, Bool.false_or, Bool.false_eq_true, if_false]
  split_ifs <;> simp

end Sightings

theorem Column.numeric?_of_double {cells : List Value} (h : typeOf cells = .double) :
    (Sightings.ofCells {} cells).numeric? = some .double := by
  unfold typeOf at h
  split at h
  next hsome => rw [hsome, h]
  next => split at h <;> cases h

theorem Column.cell_of_double {cells : List Value} (h : typeOf cells = .double) {cell : Value} (hcell : cell ∈ cells) :
    cell = .null ∨ (∃ n, cell = .int n) ∨ ∃ x, cell = .float x := by
  obtain ⟨hother, htruth⟩ := Sightings.numeric?_eq_double (numeric?_of_double h)
  cases (Sightings.ofCells_sees hother).2 cell hcell with
  | null => exact .inl rfl
  | truth b hseen =>
    rw [htruth] at hseen
    cases hseen
  | whole n => exact .inr (.inl ⟨n, rfl⟩)
  | double x => exact .inr (.inr ⟨x, rfl⟩)

theorem Column.exists_not_whole {cells : List Value} (h : typeOf cells = .double) : ∃ cell ∈ cells, ∀ n, cell ≠ .int n := by
  by_contra hnone
  have hwhole : ∀ cell ∈ cells, ∃ n, cell = .int n := by
    intro cell hcell
    by_contra hother
    exact hnone ⟨cell, hcell, fun n hn => hother ⟨n, hn⟩⟩
  have hnothing : ({} : Sightings).KeepsWholes := ⟨rfl, rfl, rfl⟩
  exact (hnothing.ofCells hwhole).numeric?_ne (numeric?_of_double h)

/-! ## 4. What a row shows -/

namespace Frame

variable {records : List Record} {record : Record} {name : String}

theorem cellOf_eq_int {n : Int} : cellOf name record = .int n ↔ Fields.get? record name = some (.int n) := by
  unfold cellOf
  cases Fields.get? record name with
  | none => simp [Value.missing]
  | some value => simp

theorem shown_of_absent (h : Fields.get? record name = none) : shown records name record = .null := by
  have hcell : cellOf name record = .missing := by rw [cellOf, h, Option.getD_none]
  rw [shown, hcell]
  cases typeIn records name <;> rfl

/-- A row shows a value as it is, unless it is a whole number in a column of doubles. -/
theorem shown_eq (hrecord : record ∈ records)
    (h : typeIn records name = .double → ∀ n, Fields.get? record name ≠ some (.int n)) :
    shown records name record = Value.ofCell (cellOf name record) := by
  have hcell : cellOf name record ∈ records.map (cellOf name) := List.mem_map_of_mem hrecord
  rw [shown]
  cases htype : typeIn records name with
  | truth | whole | count | mixed => rfl
  | text =>
    cases hvalue : cellOf name record <;> rfl
  | double =>
    rcases Column.cell_of_double htype hcell with hnull | ⟨n, hint⟩ | ⟨x, hfloat⟩
    · rw [hnull]
      rfl
    -- Of the three kinds of cells, only a whole number would be changed.
    · exact absurd (cellOf_eq_int.1 hint) (h htype n)
    · rw [hfloat]
      rfl

theorem shown_alone (name : String) (record : Record) :
    shown [record] name record = Value.ofCell (cellOf name record) := by
  refine shown_eq (List.mem_singleton_self record) fun htype n hint => ?_
  rw [typeIn, List.map_singleton, cellOf_eq_int.2 hint] at htype
  obtain ⟨cell, hmem, hother⟩ := Column.exists_not_whole htype
  exact hother n (List.mem_singleton.1 hmem)

/-- A column of doubles shows doubles; one beyond their range is null. -/
theorem shown_of_double {n : Int} (htype : typeIn records name = .double)
    (hwhole : Fields.get? record name = some (.int n)) :
    shown records name record = .null ∨ ∃ x, shown records name record = .float x := by
  have hshown : shown records name record = Value.ofCellDouble (Float.ofInt n) := by
    rw [shown, htype, cellOf_eq_int.2 hwhole]
    rfl
  rw [hshown, Value.ofCellDouble]
  split
  · exact .inr ⟨_, rfl⟩
  · exact .inl rfl

end Frame

end TableSync
