/-
  TableSync/Proofs/Frame/Below.lean
  =================================
  **Frames below one another** — the rows of each frame among those of all.

  Frames are put together column by column and read row by row.  The rows of all
  are those of the first frame, then those of the second, and so on, each row
  with the names of all frames (`toRecords_concat`).  A row keeps what it shows
  when its frame is read alone, and shows null under the names of other frames.
  One thing may change: a column of whole numbers becomes one of doubles where
  another frame has doubles in it or does not have it at all (`carried_share`).
-/
import TableSync.Frame.Concat
import TableSync.Proofs.Effect
import TableSync.Proofs.Frame.Survives

namespace TableSync

/-! ## 1. The type of a column over several frames -/

namespace ColumnType

/-- Types whose values are numbers or truth values. -/
def IsNumeric (type : ColumnType) : Prop := type.isDiscrete = true ∨ type = .double

variable {a b type first : ColumnType} {rest : List ColumnType}

theorem isNumeric_of_promote (h : (promote a b).IsNumeric) : a.IsNumeric ∧ b.IsNumeric := by
  cases a <;> cases b <;> simp_all [promote, IsNumeric, isDiscrete]

theorem isNumeric_of_foldl (h : (rest.foldl promote first).IsNumeric) :
    first.IsNumeric ∧ ∀ type ∈ rest, type.IsNumeric := by
  induction rest generalizing first with
  | nil => exact ⟨h, nofun⟩
  | cons next rest ih =>
    obtain ⟨hboth, hrest⟩ := ih h
    obtain ⟨hfirst, hnext⟩ := isNumeric_of_promote hboth
    exact ⟨hfirst, List.forall_mem_cons.2 ⟨hnext, hrest⟩⟩

theorem isNumeric_of_common (h : (common first rest).IsNumeric) : ∀ type ∈ first :: rest, type.IsNumeric := by
  unfold common at h
  dsimp only at h
  split at h
  next hall =>
    intro type htype
    rcases List.mem_cons.1 htype with rfl | hmem
    · exact h
    · rw [of_decide_eq_true (List.all_eq_true.1 hall type hmem)]
      exact h
  next =>
    split at h
    · simp [IsNumeric, isDiscrete] at h
    · exact List.forall_mem_cons.2 (isNumeric_of_foldl h)

theorem isNumeric_of_stacked (h : (stacked first rest).IsNumeric) : ∀ type ∈ first :: rest, type.IsNumeric := by
  unfold stacked at h
  split at h
  · exact List.forall_mem_cons.2 (isNumeric_of_foldl h)
  · exact isNumeric_of_common h

theorem isNumeric_of_withGaps (h : type.withGaps = .double) : type.IsNumeric := by
  cases type <;> simp_all [withGaps, IsNumeric, isDiscrete]

end ColumnType

namespace Frame

variable {frames : List Frame} {frame : Frame} {name : String} {column : Column} {label : String → String}

/-- The names of the columns of several frames. -/
def headers (frames : List Frame) : List String := (frames.flatMap names).eraseDups

/-- The type of a column over several frames. -/
def jointType (frames : List Frame) (name : String) : ColumnType := (joinColumn frames name).type

/-- The cells of a frame in a column of a type. -/
def cellsIn (type : ColumnType) (frame : Frame) (name : String) : List Value :=
  match Fields.get? frame.columns name with
  | some column => (column.convert type).cells
  | none => List.replicate frame.height .missing

theorem mem_names : name ∈ frame.names ↔ ∃ column, Fields.get? frame.columns name = some column := by
  rw [← Option.ne_none_iff_exists', Ne, Fields.get?_eq_none_iff, Decidable.not_not]
  rfl

theorem mem_headers : name ∈ headers frames ↔ ∃ frame ∈ frames, name ∈ frame.names := by
  rw [headers, List.mem_eraseDups, List.mem_flatMap]

theorem joinColumn_cells (frames : List Frame) (name : String) :
    (joinColumn frames name).cells = frames.flatMap fun frame => cellsIn (jointType frames name) frame name := by
  rw [jointType, joinColumn]
  simp only [List.flatMap_map]
  rfl

/-- Only numbers and truth values go into a column of doubles. -/
theorem isNumeric_of_jointType (h : jointType frames name = .double) (hframe : frame ∈ frames)
    (hcolumn : Fields.get? frame.columns name = some column) : column.type.IsNumeric := by
  obtain ⟨types, htypes⟩ : ∃ types, frames.filterMap (fun frame => (Fields.get? frame.columns name).map Column.type) =
    types := ⟨_, rfl⟩
  have hmem : column.type ∈ types := by
    rw [← htypes]
    exact List.mem_filterMap.2 ⟨frame, hframe, by rw [hcolumn]; rfl⟩
  rw [jointType, joinColumn] at h
  simp only [List.filterMap_map, Function.comp_def, htypes] at h
  cases types with
  | nil => simp at hmem
  | cons first rest =>
    dsimp only at h
    split at h
    · exact ColumnType.isNumeric_of_stacked (.inr h) _ hmem
    · exact ColumnType.isNumeric_of_common (ColumnType.isNumeric_of_withGaps h) _ hmem

theorem jointType_alone (hcolumn : Fields.get? frame.columns name = some column) :
    jointType [frame] name = column.type := by
  simp [jointType, joinColumn, hcolumn, ColumnType.stacked, ColumnType.common]

/-! ## 2. Rows of several frames -/

theorem rows_eq (height : Nat) (columns : List (String × List Value)) : rows height columns =
    (List.range height).map fun place => columns.map fun column => (column.1, column.2[place]?.getD .missing) := by
  induction height generalizing columns with
  | zero => rfl
  | succ height ih =>
    rw [rows, ih, List.range_succ_eq_map, List.map_cons, List.map_map]
    congr 1
    · apply List.map_congr_left
      rintro ⟨name, cells⟩ _
      cases cells <;> rfl
    · apply List.map_congr_left
      intro place _
      rw [List.map_map]
      apply List.map_congr_left
      rintro ⟨name, cells⟩ _
      cases cells <;> rfl

theorem rows_append {height more : Nat} {names : List String} {above below : String → List Value}
    (hlong : ∀ name ∈ names, (above name).length = height) :
    rows (height + more) (names.map fun name => (label name, above name ++ below name)) =
      rows height (names.map fun name => (label name, above name)) ++
        rows more (names.map fun name => (label name, below name)) := by
  simp only [rows_eq, List.range_add, List.map_append, List.map_map, Function.comp_def]
  congr 1
  · apply List.map_congr_left
    intro place hplace
    apply List.map_congr_left
    intro name hname
    rw [List.getElem?_append_left (by rw [hlong name hname]; exact List.mem_range.1 hplace)]
  · apply List.map_congr_left
    intro place _
    apply List.map_congr_left
    intro name hname
    rw [List.getElem?_append_right (by rw [hlong name hname]; omega), hlong name hname, Nat.add_sub_cancel_left]

theorem rows_flatMap {names : List String} {cells : Frame → String → List Value}
    (hlong : ∀ frame ∈ frames, ∀ name ∈ names, (cells frame name).length = frame.height) :
    rows (frames.foldr (fun frame n => frame.height + n) 0)
        (names.map fun name => (label name, frames.flatMap fun frame => cells frame name)) =
      frames.flatMap fun frame => rows frame.height (names.map fun name => (label name, cells frame name)) := by
  induction frames with
  | nil => rfl
  | cons frame rest ih =>
    obtain ⟨hframe, hrest⟩ := List.forall_mem_cons.1 hlong
    simp only [List.flatMap_cons, List.foldr_cons]
    rw [rows_append hframe, ih hrest]

/-- A frame that reading a table gives: every column is as long as the frame is high, and holds what its type says. -/
structure Regular (frame : Frame) : Prop where
  columns : frame.columns ≠ []
  long : ∀ column ∈ frame.columns, column.2.cells.length = frame.height
  discrete : ∀ column ∈ frame.columns, column.2.type.isDiscrete = true →
    ∀ cell ∈ column.2.cells, ∃ n, cell.number? = some (.whole n)

/-- The rows of one frame among those of several. -/
def share (frames : List Frame) (label : String → String) (frame : Frame) : List Record :=
  rows frame.height ((headers frames).map fun name =>
    (label name, (cellsIn (jointType frames name) frame name).map Value.ofCell))

theorem Regular.length_cellsIn (h : frame.Regular) (type : ColumnType) (name : String) :
    (cellsIn type frame name).length = frame.height := by
  unfold cellsIn
  split
  next column hcolumn =>
    rw [← h.long _ (Fields.mem_of_get? hcolumn)]
    unfold Column.convert
    split
    · rfl
    · split <;> simp
  next => exact List.length_replicate

theorem namesDiffer_iff : frame.namesDiffer = true ↔ frame.names.Nodup := by
  rw [namesDiffer, beq_iff_eq]
  constructor
  · intro hlength
    rw [← (eraseDups_sublist frame.names).eq_of_length hlength]
    exact nodup_eraseDups _
  · intro hnodup
    rw [eraseDups_of_nodup hnodup]

theorem names_concat_rename : ((concat frames).rename label).names = (headers frames).map label := by
  simp [names, rename, concat, headers]

theorem isEmpty_concat_rename (hregular : ∀ frame ∈ frames, frame.Regular) (label : String → String) :
    ((concat frames).rename label).isEmpty = true ↔ ∀ frame ∈ frames, frame.height = 0 := by
  have hheight : (concat frames).height = 0 ↔ ∀ frame ∈ frames, frame.height = 0 := by
    rw [concat]
    induction frames with
    | nil => simp
    | cons frame rest ih => simp [ih fun frame hframe => hregular frame (List.mem_cons_of_mem _ hframe)]
  rw [isEmpty, Bool.or_eq_true, beq_iff_eq]
  show _ ∨ (concat frames).height = 0 ↔ _
  rw [hheight, or_iff_right_iff_imp]
  intro hnone frame hframe
  -- without a column there is no frame
  have hsome : (headers frames) ≠ [] := by
    obtain ⟨column, hcolumn⟩ := List.exists_mem_of_ne_nil _ (hregular frame hframe).columns
    exact List.ne_nil_of_mem (mem_headers.2 ⟨frame, hframe, List.mem_map_of_mem hcolumn⟩)
  simp [rename, concat] at hnone
  exact absurd hnone hsome

/-- Frames that have rows below one another: no two names of columns become one, or there is no row. -/
def Compatible (frames : List Frame) (label : String → String) : Prop :=
  (∀ frame ∈ frames, frame.height = 0) ∨ ((headers frames).map label).Nodup

instance (frames : List Frame) (label : String → String) : Decidable (Compatible frames label) :=
  inferInstanceAs (Decidable (_ ∨ _))

/-- **The rows of all frames are those of one after the other**, unless two names of columns become one. -/
theorem toRecords_concat (hregular : ∀ frame ∈ frames, frame.Regular) (label : String → String) :
    ((concat frames).rename label).toRecords =
      if Compatible frames label then .ok (frames.flatMap (share frames label))
      else .error (.outside .value "DataFrame columns must be unique for orient='records'." false) := by
  by_cases hempty : ∀ frame ∈ frames, frame.height = 0
  · have hnone : frames.flatMap (share frames label) = [] := by
      apply List.flatMap_eq_nil_iff.2
      intro frame hframe
      rw [share, hempty frame hframe]
      rfl
    rw [toRecords, if_pos ((isEmpty_concat_rename hregular label).2 hempty), if_pos (.inl hempty), hnone]
  · have hfull := mt (isEmpty_concat_rename hregular label).1 hempty
    rw [toRecords, if_neg hfull]
    by_cases hnodup : ((headers frames).map label).Nodup
    · have hdiffer : ((concat frames).rename label).namesDiffer = true := by
        rw [namesDiffer_iff, names_concat_rename]
        exact hnodup
      have hlong : ∀ frame ∈ frames, ∀ name ∈ headers frames,
          ((cellsIn (jointType frames name) frame name).map Value.ofCell).length = frame.height := by
        intro frame hframe name _
        rw [List.length_map]
        exact (hregular frame hframe).length_cellsIn _ _
      rw [hdiffer, Bool.not_true, if_neg Bool.false_ne_true, if_pos (.inr hnodup)]
      have hcolumns : ((concat frames).rename label).columns.map
            (fun column => (column.1, column.2.cells.map Value.ofCell)) =
          (headers frames).map fun name => (label name, frames.flatMap fun frame =>
            (cellsIn (jointType frames name) frame name).map Value.ofCell) := by
        simp [rename, concat, joinColumn_cells, List.map_flatMap, headers, Function.comp_def]
      rw [hcolumns]
      exact congrArg Except.ok (rows_flatMap hlong)
    · have hdiffer : ((concat frames).rename label).namesDiffer ≠ true := by
        rw [Ne, namesDiffer_iff, names_concat_rename]
        exact hnodup
      have hnot : ¬ Compatible frames label := not_or.2 ⟨hempty, hnodup⟩
      rw [Bool.eq_false_iff.2 hdiffer, Bool.not_false, if_pos rfl, if_neg hnot]

end Frame

/-! ## 3. A row alone and among others -/

/-- What a value may have become: an equal one, or the double nearest to a long whole number. -/
def Value.Becomes (own other : Value) : Prop :=
  (other = own ∨ other.equals own = true) ∨
    ∃ n : Int, own = .int n ∧ 2 ^ 53 < n.natAbs ∧ other = .ofCellDouble (Float.ofInt n)

theorem Value.becomes_double {own : Value} {n : Int} (h : own.number? = some (.whole n)) :
    own.Becomes (.ofCellDouble (Float.ofInt n)) := by
  by_cases hshort : n.natAbs ≤ 2 ^ 53
  · refine .inl (.inr ?_)
    rw [ofCellDouble, if_pos (Decimal.isFinite_ofInt hshort), Decimal.tenPlaces_ofInt hshort]
    have hexact := Decimal.compareInt_ofInt hshort
    cases own <;> simp_all [equals, number?, Number.compare?]
  · refine .inr ⟨n, ?_, by omega, rfl⟩
    cases own with
    | bool b => cases b <;> cases h <;> simp at hshort
    | int k => cases h; rfl
    | _ => cases h

theorem Value.ofCell_whole {cell : Value} {n : Int} (h : cell.number? = some (.whole n)) : ofCell cell = cell := by
  cases cell with
  | bool b => rfl
  | int k => rfl
  | _ => cases h

theorem Value.becomes_asWhole (cell : Value) : (ofCell cell).Becomes (ofCell cell.asWhole) := by
  cases cell with
  | bool b => exact .inl (.inr (by simp [asWhole, ofCell, equals, number?, Number.compare?]))
  | _ => exact .inl (.inl rfl)

theorem Column.convert_self (column : Column) : column.convert column.type = column := by
  unfold convert
  exact if_pos rfl

/-- Converting a column changes its values only as far as whole numbers become doubles. -/
theorem Column.becomes_convert {column : Column} {type : ColumnType} {place : Nat} {cell : Value}
    (hdiscrete : column.type.isDiscrete = true → ∀ cell ∈ column.cells, ∃ n, cell.number? = some (.whole n))
    (hdouble : type = .double → column.type.IsNumeric) (hcell : column.cells[place]? = some cell) :
    ∃ other, (column.convert type).cells[place]? = some other ∧ (Value.ofCell cell).Becomes (Value.ofCell other) := by
  by_cases hsame : column.type = type
  · subst hsame
    exact ⟨cell, by rw [convert_self, hcell], .inl (.inl rfl)⟩
  · cases type with
    | double =>
      rcases hdouble rfl with hwhole | hfloat
      · obtain ⟨n, hn⟩ := hdiscrete hwhole cell (List.mem_of_getElem? hcell)
        refine ⟨cell.asDouble, by simp [convert, hsame, hcell], ?_⟩
        rw [Value.ofCell_whole hn, Value.asDouble, hn]
        exact Value.becomes_double hn
      · exact absurd hfloat hsame
    | whole | count => exact ⟨cell.asWhole, by simp [convert, hsame, hcell], Value.becomes_asWhole cell⟩
    | truth | text | mixed => exact ⟨cell, by simp [convert, hsame, hcell], .inl (.inl rfl)⟩

/-- A row of the given names keeps what another one shows, and shows null beside it. -/
structure Carries (header : List String) (own joint : Record) : Prop where
  names : Fields.names joint = header
  fields : ∀ name value, Fields.get? own name = some value → ∃ other, Fields.get? joint name = some other ∧
    value.Becomes other
  others : ∀ name ∈ header, Fields.get? own name = none → Fields.get? joint name = some .null

namespace Frame

variable {frames : List Frame} {frame : Frame} {name : String} {label : String → String}

theorem get?_labelled {names : List String} {value : String → Value} (hnodup : (names.map label).Nodup)
    (hname : name ∈ names) : Fields.get? (names.map fun name => (label name, value name)) (label name) =
      some (value name) := by
  apply Fields.get?_of_mem
  · rw [Fields.names, List.map_map]
    exact hnodup
  · exact List.mem_map.2 ⟨name, hname, rfl⟩

theorem nodup_headers_alone (hframe : frame ∈ frames) (hnodup : ((headers frames).map label).Nodup) :
    ((headers [frame]).map label).Nodup := by
  apply (nodup_eraseDups _).map_on
  intro a ha b hb hlabel
  have hsub : ∀ name ∈ headers [frame], name ∈ headers frames := by
    intro name hname
    obtain ⟨own, hown, hthere⟩ := mem_headers.1 hname
    rw [List.mem_singleton.1 hown] at hthere
    exact mem_headers.2 ⟨frame, hframe, hthere⟩
  exact List.inj_on_of_nodup_map hnodup (hsub a ha) (hsub b hb) hlabel

/-- The rows of a frame alone are carried by its rows among those of others. -/
theorem carried_share (hregular : frame.Regular) (hframe : frame ∈ frames) (hcompatible : Compatible frames label) :
    List.Forall₂ (Carries ((headers frames).map label)) (share [frame] label frame)
      (share frames label frame) := by
  rcases hcompatible with hempty | hnodup
  · rw [share, share, hempty frame hframe]
    exact .nil
  have halone := nodup_headers_alone hframe hnodup
  rw [share, share, rows_eq, rows_eq, List.forall₂_map_left_iff, List.forall₂_map_right_iff, List.forall₂_same]
  intro place hplace
  have hinside : place < frame.height := List.mem_range.1 hplace
  simp only [List.map_map, Function.comp_def]
  constructor
  · rw [Fields.names, List.map_map]
    rfl
  · intro field value hvalue
    obtain ⟨name, hname, hfield⟩ := List.mem_map.1 (Fields.mem_of_get? hvalue)
    obtain ⟨rfl, rfl⟩ := Prod.mk.inj hfield
    obtain ⟨own, hown, hthere⟩ := mem_headers.1 hname
    rw [List.mem_singleton.1 hown] at hthere
    obtain ⟨column, hcolumn⟩ := mem_names.1 hthere
    have hmem := Fields.mem_of_get? hcolumn
    obtain ⟨cell, hcell⟩ : ∃ cell, column.cells[place]? = some cell :=
      ⟨_, List.getElem?_eq_getElem (by rw [hregular.long _ hmem]; exact hinside)⟩
    obtain ⟨other, hother, hbecomes⟩ := Column.becomes_convert (hregular.discrete _ hmem)
      (fun htype : jointType frames name = .double => isNumeric_of_jointType htype hframe hcolumn) hcell
    refine ⟨Value.ofCell other, ?_, ?_⟩
    · rw [get?_labelled hnodup (mem_headers.2 ⟨frame, hframe, hthere⟩)]
      simp [cellsIn, hcolumn, hother]
    · simpa [cellsIn, hcolumn, jointType_alone hcolumn, Column.convert_self, hcell] using hbecomes
  · intro field hfield habsent
    obtain ⟨name, hname, rfl⟩ := List.mem_map.1 hfield
    have hnone : Fields.get? frame.columns name = none := by
      by_contra hsome
      obtain ⟨column, hcolumn⟩ := Option.ne_none_iff_exists'.1 hsome
      have hthere : name ∈ headers [frame] := mem_headers.2 ⟨frame, List.mem_singleton_self _, mem_names.2 ⟨column, hcolumn⟩⟩
      rw [get?_labelled halone hthere] at habsent
      cases habsent
    rw [get?_labelled hnodup hname]
    simp [cellsIn, hnone, hinside]
    rfl

end Frame

/-! ## 4. Schemas of frames -/

theorem exists_mapM_iff {ε α β : Type} {f : α → Except ε β} {items : List α} :
    (∃ results, items.mapM f = .ok results) ↔ ∀ item ∈ items, ∃ result, f item = .ok result := by
  induction items with
  | nil => exact ⟨fun _ => nofun, fun _ => ⟨[], rfl⟩⟩
  | cons item rest ih =>
    rw [List.forall_mem_cons, ← ih, List.mapM_cons]
    constructor
    · rintro ⟨results, hresults⟩
      obtain ⟨first, hfirst, hresults⟩ := bind_eq_ok.1 hresults
      obtain ⟨others, hothers, -⟩ := bind_eq_ok.1 hresults
      exact ⟨⟨first, hfirst⟩, ⟨others, hothers⟩⟩
    · rintro ⟨⟨first, hfirst⟩, ⟨others, hothers⟩⟩
      exact ⟨first :: others, by rw [hfirst, hothers]; rfl⟩

namespace Frame

variable {frame : Frame}

/-- A column is described unless its name is empty. -/
theorem read_column (name : String) (type : ColumnType) :
    SchemaField.read [("name", .text name), ("type", .text type.schemaName), ("nullable", .bool true)] =
      if 1 ≤ name.length then Checked.fits ⟨name, type.schemaName, true⟩
      else (Checked.problem "string_too_short").under "name" := by
  have hname : Reader.textFrom 1 (.text name) =
      if decide (1 ≤ name.length) = true then Checked.fits name else Checked.problem "string_too_short" := rfl
  rw [SchemaField.read, Reader.required]
  simp only [Fields.get?, if_true]
  by_cases hlong : 1 ≤ name.length
  · rw [hname, if_pos (decide_eq_true hlong), if_pos hlong]
    rfl
  · rw [hname, if_neg (by simpa using hlong), if_neg hlong]
    rfl

theorem exists_provider_iff (title : String) :
    (∃ provider, frame.provider title = .ok provider) ↔ ∀ name ∈ frame.names, 1 ≤ name.length := by
  have hfields : (∃ provider, frame.provider title = .ok provider) ↔
      ∃ fields, (frame.columns.mapM fun column => (SchemaField.read [("name", .text column.1),
        ("type", .text column.2.type.schemaName), ("nullable", .bool true)]).toExcept "SchemaField") = .ok fields := by
    constructor
    · rintro ⟨provider, hprovider⟩
      obtain ⟨schema, hschema, -⟩ := bind_eq_ok.1 hprovider
      obtain ⟨fields, hfields, -⟩ := bind_eq_ok.1 hschema
      exact ⟨fields, hfields⟩
    · rintro ⟨fields, hfields⟩
      refine ⟨⟨⟨title, fields⟩, none⟩, ?_⟩
      rw [provider, schema, hfields]
      rfl
  rw [hfields, exists_mapM_iff, names, List.forall_mem_map]
  apply forall₂_congr
  intro column _
  rw [read_column]
  by_cases hlong : 1 ≤ column.1.length
  · rw [if_pos hlong]
    exact ⟨fun _ => hlong, fun _ => ⟨_, rfl⟩⟩
  · rw [if_neg hlong]
    constructor
    · rintro ⟨field, hfield⟩
      cases hfield
    · intro h
      exact absurd h hlong

end Frame

end TableSync
