/-
  TableSync/Proofs/Frame/Survives.lean
  ====================================
  **What rows keep of their records** — values before and after.

  A row shows the fields of its record, and nulls under the other names of the
  batch.  Two things are lost on the way: a double keeps ten places after the
  point, wherever it stands in a value, and a whole number in a column of
  doubles is a double from then on.  Everything else is read back as it was
  (`rows_hold`), and so are every whole number up to `2 ^ 53` and every double
  that is nearest to a decimal with ten places; a double that is nearest to no
  short decimal is always lost.
-/
import TableSync.Proofs.Decimal.Places
import TableSync.Proofs.Frame.Rows

namespace TableSync

/-! ## 1. Values that survive -/

namespace Value

mutual

/-- In all objects of the value, each name stands once. -/
def Proper : Value → Prop
  | list items => AllProper items
  | object fields => (Fields.names fields).Nodup ∧ FieldsProper fields
  | _ => True

def AllProper : List Value → Prop
  | [] => True
  | item :: rest => item.Proper ∧ AllProper rest

def FieldsProper : List (String × Value) → Prop
  | [] => True
  | (_, value) :: rest => value.Proper ∧ FieldsProper rest

end

mutual

/-- All doubles of the value are numbers with ten places after the point. -/
def Survives : Value → Prop
  | float x => x.isFinite = true ∧ (float (Decimal.tenPlaces x)).equals (float x) = true
  | list items => AllSurvive items
  | object fields => FieldsSurvive fields
  | _ => True

def AllSurvive : List Value → Prop
  | [] => True
  | item :: rest => item.Survives ∧ AllSurvive rest

def FieldsSurvive : List (String × Value) → Prop
  | [] => True
  | (_, value) :: rest => value.Survives ∧ FieldsSurvive rest

end

theorem length_ofCellFields (fields : List (String × Value)) : (ofCellFields fields).length = fields.length := by
  induction fields with
  | nil => rfl
  | cons field rest ih => simp [ofCellFields, ih]

mutual

theorem equals_ofCell (value : Value) (h : value.Proper) : (ofCell value).equals value = true ↔ value.Survives := by
  cases value with
  | null => simp [ofCell, equals, Survives]
  | bool b => simp [ofCell, equals, Survives, number?, Number.compare?]
  | int n => simp [ofCell, equals, Survives, number?, Number.compare?]
  | text s => simp [ofCell, equals, Survives]
  | float x =>
    rw [ofCell, ofCellDouble, Survives]
    by_cases hfinite : x.isFinite = true
    · simp [hfinite]
    · simp [hfinite, equals, number?]
  | list items =>
    rw [ofCell, equals, Survives]
    exact equalLists_ofCells items (by simpa [Proper] using h)
  | object fields =>
    rw [Proper] at h
    obtain ⟨hnames, hproper⟩ := h
    have hlookup : ∀ field ∈ fields, Fields.get? fields field.1 = some field.2 :=
      fun field hfield => Fields.get?_of_mem hnames hfield
    rw [ofCell, equals, Survives, length_ofCellFields, beq_self_eq_true, Bool.true_and]
    exact fieldsWithin_ofCellFields fields fields hproper hlookup

theorem equalLists_ofCells (items : List Value) (h : AllProper items) :
    equalLists (ofCells items) items = true ↔ AllSurvive items := by
  cases items with
  | nil => simp [ofCells, equalLists, AllSurvive]
  | cons item rest =>
    rw [AllProper] at h
    rw [ofCells, equalLists, AllSurvive, Bool.and_eq_true, equals_ofCell item h.1, equalLists_ofCells rest h.2]

/-- The fields are looked up in the whole object, of which they are the rest. -/
theorem fieldsWithin_ofCellFields (fields whole : List (String × Value)) (h : FieldsProper fields)
    (hlookup : ∀ field ∈ fields, Fields.get? whole field.1 = some field.2) :
    fieldsWithin (ofCellFields fields) whole = true ↔ FieldsSurvive fields := by
  cases fields with
  | nil => simp [ofCellFields, fieldsWithin, FieldsSurvive]
  | cons field rest =>
    obtain ⟨name, value⟩ := field
    obtain ⟨hfirst, hrest⟩ := List.forall_mem_cons.1 hlookup
    rw [FieldsProper] at h
    rw [ofCellFields, fieldsWithin, FieldsSurvive, hfirst, Bool.and_eq_true, equals_ofCell value h.1,
      fieldsWithin_ofCellFields rest whole h.2 hrest]

end

end Value

/-! ## 2. Columns that hold a value -/

/-- A column of the type shows an equal value. -/
def ColumnType.Holds (type : ColumnType) : Value → Prop
  | .int n => type = .double → (Value.ofCellDouble (Float.ofInt n)).equals (.int n) = true
  | value => value.Survives

namespace Value

/-- The double nearest to a decimal with ten places survives. -/
theorem survives_nearest (negative : Bool) {digits places : Nat} (hplaces : places ≤ 10)
    (hdigits : digits * 10 ^ (10 - places) ≤ 10 ^ 25) : (float (Decimal.nearest negative digits (-places))).Survives := by
  rw [Survives]
  rcases Decimal.nearest_unchanged negative hplaces hdigits with rfl | ⟨m, e, h, sign, hdouble, hsame⟩
  · have hzero : Decimal.toFloat 0 (-places) = 0.0 := if_pos rfl
    rw [Decimal.nearest, hzero]
    cases negative <;> decide +kernel
  · rw [hdouble, hsame]
    refine ⟨h.isFinite_signed sign, ?_⟩
    simp [equals, number?, Number.compare?, h.not_lt_self, h.beq_self]

/-- A double that survives is equal to a short one. -/
theorem exists_short {x : Float} (h : (float x).Survives) : ∃ y, Decimal.Short y ∧ (float y).equals (float x) = true := by
  rw [Survives] at h
  exact ⟨_, Decimal.tenPlaces_short h.1, h.2⟩

end Value

/-- A double stands for a whole number that is not too long. -/
theorem ColumnType.holds_int (type : ColumnType) {n : Int} (h : n.natAbs ≤ 2 ^ 53) : type.Holds (.int n) := by
  intro _
  rw [Value.ofCellDouble, if_pos (Decimal.isFinite_ofInt h), Decimal.tenPlaces_ofInt h]
  simp [Value.equals, Value.number?, Number.compare?, Decimal.compareInt_ofInt h]

namespace Frame

variable {records : List Record} {record row : Record} {name : String} {value : Value}

theorem shown_equals (hrecord : record ∈ records) (hvalue : Fields.get? record name = some value)
    (hproper : value.Proper) :
    (shown records name record).equals value = true ↔ (typeIn records name).Holds value := by
  have hcell : cellOf name record = value := by rw [cellOf, hvalue, Option.getD_some]
  by_cases hwide : typeIn records name = .double ∧ ∃ n, value = .int n
  · obtain ⟨htype, n, rfl⟩ := hwide
    have hshown : shown records name record = Value.ofCellDouble (Float.ofInt n) := by
      rw [shown, htype, hcell]
      rfl
    rw [hshown, ColumnType.Holds, htype]
    simp
  · have hsame : shown records name record = Value.ofCell value := by
      rw [← hcell]
      apply shown_eq hrecord
      intro htype n hint
      rw [hvalue] at hint
      exact hwide ⟨htype, n, Option.some.inj hint⟩
    rw [hsame, Value.equals_ofCell value hproper]
    cases value with
    | int n =>
      have htype : typeIn records name ≠ .double := fun htype => hwide ⟨htype, n, rfl⟩
      simp [ColumnType.Holds, Value.Survives, htype]
    | _ => exact Iff.rfl

/-- A row of a batch against its record. -/
structure Reflects (records : List Record) (record row : Record) : Prop where
  /-- It has all names of the batch. -/
  names : Fields.names row = fieldNames records
  /-- Under a name that the record lacks it shows null. -/
  absent : ∀ name ∈ fieldNames records, Fields.get? record name = none → Fields.get? row name = some .null
  /-- Under any other it shows an equal value, if and only if the column holds the value of the record. -/
  present : ∀ name value, Fields.get? record name = some value → ∃ other, Fields.get? row name = some other ∧
    (other.equals value = true ↔ (typeIn records name).Holds value)
  /-- Every column holds a whole number that is not too long for a double. -/
  whole : ∀ name n, Fields.get? record name = some (.int n) → n.natAbs ≤ 2 ^ 53 → (typeIn records name).Holds (.int n)
  /-- Every column holds a double that is nearest to a decimal with up to ten places after the point. -/
  decimal : ∀ name negative digits (places : Nat),
    Fields.get? record name = some (.float (Decimal.nearest negative digits (-places))) → places ≤ 10 →
      digits * 10 ^ (10 - places) ≤ 10 ^ 25 →
        (typeIn records name).Holds (.float (Decimal.nearest negative digits (-places)))
  /-- No column holds a double that is not equal to a short one. -/
  short : ∀ name x, Fields.get? record name = some (.float x) → (typeIn records name).Holds (.float x) →
    ∃ y, Decimal.Short y ∧ (Value.float y).equals (.float x) = true

theorem reflects_rowOf (hrecord : record ∈ records) (hproper : ∀ field ∈ record, field.2.Proper) :
    Reflects records record (rowOf records record) := by
  constructor
  · rw [Fields.names, rowOf, List.map_map]
    exact List.map_id _
  · intro name hname habsent
    rw [get?_rowOf, if_pos hname, shown_of_absent habsent]
  · intro name value hvalue
    have hmem : (name, value) ∈ record := Fields.mem_of_get? hvalue
    have hname : name ∈ fieldNames records := mem_fieldNames.2 ⟨record, hrecord, List.mem_map_of_mem hmem⟩
    refine ⟨shown records name record, ?_, shown_equals hrecord hvalue (hproper _ hmem)⟩
    rw [get?_rowOf, if_pos hname]
  · intro name n _ hshort
    exact ColumnType.holds_int _ hshort
  · intro name negative digits places _ hplaces hdigits
    exact Value.survives_nearest negative hplaces hdigits
  · intro name x _ hholds
    exact Value.exists_short hholds

theorem fieldNames_eq_nil : fieldNames records = [] ↔ ∀ record ∈ records, record = [] := by
  constructor
  · intro hnone record hrecord
    cases record with
    | nil => rfl
    | cons field rest =>
      have hname : field.1 ∈ fieldNames records := mem_fieldNames.2 ⟨_, hrecord, List.mem_cons_self⟩
      simp [hnone] at hname
  · intro hempty
    apply List.eq_nil_iff_forall_not_mem.2
    intro name hname
    obtain ⟨record, hrecord, hfield⟩ := mem_fieldNames.1 hname
    simp [hempty record hrecord, Fields.names] at hfield

/-- **What rows keep of their records.**  A batch of records is read back as rows.  They are as many as the records, if
any record has a field at all, and each of them shows what its columns hold of the record at its place. -/
theorem rows_hold (hproper : ∀ record ∈ records, ∀ field ∈ record, field.2.Proper) :
    ∃ rows, (ofRecords records).toRecords = .ok rows ∧
      (rows.length = records.length ↔ records = [] ∨ ∃ record ∈ records, record ≠ []) ∧
      ∀ (place : Nat) (record row : Record), records[place]? = some record → rows[place]? = some row →
        Reflects records record row := by
  have hrows := toRecords_ofRecords records
  refine ⟨_, hrows, ?_, ?_⟩
  · by_cases hnames : fieldNames records = []
    · have hempty := fieldNames_eq_nil.1 hnames
      rw [if_pos hnames]
      constructor
      · intro hlength
        exact .inl (List.eq_nil_of_length_eq_zero hlength.symm)
      · rintro (rfl | ⟨record, hrecord, hfield⟩)
        · rfl
        · exact absurd (hempty record hrecord) hfield
    · have hsome : ∃ record ∈ records, record ≠ [] := by
        by_contra hnone
        apply hnames
        apply fieldNames_eq_nil.2
        intro record hrecord
        by_contra hfield
        exact hnone ⟨record, hrecord, hfield⟩
      rw [if_neg hnames, List.length_map]
      exact ⟨fun _ => .inr hsome, fun _ => rfl⟩
  · intro place record row hrecord hrow
    have hmem : record ∈ records := List.mem_of_getElem? hrecord
    rw [eq_rowOf hrows hrow hrecord]
    exact reflects_rowOf hmem (hproper record hmem)

/-- Two records with different fields. -/
def mixedBatch : List Record := [[("id", .text "a"), ("count", .int 7)], [("id", .text "b"), ("share", .float 0.5)]]

/-- Each shows a null under the field of the other, and its own value under its own. -/
theorem mixedBatch_held : ∃ first second seven half, (ofRecords mixedBatch).toRecords = .ok [first, second] ∧
    Fields.get? first "share" = some .null ∧ Fields.get? second "count" = some .null ∧
    Fields.get? first "count" = some seven ∧ seven.equals (.int 7) = true ∧
    Fields.get? second "share" = some half ∧ half.equals (.float 0.5) = true := by
  have hproper : ∀ record ∈ mixedBatch, ∀ field ∈ record, field.2.Proper := by
    simp only [mixedBatch, List.forall_mem_cons, Value.Proper]
    simp
  have hnames : fieldNames mixedBatch = ["id", "count", "share"] := by decide
  obtain ⟨rows, hrows, hlength, hreflects⟩ := rows_hold hproper
  have htwo : rows.length = 2 :=
    hlength.2 (.inr ⟨[("id", .text "a"), ("count", .int 7)], List.mem_cons_self, nofun⟩)
  obtain ⟨first, second, rfl⟩ := List.length_eq_two.1 htwo
  have hfirst := hreflects 0 _ first rfl rfl
  have hsecond := hreflects 1 _ second rfl rfl
  obtain ⟨seven, hseven, hholdsSeven⟩ := hfirst.present "count" (.int 7) rfl
  obtain ⟨half, hhalf, hholdsHalf⟩ := hsecond.present "share" (.float 0.5) rfl
  refine ⟨first, second, seven, half, hrows, ?_, ?_, hseven, ?_, hhalf, ?_⟩
  · exact hfirst.absent "share" (by simp [hnames]) rfl
  · exact hsecond.absent "count" (by simp [hnames]) rfl
  · exact hholdsSeven.2 (hfirst.whole "count" 7 rfl (by decide))
  · -- one half is the decimal 5 · 10⁻¹
    exact hholdsHalf.2 (hsecond.decimal "share" false 5 1 rfl (by decide) (by decide))

/-- A record with eleven places after the point. -/
def longDecimal : Record := [("id", .text "a"), ("x", .float 0.12345678901)]

/-- Its last place is lost. -/
theorem longDecimal_lost : ∃ row other, (ofRecords [longDecimal]).toRecords = .ok [row] ∧
    Fields.get? row "x" = some other ∧ other.equals (.float 0.12345678901) = false := by
  have hrows := toRecords_ofRecords [longDecimal]
  refine ⟨_, _, hrows, rfl, ?_⟩
  decide +kernel

end Frame

end TableSync
