/-
  TableSync/Proofs/Record/Preparation.lean
  ========================================
  **Preparing a batch** — all of its records, or the failure of the first that cannot be.

  A record needs a value that its key can be made of, and a place for its
  ordering value (`Preparable`).  A generator that comes from settings is one
  of three (`KeyGenerator.Made`), and each of them takes a key exactly where
  there is such a value (`Made.key_ok`, `Made.key_error`); a key is never empty.
  So one record is prepared with nothing lost or fails for one of two reasons,
  the key before the ordering value (`prepare_cases`), and a batch goes record
  by record (`prepareAll_cases`).
-/
import Mathlib.Data.List.Forall2
import Mathlib.Data.List.TakeWhile
import TableSync.Proofs.Frame.Widened

namespace TableSync

/-! ## 1. Fields in a setting -/

namespace Text

variable {separator c : Char} {cs : List Char} {s : String}

theorem exists_mem_splitChars : (∃ part ∈ splitChars separator cs, c ∈ part) ↔ c ∈ cs ∧ c ≠ separator := by
  induction cs with
  | nil => simp [splitChars]
  | cons d rest ih =>
    by_cases hd : d = separator
    · rw [splitChars, if_pos hd, List.exists_mem_cons_iff, ih]
      grind
    · -- The first part is longer by a character, and there are no more parts.
      rw [splitChars, if_neg hd]
      cases hparts : splitChars separator rest with
      | nil => exact absurd hparts (splitChars_ne_nil _ _)
      | cons part parts =>
        rw [hparts, List.exists_mem_cons_iff] at ih
        rw [List.exists_mem_cons_iff]
        grind

theorem stripLeft_eq_nil_iff : stripLeft cs = [] ↔ ∀ c ∈ cs, isBlank c = true := List.dropWhile_eq_nil_iff

theorem stripChars_eq_nil_iff : stripChars cs = [] ↔ ∀ c ∈ cs, isBlank c = true := by
  rw [stripChars, List.reverse_eq_nil_iff, stripLeft_eq_nil_iff]
  constructor
  · intro h c hc
    rw [← List.takeWhile_append_dropWhile (p := isBlank) (l := cs)] at hc
    rcases List.mem_append.1 hc with hfront | hrest
    · exact List.mem_takeWhile_imp hfront
    · exact h c (List.mem_reverse.2 hrest)
  · intro h
    rw [stripLeft_eq_nil_iff.2 h]
    simp

theorem strip_isEmpty : (strip s).isEmpty = true ↔ ∀ c ∈ s.toList, isBlank c = true := by
  rw [strip, String.isEmpty_iff, ← String.toList_eq_nil_iff, String.toList_ofList, stripChars_eq_nil_iff]

/-- A setting names something if there is a character in it that is neither the separator nor a blank. -/
theorem splitNonBlank_ne_nil (h : ∃ c ∈ s.toList, c ≠ separator ∧ isBlank c = false) :
    splitNonBlank separator s ≠ [] := by
  obtain ⟨c, hc, hother, hblank⟩ := h
  obtain ⟨part, hpart, hmem⟩ := exists_mem_splitChars.2 ⟨hc, hother⟩
  refine List.ne_nil_of_mem (a := strip (String.ofList part)) (List.mem_filter.2 ⟨?_, ?_⟩)
  · exact List.mem_map_of_mem (List.mem_map_of_mem hpart)
  · rw [Bool.not_eq_true', Bool.eq_false_iff, ne_eq, strip_isEmpty]
    intro hall
    rw [hall c (by rwa [String.toList_ofList])] at hblank
    cases hblank

theorem isEmpty_of_mem_splitNonBlank {part : String} (h : part ∈ splitNonBlank separator s) : part.isEmpty = false := by
  simpa using (List.mem_filter.1 h).2

end Text

/-! ## 2. Values of a record -/

namespace Value

/-- A path leads to a value, through objects alone. -/
inductive LeadsTo : Value → List String → Value → Prop where
  | here (value : Value) : LeadsTo value [] value
  | inside {fields : List (String × Value)} {part : String} {rest : List String} {inner found : Value}
      (field : Fields.get? fields part = some inner) (next : LeadsTo inner rest found) :
      LeadsTo (.object fields) (part :: rest) found

variable {value found : Value} {parts : List String} {path : String}

theorem follow_eq_ok : value.follow parts = .ok found ↔ value.LeadsTo parts found := by
  constructor
  · intro h
    induction parts generalizing value with
    | nil =>
      cases h
      exact .here _
    | cons part rest ih =>
      rw [follow] at h
      cases value with
      | object fields =>
        cases hfield : Fields.get? fields part with
        | none =>
          rw [field?, hfield] at h
          cases h
        | some inner =>
          rw [field?, hfield] at h
          exact .inside hfield (ih h)
      | _ => cases h
  · intro h
    induction h with
    | here => rfl
    | inside field _ ih =>
      rw [follow, field?, field]
      exact ih

theorem display_isEmpty_iff : value.display.isEmpty = true ↔ value = .text "" := by
  cases value with
  | text s => simp [String.isEmpty_iff]
  | null => simp [display, literal]
  | bool b => cases b <;> simp [display, literal, boolText]
  | int n => simp [display_ne_empty]
  | float x => simp [(interrupted_display x).ne_empty]
  | list items => simp [display, literal]
  | object fields => simp [display, literal]

/-- A path leads to a value that a key can be made of: not null, not the double that is no number, and not empty. -/
def Fills (value : Value) (path : String) : Prop :=
  ∃ found, value.LeadsTo (Text.split '.' path) found ∧ found.isMissing = false ∧ found ≠ .text ""

theorem nanToNull_isNullOrEmpty :
    value.nanToNull.isNullOrEmpty = false ↔ value.isMissing = false ∧ value ≠ .text "" := by
  rw [nanToNull, isNullOrEmpty]
  cases hmissing : value.isMissing with
  | true => simp [isNull]
  | false =>
    have hnull : value.isNull = false := by
      cases value with
      | null => cases hmissing
      | _ => rfl
    rw [if_neg Bool.false_ne_true, hnull, Bool.false_or, ← Bool.not_eq_true, display_isEmpty_iff]
    simp

theorem lookupOrNull_filled : (value.lookupOrNull path).isNullOrEmpty = false ↔ value.Fills path := by
  unfold lookupOrNull Fills
  cases hfollow : value.follow (Text.split '.' path) with
  | ok found =>
    simp only [← follow_eq_ok, hfollow, Except.ok.injEq, exists_eq_left', nanToNull_isNullOrEmpty]
  | error part =>
    simp only [← follow_eq_ok, hfollow, reduceCtorEq, false_and, exists_false, iff_false]
    nofun

theorem lookup_of_leadsTo (h : value.LeadsTo (Text.split '.' path) found) :
    value.lookup path = .ok found.nanToNull := by
  rw [lookup, follow_eq_ok.2 h]

theorem lookup_of_not_leadsTo (h : ¬∃ found, value.LeadsTo (Text.split '.' path) found) :
    ∃ failure, value.lookup path = .error failure := by
  unfold lookup
  cases hfollow : value.follow (Text.split '.' path) with
  | ok found => exact absurd ⟨found, follow_eq_ok.1 hfollow⟩ h
  | error part => cases value <;> exact ⟨_, rfl⟩

end Value

/-! ## 3. Keys -/

namespace KeyGenerator

/-- The generator for given key fields and partition fields. -/
inductive Made : List String → List String → KeyGenerator → Prop where
  | nonPartitioned (keyField : String) : Made [keyField] [] (.nonPartitioned keyField)
  | simple (keyField partitionField : String) :
      Made [keyField] [partitionField] (.simple keyField (some partitionField))
  | complex (keyFields partitionFields : List String) (some : keyFields ≠ []) :
      Made keyFields partitionFields (.complex keyFields partitionFields)

variable {keyFields partitionFields : List String} {generator : KeyGenerator} {record : Value}
  {keySetting field : String}

theorem ofSettings_made (h : Text.splitNonBlank ',' keySetting ≠ []) (partitionSetting : Option String) :
    ∃ generator, ofSettings keySetting partitionSetting = .ok generator ∧
      Made (Text.splitNonBlank ',' keySetting) (Text.splitNonBlank ',' (partitionSetting.getD "")) generator := by
  unfold ofSettings
  generalize Text.splitNonBlank ',' keySetting = keyFields at h ⊢
  generalize Text.splitNonBlank ',' (partitionSetting.getD "") = partitionFields
  have hcomplex : ofFields keyFields partitionFields = .ok (.complex keyFields partitionFields) := by
    rw [ofFields, if_neg (by simpa using h)]
  match keyFields, partitionFields with
  | [], _ => exact absurd rfl h
  | [keyField], [] => exact ⟨_, rfl, .nonPartitioned keyField⟩
  | [keyField], [partitionField] => exact ⟨_, rfl, .simple keyField partitionField⟩
  | [_], _ :: _ :: _ => exact ⟨_, hcomplex, .complex _ _ h⟩
  | _ :: _ :: _, _ => exact ⟨_, hcomplex, .complex _ _ h⟩

theorem partitionPart_ne_empty (h : field.isEmpty = false) : partitionPart record field ≠ "" := by
  unfold partitionPart
  rw [h, if_neg Bool.false_ne_true]
  dsimp only
  split
  · decide
  next hsome =>
    intro hempty
    simp [Value.isNullOrEmpty, hempty] at hsome

theorem keyPart_ne_empty : keyPart record field ≠ "" := by
  rw [keyPart_eq]
  simp

theorem joined_ne_empty {mark first : String} {rest : List String} (h : first ≠ "") :
    mark.intercalate (first :: rest) ≠ "" := by
  cases rest with
  | nil => rwa [String.intercalate_singleton]
  | cons next rest =>
    rw [String.intercalate_cons_cons]
    simp [h]

/-- A record with a value for some key field has a key, which is not empty. It is in the empty partition only where
there are no partition fields. -/
theorem Made.key_ok (h : Made keyFields partitionFields generator)
    (hpartitions : ∀ field ∈ partitionFields, field.isEmpty = false)
    (hfilled : ∃ field ∈ keyFields, record.Fills field) (now : Timestamp) :
    ∃ key, generator.key record now = .ok key ∧ key.recordKey ≠ "" ∧
      (key.partitionPath = "" ↔ partitionFields = []) := by
  obtain ⟨field, hfield, hvalue⟩ := hfilled
  have hsome := Value.lookupOrNull_filled.2 hvalue
  have hdisplay : (record.lookupOrNull field).display ≠ "" := by
    intro hempty
    simp [Value.isNullOrEmpty, hempty] at hsome
  cases h with
  | nonPartitioned keyField =>
    obtain rfl := List.mem_singleton.1 hfield
    exact ⟨_, singleKey_eq_ok.2 ⟨hsome, rfl⟩, hdisplay, iff_of_true rfl rfl⟩
  | simple keyField partitionField =>
    obtain rfl := List.mem_singleton.1 hfield
    have hpartition : partitionPart record partitionField ≠ "" :=
      partitionPart_ne_empty (hpartitions _ List.mem_cons_self)
    exact ⟨_, singleKey_eq_ok.2 ⟨hsome, rfl⟩, hdisplay, iff_of_false hpartition (List.cons_ne_nil _ _)⟩
  | complex _ _ hkeys =>
    have hnot : (keyFields.all fun field => (record.lookupOrNull field).isNullOrEmpty) = false :=
      List.all_eq_false.2 ⟨field, hfield, by simp [hsome]⟩
    refine ⟨_, complex_eq_ok.2 ⟨hnot, rfl⟩, ?_, ?_⟩
    · obtain ⟨first, rest, rfl⟩ := List.exists_cons_of_ne_nil hkeys
      exact joined_ne_empty keyPart_ne_empty
    · cases partitionFields with
      | nil => exact iff_of_true rfl rfl
      | cons first rest =>
        have hfirst : partitionPart record first ≠ "" := partitionPart_ne_empty (hpartitions _ List.mem_cons_self)
        exact iff_of_false (joined_ne_empty hfirst) (List.cons_ne_nil _ _)

/-- A record without one has no key. -/
theorem Made.key_error (h : Made keyFields partitionFields generator)
    (hnone : ¬∃ field ∈ keyFields, record.Fills field) (now : Timestamp) :
    ∃ failure, generator.key record now = .error failure ∧ failure.name = "KeyGenerationError" := by
  have hempty : ∀ field ∈ keyFields, (record.lookupOrNull field).isNullOrEmpty = true := by
    intro field hfield
    rw [← Bool.not_eq_false, Value.lookupOrNull_filled]
    exact fun hvalue => hnone ⟨field, hfield, hvalue⟩
  cases h with
  | nonPartitioned keyField => exact ⟨_, if_pos (hempty _ List.mem_cons_self), rfl⟩
  | simple keyField partitionField => exact ⟨_, if_pos (hempty _ List.mem_cons_self), rfl⟩
  | complex => exact ⟨_, if_pos (List.all_eq_true.2 hempty), rfl⟩

end KeyGenerator

/-! ## 4. Records -/

namespace RecordPreparer

/-- Some key field leads to a value that a key can be made of. -/
def Keyed (keyFields : List String) (record : Record) : Prop := ∃ field ∈ keyFields, (Value.object record).Fills field

/-- The ordering field leads to a value, which may be null. -/
def Ordered (orderingField : String) (record : Record) : Prop :=
  ∃ found, (Value.object record).LeadsTo (Text.split '.' orderingField) found

/-- What a record needs to be prepared. -/
structure Preparable (keyFields : List String) (orderingField : String) (record : Record) : Prop where
  keyed : Keyed keyFields record
  ordered : Ordered orderingField record

/-- A prepared record holds its record, an ordering value that is the one of the record, and a key. -/
structure Prepares (partitionFields : List String) (orderingField : String) (record : Record)
    (prepared : PreparedRecord) : Prop where
  payload : prepared.payload = record
  ordering : ∃ found, (Value.object record).LeadsTo (Text.split '.' orderingField) found ∧
    prepared.ordering = found.nanToNull
  recordKey : prepared.key.recordKey ≠ ""
  partitionPath : prepared.key.partitionPath = "" ↔ partitionFields = []

/-- Why a record cannot be prepared: its key comes before its ordering value. -/
inductive Unprepared (keyFields : List String) (orderingField : String) (record : Record) (failure : Failure) :
    Prop where
  | unkeyed (noKey : ¬Keyed keyFields record) (kind : failure.name = "KeyGenerationError")
  | unordered (keyed : Keyed keyFields record) (noOrdering : ¬Ordered orderingField record)
      (kind : failure.name = "RecordPreparationError")

variable {keyFields partitionFields : List String} {generator : KeyGenerator} {orderingField : String}
  {record : Record} {records : List Record} {now : Timestamp}

theorem Unprepared.not_preparable {failure : Failure} (h : Unprepared keyFields orderingField record failure) :
    ¬Preparable keyFields orderingField record := by
  rintro ⟨hkeyed, hordered⟩
  rcases h with ⟨hnone, -⟩ | ⟨-, hnone, -⟩
  · exact hnone hkeyed
  · exact hnone hordered

/-- One record is prepared, or it lacks what it needs. -/
theorem prepare_cases (hmade : KeyGenerator.Made keyFields partitionFields generator)
    (hpartitions : ∀ field ∈ partitionFields, field.isEmpty = false) (orderingField : String) (record : Record)
    (now : Timestamp) :
    (Preparable keyFields orderingField record ∧
      ∃ prepared, (mk generator.key orderingField).prepare record now = .ok prepared ∧
        Prepares partitionFields orderingField record prepared) ∨
      ∃ failure, (mk generator.key orderingField).prepare record now = .error failure ∧
        Unprepared keyFields orderingField record failure := by
  by_cases hkeyed : Keyed keyFields record
  · obtain ⟨key, hkey, hsome, hpartition⟩ := hmade.key_ok hpartitions hkeyed now
    by_cases hordered : Ordered orderingField record
    · obtain ⟨found, hfound⟩ := hordered
      refine .inl ⟨⟨hkeyed, found, hfound⟩, ⟨key, found.nanToNull, record⟩, ?_, rfl, ⟨found, hfound, rfl⟩, hsome,
        hpartition⟩
      simp only [prepare, hkey, Value.lookup_of_leadsTo hfound]
      rfl
    · obtain ⟨cause, hcause⟩ := Value.lookup_of_not_leadsTo hordered
      have hfails : ∃ failure, (mk generator.key orderingField).prepare record now = .error failure ∧
          failure.name = "RecordPreparationError" := by
        simp only [prepare, hkey, hcause]
        exact ⟨_, rfl, rfl⟩
      obtain ⟨failure, hfails, hkind⟩ := hfails
      exact .inr ⟨failure, hfails, .unordered hkeyed hordered hkind⟩
  · obtain ⟨failure, hfails, hkind⟩ := hmade.key_error hkeyed now
    refine .inr ⟨failure, ?_, .unkeyed hkeyed hkind⟩
    simp only [prepare, hfails]
    rfl

/-! ## 5. Batches -/

/-- A batch fails with its first record that cannot be prepared. -/
def FailsAt (keyFields : List String) (orderingField : String) (preparer : RecordPreparer) (now : Timestamp)
    (records : List Record) (failure : Failure) : Prop :=
  ∃ before record after, records = before ++ record :: after ∧
    (∀ earlier ∈ before, Preparable keyFields orderingField earlier) ∧
    preparer.prepare record now = .error failure ∧ Unprepared keyFields orderingField record failure

theorem FailsAt.not_preparable {preparer : RecordPreparer} {failure : Failure}
    (h : FailsAt keyFields orderingField preparer now records failure) :
    ¬∀ record ∈ records, Preparable keyFields orderingField record := by
  obtain ⟨before, record, after, rfl, -, -, hunprepared⟩ := h
  exact fun hall => hunprepared.not_preparable (hall record (List.mem_append_right _ List.mem_cons_self))

theorem prepareAll_cases (hmade : KeyGenerator.Made keyFields partitionFields generator)
    (hpartitions : ∀ field ∈ partitionFields, field.isEmpty = false) (orderingField : String) (records : List Record)
    (now : Timestamp) :
    ((∀ record ∈ records, Preparable keyFields orderingField record) ∧
      ∃ prepared, (mk generator.key orderingField).prepareAll records now = .ok prepared ∧
        List.Forall₂ (Prepares partitionFields orderingField) records prepared) ∨
      ∃ failure, (mk generator.key orderingField).prepareAll records now = .error failure ∧
        FailsAt keyFields orderingField (mk generator.key orderingField) now records failure := by
  induction records with
  | nil => exact .inl ⟨nofun, [], rfl, .nil⟩
  | cons record rest ih =>
    rcases prepare_cases hmade hpartitions orderingField record now with
      ⟨hgood, prepared, hprepare, hprepares⟩ | ⟨failure, hprepare, hunprepared⟩
    · rcases ih with ⟨hrest, others, hall, hothers⟩ | ⟨failure, hall, hfirst⟩
      · refine .inl ⟨List.forall_mem_cons.2 ⟨hgood, hrest⟩, prepared :: others, ?_, .cons hprepares hothers⟩
        simp only [prepareAll, hprepare, hall]
        rfl
      · obtain ⟨before, bad, after, rfl, hbefore, hbad⟩ := hfirst
        refine .inr ⟨failure, ?_, record :: before, bad, after, rfl, List.forall_mem_cons.2 ⟨hgood, hbefore⟩, hbad⟩
        simp only [prepareAll, hprepare, hall]
        rfl
    · refine .inr ⟨failure, ?_, [], record, rest, rfl, nofun, hprepare, hunprepared⟩
      simp only [prepareAll, hprepare]
      rfl

/-- **Preparation is all or nothing.**  The key fields are given by a setting that names at least one, the partition
fields by another setting or none.  Then there is a generator for them, and a batch is prepared if and only if every
record has a value for some key field and a place for its ordering value.  If it is, there is one prepared record for
each record, in order, with its payload and a key; and otherwise the failure is that of the first record that lacks one
of the two, its key before its ordering value. -/
theorem prepareAll_allOrNothing {keySetting : String} (hkey : ∃ c ∈ keySetting.toList, c ≠ ',' ∧ Text.isBlank c = false)
    (partitionSetting : Option String) (orderingField : String) (records : List Record) (now : Timestamp) :
    ∃ generator, KeyGenerator.ofSettings keySetting partitionSetting = .ok generator ∧
      ((∃ prepared, (mk generator.key orderingField).prepareAll records now = .ok prepared) ↔
        ∀ record ∈ records, Preparable (Text.splitNonBlank ',' keySetting) orderingField record) ∧
      (∀ prepared, (mk generator.key orderingField).prepareAll records now = .ok prepared →
        List.Forall₂ (Prepares (Text.splitNonBlank ',' (partitionSetting.getD "")) orderingField) records prepared) ∧
      ∀ failure, (mk generator.key orderingField).prepareAll records now = .error failure →
        FailsAt (Text.splitNonBlank ',' keySetting) orderingField (mk generator.key orderingField) now records
          failure := by
  obtain ⟨generator, hgenerator, hmade⟩ :=
    KeyGenerator.ofSettings_made (Text.splitNonBlank_ne_nil hkey) partitionSetting
  refine ⟨generator, hgenerator, ?_⟩
  rcases prepareAll_cases hmade (fun _ => Text.isEmpty_of_mem_splitNonBlank) orderingField records now with
    ⟨hall, prepared, hprepared, hprepares⟩ | ⟨failure, hfails, hfirst⟩
  · refine ⟨iff_of_true ⟨prepared, hprepared⟩ hall, fun other hother => ?_, fun failure hfailure => ?_⟩
    · rw [hprepared] at hother
      cases hother
      exact hprepares
    · rw [hprepared] at hfailure
      cases hfailure
  · refine ⟨iff_of_false ?_ hfirst.not_preparable, fun prepared hprepared => ?_, fun other hother => ?_⟩
    · rintro ⟨prepared, hprepared⟩
      rw [hfails] at hprepared
      cases hprepared
    · rw [hfails] at hprepared
      cases hprepared
    · rw [hfails] at hother
      cases hother
      exact hfirst

/-- A record without an id, whose revision is null, and one without a name of the site. -/
def visits : List Record :=
  [[("site", .object [("name", .text "north")]), ("meta", .object [("revision", .null)])],
    [("id", .int 7), ("site", .object [("name", .text "")]), ("meta", .object [("revision", .int 3)])]]

/-- The visits are keyed by id and name of the site together. -/
theorem visits_prepared : (∃ c ∈ " id,, site.name ".toList, c ≠ ',' ∧ Text.isBlank c = false) ∧
    ∃ generator prepared, KeyGenerator.ofSettings " id,, site.name " none = .ok generator ∧
      (mk generator.key "meta.revision").prepareAll visits ⟨0⟩ = .ok prepared ∧
      List.Forall₂ (Prepares [] "meta.revision") visits prepared := by
  have hkey : ∃ c ∈ " id,, site.name ".toList, c ≠ ',' ∧ Text.isBlank c = false :=
    ⟨'i', by decide, by decide, by decide⟩
  have hfields : Text.splitNonBlank ',' " id,, site.name " = ["id", "site.name"] := by decide
  have hname : Text.split '.' "site.name" = ["site", "name"] := by decide
  have hid : Text.split '.' "id" = ["id"] := by decide
  have hordering : Text.split '.' "meta.revision" = ["meta", "revision"] := by decide
  have hgood : ∀ record ∈ visits, Preparable (Text.splitNonBlank ',' " id,, site.name ") "meta.revision" record := by
    rw [hfields]
    refine List.forall_mem_cons.2 ⟨⟨?_, ?_⟩, List.forall_mem_singleton.2 ⟨?_, ?_⟩⟩
    · exact ⟨"site.name", by simp, .text "north", hname ▸ .inside rfl (.inside rfl (.here _)), rfl, by simp⟩
    · exact ⟨.null, hordering ▸ .inside rfl (.inside rfl (.here _))⟩
    · exact ⟨"id", by simp, .int 7, hid ▸ .inside rfl (.here _), rfl, by simp⟩
    · exact ⟨.int 3, hordering ▸ .inside rfl (.inside rfl (.here _))⟩
  obtain ⟨generator, hgenerator, hiff, hprepares, -⟩ := prepareAll_allOrNothing hkey none "meta.revision" visits ⟨0⟩
  obtain ⟨prepared, hprepared⟩ := hiff.2 hgood
  exact ⟨hkey, generator, prepared, hgenerator, hprepared, hprepares prepared hprepared⟩

end RecordPreparer

end TableSync
