/-
  TableSync/Proofs/Record/Identity.lean
  =====================================
  **What a complex key tells of its record** — the values, if their texts do not
  imitate the key.

  A complex key writes `field:value` pairs one after another, with a comma
  between two of them.  It can be cut into the values again where the comma, the
  name and the colon of the next field occur in no place but their own
  (`Delimits`), and a text stands for itself if it is no placeholder.  Texts
  without commas are cut well (`Marked.of_noComma`).  But nothing is escaped, so
  other texts need not be, and two records may then share a key
  (`imitated_keys_agree`).
-/
import TableSync.Record.Key
import Mathlib.Data.List.Basic

namespace TableSync

/-! ## 1. Cutting at a mark -/

/-- A mark that follows a text occurs nowhere in the two but at their end. -/
def Delimits (mark text : String) : Prop := ∀ front rest, text ++ mark = front ++ mark ++ rest → rest = ""

section Delimits

variable {mark text other rest rest' : String}

theorem Delimits.cut (htext : Delimits mark text) (hother : Delimits mark other)
    (h : text ++ mark ++ rest = other ++ mark ++ rest') : text = other ∧ rest = rest' := by
  have hchars := congrArg String.toList h
  rw [@String.toList_append (text ++ mark), @String.toList_append (other ++ mark)] at hchars
  -- One of the two goes on where the other ends, and a mark ends both.
  have hsame : text ++ mark = other ++ mark := by
    rcases List.append_eq_append_iff.1 hchars with ⟨more, hlonger, -⟩ | ⟨more, hlonger, -⟩
    · have hsplit : other ++ mark = text ++ mark ++ String.ofList more := by
        rw [← String.toList_inj, hlonger]
        simp
      rw [hsplit, hother text _ hsplit, String.append_empty]
    · have hsplit : text ++ mark = other ++ mark ++ String.ofList more := by
        rw [← String.toList_inj, hlonger]
        simp
      rw [hsplit, htext other _ hsplit, String.append_empty]
  rw [hsame] at h
  exact ⟨(String.append_left_inj mark).1 hsame, (String.append_right_inj _).1 h⟩

theorem delimits_of_notMem {c : Char} (hmark : mark.toList.head? = some c) (htext : c ∉ text.toList) :
    Delimits mark text := by
  intro front rest h
  have hchars := congrArg String.toList h
  simp only [String.toList_append, List.append_assoc] at hchars
  have hrest : rest.toList = [] := by
    rcases List.append_eq_append_iff.1 hchars with ⟨between, -, hmore⟩ | ⟨_ | ⟨d, between⟩, htexts, hmore⟩
    · have hlength := congrArg List.length hmore
      simp only [List.length_append] at hlength
      exact List.eq_nil_of_length_eq_zero (by omega)
    · simpa using hmore
    · -- Here the mark would begin within the text.
      have hhead := congrArg List.head? hmore
      rw [List.head?_append, hmark] at hhead
      obtain rfl : c = d := by simpa using hhead
      exact absurd (htexts ▸ List.mem_append_right _ List.mem_cons_self) htext
  exact String.toList_eq_nil_iff.1 hrest

end Delimits

/-! ## 2. The parts of a key -/

namespace Value

/-- Two values that a key is to tell apart from all others: both are null, or neither is and they have one text, which
may be empty. -/
def Alike (a b : Value) : Prop := (a.isNull = true ∧ b.isNull = true) ∨
  (a.isNull = false ∧ b.isNull = false ∧ a.display = b.display)

instance (a b : Value) : Decidable (Alike a b) := inferInstanceAs (Decidable (_ ∨ _))

end Value

namespace KeyGenerator

def written (value : Value) : String :=
  if value.isNull then nullPlaceholder else if value.display.isEmpty then emptyPlaceholder else value.display

/-- What announces a field within a key. -/
def announced (field : String) : String := "," ++ field ++ ":"

variable {record a b : Value} {field next : String} {fields : List String}

theorem keyPart_eq : keyPart record field = field ++ ":" ++ written (record.lookupOrNull field) := by
  unfold keyPart written
  dsimp only
  split
  · rfl
  · split <;> rfl

/-- A value is written as text that stands for it alone. -/
structure Plain (value : Value) : Prop where
  notNull : value.display ≠ nullPlaceholder
  notEmpty : value.display ≠ emptyPlaceholder

theorem written_of_alike {value other : Value} (h : value.Alike other) : written value = written other := by
  rcases h with ⟨hvalue, hother⟩ | ⟨hvalue, hother, hsame⟩
  · simp [written, hvalue, hother]
  · simp [written, hvalue, hother, hsame]

theorem written_of_null {value : Value} (h : value.isNull = true) : written value = nullPlaceholder := if_pos h

theorem Plain.written_eq_null {value : Value} (h : Plain value) : written value = nullPlaceholder ↔ value.isNull = true := by
  refine ⟨fun hwritten => ?_, written_of_null⟩
  unfold written at hwritten
  split at hwritten
  next hnull => exact hnull
  next =>
    split at hwritten
    · exact absurd hwritten (by decide)
    · exact absurd hwritten h.notNull

theorem Plain.display_of_written {value other : Value} (hvalue : Plain value) (hother : Plain other)
    (hsome : value.isNull = false) (hsome' : other.isNull = false) (h : written value = written other) :
    value.display = other.display := by
  simp only [written, hsome, hsome', Bool.false_eq_true, if_false] at h
  split at h
  next hempty =>
    split at h
    next hempty' => rw [String.isEmpty_iff.1 hempty, String.isEmpty_iff.1 hempty']
    next => exact absurd h.symm hother.notEmpty
  next =>
    split at h
    next => exact absurd h hvalue.notEmpty
    next => exact h

theorem alike_iff_written {value other : Value} (hvalue : Plain value) (hother : Plain other) :
    value.Alike other ↔ written value = written other := by
  refine ⟨written_of_alike, fun h => ?_⟩
  cases hnull : value.isNull with
  | true =>
    rw [written_of_null hnull] at h
    exact .inl ⟨hnull, hother.written_eq_null.1 h.symm⟩
  | false =>
    have hnull' : other.isNull = false := by
      rw [← Bool.not_eq_true, ← hother.written_eq_null, ← h, hvalue.written_eq_null, hnull]
      decide
    exact .inr ⟨hnull, hnull', hvalue.display_of_written hother hnull hnull' h⟩

/-- In what a record's key writes for each field, the next field is announced nowhere. -/
def Marked (record : Value) : List String → Prop
  | field :: next :: rest =>
    Delimits (announced next) (written (record.lookupOrNull field)) ∧ Marked record (next :: rest)
  | _ => True

/-- The texts of a record can be read back from its key. -/
structure Readable (record : Value) (fields : List String) : Prop where
  plain : ∀ field ∈ fields, Plain (record.lookupOrNull field)
  marked : Marked record fields

/-- Texts without commas announce nothing. -/
theorem Marked.of_noComma (h : ∀ field ∈ fields, ',' ∉ (record.lookupOrNull field).display.toList) :
    Marked record fields := by
  have hwritten : ∀ field ∈ fields, ',' ∉ (written (record.lookupOrNull field)).toList := by
    intro field hfield
    unfold written
    split
    · decide
    · split
      · decide
      · exact h field hfield
  clear h
  induction fields with
  | nil => trivial
  | cons field rest ih =>
    obtain ⟨hfield, hrest⟩ := List.forall_mem_cons.1 hwritten
    cases rest with
    | nil => trivial
    | cons next rest =>
      refine ⟨delimits_of_notMem ?_ hfield, ih hrest⟩
      simp [announced]

theorem exists_joined (record : Value) (field : String) (more : List String) :
    ∃ rest, ",".intercalate ((field :: more).map (keyPart record)) = field ++ ":" ++ rest := by
  cases more with
  | nil => exact ⟨_, by rw [List.map_singleton, String.intercalate_singleton, keyPart_eq]⟩
  | cons next more =>
    refine ⟨written (record.lookupOrNull field) ++ "," ++ ",".intercalate ((next :: more).map (keyPart record)), ?_⟩
    rw [List.map_cons, List.map_cons, String.intercalate_cons_cons, keyPart_eq]
    simp only [String.append_assoc]

/-- What follows the first field of a key announces the second. -/
theorem exists_joined_cons (record : Value) (field next : String) (more : List String) :
    ∃ rest, ",".intercalate ((next :: more).map (keyPart record)) = next ++ ":" ++ rest ∧
      ",".intercalate ((field :: next :: more).map (keyPart record)) =
        field ++ ":" ++ (written (record.lookupOrNull field) ++ announced next ++ rest) := by
  obtain ⟨rest, hrest⟩ := exists_joined record next more
  refine ⟨rest, hrest, ?_⟩
  rw [List.map_cons] at hrest
  rw [List.map_cons, List.map_cons, String.intercalate_cons_cons, hrest, keyPart_eq, announced]
  simp only [String.append_assoc]

theorem written_of_joined (ha : Marked a fields) (hb : Marked b fields)
    (h : ",".intercalate (fields.map (keyPart a)) = ",".intercalate (fields.map (keyPart b))) :
    ∀ field ∈ fields, written (a.lookupOrNull field) = written (b.lookupOrNull field) := by
  induction fields with
  | nil => nofun
  | cons field more ih =>
    cases more with
    | nil =>
      simp only [List.map_singleton, String.intercalate_singleton, keyPart_eq] at h
      simpa using (String.append_right_inj _).1 h
    | cons next more =>
      -- The announcement of the next field ends what is written for this one, and the rest is a key of fewer fields.
      obtain ⟨rest, hrest, hjoined⟩ := exists_joined_cons a field next more
      obtain ⟨rest', hrest', hjoined'⟩ := exists_joined_cons b field next more
      rw [hjoined, hjoined', String.append_right_inj] at h
      obtain ⟨hfield, rfl⟩ := ha.1.cut hb.1 h
      exact List.forall_mem_cons.2 ⟨hfield, ih ha.2 hb.2 (hrest.trans hrest'.symm)⟩

/-! ## 3. Keys of records -/

variable {partitionFields : List String} {now later : Timestamp} {key other : RecordKey}

theorem recordKey_of_complex (h : (complex fields partitionFields).key record now = .ok key) :
    key.recordKey = ",".intercalate (fields.map (keyPart record)) := by
  unfold KeyGenerator.key at h
  dsimp only at h
  split at h
  · cases h
  · cases h
    rfl

/-- **A complex key identifies the values of its fields, where it can be read back.**  Two records that are accepted,
and whose texts neither imitate the key nor are placeholders, have one record key if and only if for every key field the
two values are both null, or have the same text. -/
theorem recordKey_eq_iff_alike (ha : (complex fields partitionFields).key a now = .ok key)
    (hb : (complex fields partitionFields).key b later = .ok other)
    (hreadable : Readable a fields) (hreadable' : Readable b fields) :
    key.recordKey = other.recordKey ↔
      ∀ field ∈ fields, (a.lookupOrNull field).Alike (b.lookupOrNull field) := by
  rw [recordKey_of_complex ha, recordKey_of_complex hb]
  constructor
  · intro hsame field hfield
    rw [alike_iff_written (hreadable.plain field hfield) (hreadable'.plain field hfield)]
    exact written_of_joined hreadable.marked hreadable'.marked hsame field hfield
  · intro halike
    refine congrArg _ (List.map_congr_left fun field hfield => ?_)
    rw [keyPart_eq, keyPart_eq, written_of_alike (halike field hfield)]

/-- What a device counted, at a site or at none. -/
def reading (site : Option String) (count : Int) : Value :=
  .object [("device", .text "a:1"), ("site", Value.ofText? site), ("count", .int count)]

theorem readable_reading {site : Option String} (hsite : site ∈ [some "eu", none]) (count : Int) :
    Readable (reading site count) ["device", "site"] := by
  have hdevice : (reading site count).lookupOrNull "device" = .text "a:1" := rfl
  have hlookup : (reading site count).lookupOrNull "site" = Value.ofText? site := by cases site <;> rfl
  refine ⟨fun field hfield => ?_, Marked.of_noComma fun field hfield => ?_⟩
  · rcases List.mem_pair.1 hfield with rfl | rfl
    · exact hdevice ▸ ⟨by decide, by decide⟩
    · rw [hlookup]
      rcases List.mem_pair.1 hsite with rfl | rfl <;> exact ⟨by decide, by decide⟩
  · rcases List.mem_pair.1 hfield with rfl | rfl
    · exact hdevice ▸ by decide
    · rw [hlookup]
      rcases List.mem_pair.1 hsite with rfl | rfl <;> decide

/-- The readings of a device at one site have one key, and its readings at no site have another. -/
theorem readings_identified : ∃ key other last,
    (complex ["device", "site"] []).key (reading (some "eu") 1) ⟨0⟩ = .ok key ∧
    (complex ["device", "site"] []).key (reading (some "eu") 2) ⟨0⟩ = .ok other ∧
    (complex ["device", "site"] []).key (reading none 3) ⟨0⟩ = .ok last ∧
    key.recordKey = other.recordKey ∧ key.recordKey ≠ last.recordKey := by
  have hkey : (complex ["device", "site"] []).key (reading (some "eu") 1) ⟨0⟩ = .ok ⟨"device:a:1,site:eu", ""⟩ := rfl
  have hother : (complex ["device", "site"] []).key (reading (some "eu") 2) ⟨0⟩ = .ok ⟨"device:a:1,site:eu", ""⟩ := rfl
  have hlast : (complex ["device", "site"] []).key (reading none 3) ⟨0⟩ = .ok ⟨"device:a:1,site:__null__", ""⟩ := rfl
  have heu : Readable (reading (some "eu") 1) ["device", "site"] := readable_reading (by decide) 1
  refine ⟨_, _, _, hkey, hother, hlast, ?_, fun hsame => ?_⟩
  · rw [recordKey_eq_iff_alike hkey hother heu (readable_reading (by decide) 2)]
    decide
  · rw [recordKey_eq_iff_alike hkey hlast heu (readable_reading (by decide) 3)] at hsame
    exact absurd hsame (by decide)

/-- But the text of one value may imitate the value of the next field. -/
theorem imitated_keys_agree : ¬∀ (fields partitionFields : List String) (a b : Value) (now : Timestamp)
    (key other : RecordKey), fields.Nodup → (complex fields partitionFields).key a now = .ok key →
    (complex fields partitionFields).key b now = .ok other → key.recordKey = other.recordKey →
    ∀ field ∈ fields, (a.lookupOrNull field).Alike (b.lookupOrNull field) := by
  intro hclaim
  have halike := hclaim ["a", "b"] [] (.object [("a", .text "x,b:y"), ("b", .text "z")])
    (.object [("a", .text "x"), ("b", .text "y,b:z")]) ⟨0⟩ ⟨"a:x,b:y,b:z", ""⟩ ⟨"a:x,b:y,b:z", ""⟩ (by decide) rfl rfl
    rfl "a" List.mem_cons_self
  exact absurd halike (by decide)

end KeyGenerator

end TableSync
