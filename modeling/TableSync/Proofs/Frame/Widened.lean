/-
  TableSync/Proofs/Frame/Widened.lean
  ===================================
  **Widened numbers** — when the key of a record depends on its batch.

  Keys and partitions are texts of values, and a column of doubles shows a whole
  number as a double, whose text is another one: `7` becomes `7.0`.  So a record
  of a batch has the key that it has alone if and only if no field that its key
  is made of is a whole number in such a column (`identity_of_batch`).  What
  makes a column one of doubles is in the other records (`Widened.of_other`).
-/
import TableSync.Proofs.Frame.Rows
import TableSync.Proofs.Record.Identity
import TableSync.Record.Prepared

namespace TableSync

/-! ## 1. Looking up a field of a row -/

namespace Value

/-- A path that leads to a whole number in one value, and in the other to a double or to null. -/
structure Rewritten (a b : Value) (path : String) : Prop where
  whole : ∃ n, a.lookupOrNull path = .int n
  other : b.lookupOrNull path = .null ∨ ∃ x, b.lookupOrNull path = .float x

theorem Rewritten.ne {a b : Value} {path : String} (h : Rewritten a b path) :
    a.lookupOrNull path ≠ b.lookupOrNull path := by
  obtain ⟨⟨n, hwhole⟩, hnull | ⟨x, hfloat⟩⟩ := h
  · rw [hwhole, hnull]
    nofun
  · rw [hwhole, hfloat]
    nofun

/-- The value at the rest of a path; null if it is not there. -/
def restOf (value : Value) (rest : List String) : Value :=
  match value.follow rest with
  | .ok found => found.nanToNull
  | .error _ => .null

theorem restOf_null (rest : List String) : restOf .null rest = .null := by
  cases rest <;> rfl

theorem restOf_of_noField {value : Value} (h : ∀ name, value.field? name = none) (part : String) (rest : List String) :
    restOf value (part :: rest) = .null := by
  rw [restOf, follow, h]

theorem lookupOrNull_object {fields : List (String × Value)} {path part : String} {rest : List String}
    (hpath : Text.split '.' path = part :: rest) : (object fields).lookupOrNull path =
      match Fields.get? fields part with
      | some inner => inner.restOf rest
      | none => .null := by
  rw [lookupOrNull, hpath, follow]
  show (match (match Fields.get? fields part with
    | some inner => inner.follow rest
    | none => .error part) with
    | .ok found => found.nanToNull
    | .error _ => null) = _
  cases Fields.get? fields part <;> rfl

end Value

theorem Text.split_cons (separator : Char) (s : String) : ∃ part rest, split separator s = part :: rest := by
  unfold split
  cases hparts : splitChars separator s.toList with
  | nil => exact absurd hparts (splitChars_ne_nil _ _)
  | cons part rest => exact ⟨_, _, rfl⟩

namespace Frame

variable {records : List Record} {record : Record} {path part : String} {rest : List String}

theorem lookup_rowOf (hrecord : record ∈ records) (hpath : Text.split '.' path = part :: rest) :
    (Value.object (rowOf records record)).lookupOrNull path = (shown records part record).restOf rest := by
  rw [Value.lookupOrNull_object hpath, get?_rowOf]
  by_cases hpart : part ∈ fieldNames records
  · rw [if_pos hpart]
  · have habsent : Fields.get? record part = none :=
      Fields.get?_eq_none_iff.2 fun hname => hpart (mem_fieldNames.2 ⟨record, hrecord, hname⟩)
    rw [if_neg hpart, shown_of_absent habsent, Value.restOf_null]

/-- A path leads to a whole number that stands in a column of doubles. -/
def Widened (records : List Record) (record : Record) (path : String) : Prop :=
  ∃ name n, Text.split '.' path = [name] ∧ Fields.get? record name = some (.int n) ∧ typeIn records name = .double

/-- A whole number is widened by another record, which has none under the name. -/
theorem Widened.of_other (h : Widened records record path) : ∃ name, Text.split '.' path = [name] ∧
    ∃ other ∈ records, ∀ n, Fields.get? other name ≠ some (.int n) := by
  obtain ⟨name, -, hpath, -, htype⟩ := h
  obtain ⟨cell, hcell, hother⟩ := Column.exists_not_whole htype
  obtain ⟨other, hmem, rfl⟩ := List.mem_map.1 hcell
  exact ⟨name, hpath, other, hmem, fun n hn => hother n (cellOf_eq_int.2 hn)⟩

/-- Elsewhere, a path leads to the same value in the batch and alone. -/
theorem lookup_of_not_widened (hrecord : record ∈ records) (h : ¬Widened records record path) :
    (Value.object (rowOf records record)).lookupOrNull path =
      (Value.object (rowOf [record] record)).lookupOrNull path := by
  obtain ⟨part, rest, hpath⟩ := Text.split_cons '.' path
  rw [lookup_rowOf hrecord hpath, lookup_rowOf (List.mem_singleton_self record) hpath, shown_alone]
  by_cases hwhole : typeIn records part = .double ∧ ∃ n, Fields.get? record part = some (.int n)
  · obtain ⟨htype, n, hn⟩ := hwhole
    cases rest with
    | nil => exact absurd ⟨part, n, hpath, hn, htype⟩ h
    | cons next rest =>
      -- No path leads through a number.
      have hshown : ∀ name, (shown records part record).field? name = none := by
        rcases shown_of_double htype hn with hnull | ⟨x, hfloat⟩
        · exact hnull ▸ fun _ => rfl
        · exact hfloat ▸ fun _ => rfl
      rw [cellOf_eq_int.2 hn, Value.restOf_of_noField hshown, Value.restOf_of_noField fun _ => rfl]
  · rw [shown_eq hrecord fun htype n hn => hwhole ⟨htype, n, hn⟩]

theorem Widened.rewritten (hrecord : record ∈ records) (h : Widened records record path) :
    Value.Rewritten (.object (rowOf [record] record)) (.object (rowOf records record)) path := by
  obtain ⟨name, n, hpath, hn, htype⟩ := h
  constructor
  · rw [lookup_rowOf (List.mem_singleton_self record) hpath, shown_alone, cellOf_eq_int.2 hn]
    exact ⟨n, rfl⟩
  · rw [lookup_rowOf hrecord hpath]
    rcases shown_of_double htype hn with hnull | ⟨x, hfloat⟩
    · rw [hnull]
      exact .inl rfl
    · rw [hfloat]
      show (Value.float x).nanToNull = _ ∨ ∃ y, (Value.float x).nanToNull = _
      unfold Value.nanToNull
      split
      · exact .inl rfl
      · exact .inr ⟨x, rfl⟩

end Frame

/-! ## 2. Texts of whole numbers, and others -/

def inNumeral (c : Char) : Bool := c.isDigit || c == '-'

def Numeral (text : String) : Prop := ∀ c ∈ text.toList, inNumeral c = true

/-- A text that goes on where that of a whole number would end, and not as a key goes on. -/
def Interrupted (text : String) : Prop := ∃ front c rest, text.toList = front ++ c :: rest ∧
  (∀ d ∈ front, inNumeral d = true) ∧ inNumeral c = false ∧ c ≠ ',' ∧ c ≠ '/'

section Texts

variable {numeral text after after' : String}

theorem inNumeral_of_toDigits (n : Nat) : ∀ c ∈ Nat.toDigits 10 n, inNumeral c = true := by
  intro c hc
  rw [inNumeral, Nat.isDigit_of_mem_toDigits (by decide) (by decide) hc, Bool.true_or]

theorem toList_display (n : Int) :
    (Value.int n).display.toList = (if n < 0 then ['-'] else []) ++ Nat.toDigits 10 n.natAbs := by
  cases n with
  | ofNat n =>
    have hsign : ¬Int.ofNat n < 0 := Int.not_lt.2 (Int.natCast_nonneg n)
    rw [if_neg hsign]
    exact Nat.toList_repr
  | negSucc n =>
    rw [if_pos (Int.negSucc_lt_zero n)]
    show ("-" ++ Nat.repr (n + 1)).toList = _
    rw [String.toList_append, Nat.toList_repr]
    rfl

theorem numeral_display (n : Int) : Numeral (Value.int n).display := by
  rw [Numeral, toList_display]
  refine List.forall_mem_append.2 ⟨fun c hc => ?_, inNumeral_of_toDigits _⟩
  split at hc
  · rw [List.mem_singleton.1 hc]
    decide
  · cases hc

theorem display_ne_empty (n : Int) : (Value.int n).display.isEmpty = false := by
  have hchars : (Value.int n).display.toList ≠ [] := by
    rw [toList_display]
    exact List.append_ne_nil_of_right_ne_nil _ Nat.toDigits_ne_nil
  rw [← Bool.not_eq_true, String.isEmpty_iff]
  exact fun hempty => hchars (by rw [hempty]; rfl)

theorem Interrupted.ne_empty (h : Interrupted text) : text.isEmpty = false := by
  obtain ⟨front, c, rest, hchars, -⟩ := h
  rw [← Bool.not_eq_true, String.isEmpty_iff]
  rintro rfl
  simp at hchars

theorem Interrupted.of_point (front : List Char) (hfront : ∀ d ∈ front, inNumeral d = true) (rest : String) :
    Interrupted (String.ofList front ++ "." ++ rest) :=
  ⟨front, '.', rest.toList, by simp, hfront, by decide, by decide, by decide⟩

theorem Interrupted.of_exponent (front : List Char) (hfront : ∀ d ∈ front, inNumeral d = true) {mark : String}
    (hmark : mark = "e-" ∨ mark = "e+") (rest : String) : Interrupted (String.ofList front ++ mark ++ rest) := by
  rcases hmark with rfl | rfl
  · exact ⟨front, 'e', '-' :: rest.toList, by simp, hfront, by decide, by decide, by decide⟩
  · exact ⟨front, 'e', '+' :: rest.toList, by simp, hfront, by decide, by decide, by decide⟩

theorem Interrupted.negative (h : Interrupted text) : Interrupted ("-" ++ text) := by
  obtain ⟨front, c, rest, hchars, hfront, hc⟩ := h
  refine ⟨'-' :: front, c, rest, ?_, List.forall_mem_cons.2 ⟨by decide, hfront⟩, hc⟩
  rw [String.toList_append, hchars]
  rfl

theorem interrupted_positive (layout : Decimal.Layout) (d : Decimal.Scientific) : Interrupted (layout.positive d) := by
  have hdigits := inNumeral_of_toDigits d.digits
  unfold Decimal.Layout.positive
  dsimp only
  generalize Nat.toDigits 10 d.digits = digits at hdigits ⊢
  split
  · split
    · exact Interrupted.of_point ['0'] (List.forall_mem_singleton.2 (by decide)) _
    · refine Interrupted.of_point _ (fun c hc => ?_) _
      rcases List.mem_append.1 hc with hdigit | hzero
      · exact hdigits c (List.mem_of_mem_take hdigit)
      · rw [List.eq_of_mem_replicate hzero]
        decide
  · have hmark : ∀ lead : Int, (if lead < 0 then "e-" else "e+") = "e-" ∨ (if lead < 0 then "e-" else "e+") = "e+" := by
      intro lead
      split
      · exact .inl rfl
      · exact .inr rfl
    rcases digits with _ | ⟨c, _ | ⟨next, rest⟩⟩
    · exact Interrupted.of_exponent [] (by simp) (hmark _) _
    · show Interrupted (String.singleton c ++ _ ++ _)
      rw [String.singleton_eq_ofList]
      exact Interrupted.of_exponent [c] hdigits (hmark _) _
    · show Interrupted (String.singleton c ++ "." ++ _ ++ _ ++ _)
      rw [String.singleton_eq_ofList, String.append_assoc, String.append_assoc]
      exact Interrupted.of_point [c] (List.forall_mem_singleton.2 (hdigits c List.mem_cons_self)) _

theorem interrupted_render (layout : Decimal.Layout) (hnan : Interrupted layout.nan)
    (hinfinity : Interrupted layout.infinity) (x : Float) : Interrupted (layout.render x) := by
  have hzero : Interrupted "0.0" := Interrupted.of_point ['0'] (List.forall_mem_singleton.2 (by decide)) "0"
  have hsigned : ∀ (negative : Bool) {text : String}, Interrupted text →
      Interrupted ((if negative then "-" else "") ++ text) := by
    intro negative text h
    cases negative with
    | true => exact h.negative
    | false => simpa using h
  unfold Decimal.Layout.render
  cases Binary64.decode x with
  | nan => exact hnan
  | infinite negative =>
    cases negative with
    | true => exact hinfinity.negative
    | false => exact hinfinity
  | finite negative m q =>
    dsimp only
    split
    · exact hsigned negative hzero
    · exact hsigned negative (interrupted_positive _ _)

/-- After the text of a whole number, a key goes on with a mark, if at all. -/
def BeginsWithMark (after : String) : Prop := ∀ c, after.toList.head? = some c → c = ',' ∨ c = '/'

theorem numeral_ne (hnumeral : Numeral numeral) (htext : Interrupted text) (hafter : BeginsWithMark after) :
    numeral ++ after ≠ text ++ after' := by
  intro hsame
  obtain ⟨front, c, rest, hchars, hfront, hc, hcomma, hslash⟩ := htext
  have hlists := congrArg String.toList hsame
  rw [String.toList_append, String.toList_append, hchars, List.append_assoc] at hlists
  have hmark : after.toList.head? ≠ some c := fun hhead => (hafter c hhead).elim hcomma hslash
  rcases List.append_eq_append_iff.1 hlists with ⟨_ | ⟨d, more⟩, hbefore, hrest⟩ | ⟨_ | ⟨d, more⟩, hbefore, hrest⟩
  · exact hmark (by rw [hrest]; rfl)
  · -- The whole number ends within the front of the text, and what follows is no mark.
    have hd := hfront d (hbefore ▸ List.mem_append_right _ List.mem_cons_self)
    rcases hafter d (by rw [hrest]; rfl) with rfl | rfl <;> exact absurd hd (by decide)
  · exact hmark (by rw [show after.toList = c :: rest ++ after'.toList from hrest.symm]; rfl)
  · -- The whole number goes on where the text is interrupted.
    obtain ⟨rfl, -⟩ := List.cons.inj hrest
    rw [hnumeral c (hbefore ▸ List.mem_append_right _ List.mem_cons_self)] at hc
    cases hc

end Texts

/-! ## 3. Joined parts -/

/-- Two parts of a key, one with the text of a whole number at its end and one with another text. -/
def Departs (part other : String) : Prop :=
  ∃ front numeral text, part = front ++ numeral ∧ other = front ++ text ∧ Numeral numeral ∧ Interrupted text

section Joined

variable {part other after after' mark : String}

theorem Departs.append_ne (h : Departs part other) (hafter : BeginsWithMark after) : part ++ after ≠ other ++ after' := by
  obtain ⟨front, numeral, text, rfl, rfl, hnumeral, htext⟩ := h
  rw [String.append_assoc, String.append_assoc, ne_eq, String.append_right_inj]
  exact numeral_ne hnumeral htext hafter

theorem Departs.ne (h : Departs part other) : part ≠ other := by
  intro hsame
  have hnothing : BeginsWithMark "" := fun c hc => by simp at hc
  exact h.append_ne hnothing (congrArg (· ++ "") hsame)

/-- Joined parts agree only if each two agree, where others depart. -/
theorem eq_of_joined {parts others : String → String} {fields : List String} (hmark : mark = "," ∨ mark = "/")
    (hparts : ∀ field ∈ fields, parts field = others field ∨ Departs (parts field) (others field))
    (h : mark.intercalate (fields.map parts) = mark.intercalate (fields.map others)) :
    ∀ field ∈ fields, parts field = others field := by
  induction fields with
  | nil => nofun
  | cons field more ih =>
    obtain ⟨hfield, hmore⟩ := List.forall_mem_cons.1 hparts
    cases more with
    | nil =>
      simp only [List.map_singleton, String.intercalate_singleton] at h
      simpa using h
    | cons next more =>
      simp only [List.map_cons, String.intercalate_cons_cons, String.append_assoc] at h
      -- Where the first parts depart, a mark follows one of them, and the joined texts differ for good.
      rcases hfield with hsame | hdeparts
      · rw [hsame, String.append_right_inj, String.append_right_inj] at h
        exact List.forall_mem_cons.2 ⟨hsame, ih hmore h⟩
      · refine absurd h (hdeparts.append_ne fun c hc => ?_)
        rcases hmark with rfl | rfl
        · exact .inl (by simpa [eq_comm] using hc)
        · exact .inr (by simpa [eq_comm] using hc)

end Joined

/-! ## 4. Keys -/

namespace KeyGenerator

variable {generator : KeyGenerator} {a b : Value} {field : String} {now later : Timestamp} {key other : RecordKey}

/-- The fields that a key is made of; an empty partition field is none. -/
def fields : KeyGenerator → List String
  | simple keyField partitionField => keyField :: partitionField.toList.filter fun field => !field.isEmpty
  | nonPartitioned keyField => [keyField]
  | complex keyFields partitionFields => keyFields ++ partitionFields.filter fun field => !field.isEmpty

theorem singleKey_eq_ok {partitionField : Option String} :
    singleKey generator field partitionField a now = .ok key ↔ (a.lookupOrNull field).isNullOrEmpty = false ∧
      key = ⟨(a.lookupOrNull field).display, partitionPath a partitionField⟩ := by
  unfold singleKey
  dsimp only
  split
  next hempty => simp [hempty]
  next hsome => simp [hsome, eq_comm]

theorem complex_eq_ok {keyFields partitionFields : List String} :
    (complex keyFields partitionFields).key a now = .ok key ↔
      (keyFields.all fun field => (a.lookupOrNull field).isNullOrEmpty) = false ∧
      key = ⟨",".intercalate (keyFields.map (keyPart a)), "/".intercalate (partitionFields.map (partitionPart a))⟩ := by
  unfold KeyGenerator.key
  dsimp only
  split
  next hempty => simp [hempty]
  next hsome => simp [hsome, eq_comm]

theorem partitionPart_congr (h : field.isEmpty = false → a.lookupOrNull field = b.lookupOrNull field) :
    partitionPart a field = partitionPart b field := by
  unfold partitionPart
  split
  · rfl
  next hfield => rw [h (Bool.eq_false_iff.2 hfield)]

theorem keyPart_congr (h : a.lookupOrNull field = b.lookupOrNull field) : keyPart a field = keyPart b field := by
  rw [keyPart_eq, keyPart_eq, h]

theorem key_congr (h : ∀ field ∈ generator.fields, a.lookupOrNull field = b.lookupOrNull field)
    (ha : generator.key a now = .ok key) : generator.key b later = .ok key := by
  cases generator with
  | simple keyField partitionField =>
    have hkey := h keyField List.mem_cons_self
    have hpartition : partitionPath a partitionField = partitionPath b partitionField := by
      cases partitionField with
      | none => rfl
      | some field =>
        refine partitionPart_congr fun hfield => h field (List.mem_cons_of_mem _ ?_)
        simp [hfield]
    obtain ⟨hsome, rfl⟩ := singleKey_eq_ok.1 ha
    refine singleKey_eq_ok.2 ⟨hkey ▸ hsome, ?_⟩
    rw [hkey, hpartition]
  | nonPartitioned keyField =>
    have hkey := h keyField List.mem_cons_self
    obtain ⟨hsome, rfl⟩ := singleKey_eq_ok.1 ha
    refine singleKey_eq_ok.2 ⟨hkey ▸ hsome, ?_⟩
    rw [hkey]
    rfl
  | complex keyFields partitionFields =>
    have hkeys : ∀ field ∈ keyFields, a.lookupOrNull field = b.lookupOrNull field :=
      fun field hfield => h field (List.mem_append_left _ hfield)
    have hpartitions : ∀ field ∈ partitionFields, partitionPart a field = partitionPart b field := by
      refine fun field hfield => partitionPart_congr fun hsome => h field (List.mem_append_right _ ?_)
      exact List.mem_filter.2 ⟨hfield, by simp [hsome]⟩
    obtain ⟨hsome, rfl⟩ := complex_eq_ok.1 ha
    refine complex_eq_ok.2 ⟨?_, ?_⟩
    · rw [← hsome, Bool.eq_iff_iff, List.all_eq_true, List.all_eq_true]
      exact forall₂_congr fun field hfield => by rw [hkeys field hfield]
    · rw [List.map_congr_left fun field hfield => keyPart_congr (hkeys field hfield), List.map_congr_left hpartitions]

end KeyGenerator

section Rewritten

open KeyGenerator

variable {a b : Value} {field : String}

theorem interrupted_display (x : Float) : Interrupted (Value.float x).display :=
  interrupted_render _ ⟨[], 'n', ['a', 'n'], rfl, by simp, by decide, by decide, by decide⟩
    ⟨[], 'i', ['n', 'f'], rfl, by simp, by decide, by decide, by decide⟩ x

theorem Value.Rewritten.departs_display (h : a.Rewritten b field) (hsome : (b.lookupOrNull field).isNullOrEmpty = false) :
    Departs (a.lookupOrNull field).display (b.lookupOrNull field).display := by
  obtain ⟨⟨n, hwhole⟩, hnull | ⟨x, hfloat⟩⟩ := h
  · rw [hnull] at hsome
    cases hsome
  · rw [hwhole, hfloat]
    exact ⟨"", _, _, String.empty_append.symm, String.empty_append.symm, numeral_display n, interrupted_display x⟩

theorem Value.Rewritten.departs_keyPart (h : a.Rewritten b field) : Departs (keyPart a field) (keyPart b field) := by
  obtain ⟨⟨n, hwhole⟩, hother⟩ := h
  have hnumeral : written (.int n) = (Value.int n).display := by
    simp [written, Value.isNull, display_ne_empty]
  have htext : Interrupted (written (b.lookupOrNull field)) := by
    rcases hother with hnull | ⟨x, hfloat⟩
    · rw [hnull]
      exact ⟨[], '_', "_null__".toList, rfl, by simp, by decide, by decide, by decide⟩
    · have hx : written (.float x) = (Value.float x).display := by
        simp [written, Value.isNull, (interrupted_display x).ne_empty]
      rw [hfloat, hx]
      exact interrupted_display x
  rw [keyPart_eq, keyPart_eq, hwhole, hnumeral]
  exact ⟨field ++ ":", _, _, rfl, rfl, numeral_display n, htext⟩

theorem Value.Rewritten.departs_partitionPart (h : a.Rewritten b field) (hfield : field.isEmpty = false) :
    Departs (partitionPart a field) (partitionPart b field) := by
  obtain ⟨⟨n, hwhole⟩, hother⟩ := h
  have hnumeral : partitionPart a field = (Value.int n).display := by
    simp [partitionPart, hfield, hwhole, Value.isNullOrEmpty, Value.isNull, display_ne_empty]
  have htext : Interrupted (partitionPart b field) := by
    rcases hother with hnull | ⟨x, hfloat⟩
    · have hdefault : partitionPart b field = defaultPartition := by
        simp [partitionPart, hfield, hnull, Value.isNullOrEmpty, Value.isNull]
      rw [hdefault]
      exact ⟨[], 'd', "efault".toList, rfl, by simp, by decide, by decide, by decide⟩
    · have hx : partitionPart b field = (Value.float x).display := by
        simp [partitionPart, hfield, hfloat, Value.isNullOrEmpty, Value.isNull, (interrupted_display x).ne_empty]
      rw [hx]
      exact interrupted_display x
  rw [hnumeral]
  exact ⟨"", _, _, String.empty_append.symm, String.empty_append.symm, numeral_display n, htext⟩

end Rewritten

namespace KeyGenerator

variable {generator : KeyGenerator} {a b : Value} {now later : Timestamp} {key : RecordKey}

/-- Keys that agree are made of fields that agree, where others are rewritten. -/
theorem lookup_of_key_eq
    (h : ∀ field ∈ generator.fields, a.lookupOrNull field = b.lookupOrNull field ∨ a.Rewritten b field)
    (ha : generator.key a now = .ok key) (hb : generator.key b later = .ok key) :
    ∀ field ∈ generator.fields, a.lookupOrNull field = b.lookupOrNull field := by
  have hpath : ∀ {field : String}, field ∈ generator.fields → field.isEmpty = false →
      partitionPart a field = partitionPart b field → a.lookupOrNull field = b.lookupOrNull field :=
    fun hfield hsome hsame => (h _ hfield).resolve_right fun hrewritten =>
      (hrewritten.departs_partitionPart hsome).ne hsame
  have hone : ∀ {field : String}, field ∈ generator.fields → (b.lookupOrNull field).isNullOrEmpty = false →
      (a.lookupOrNull field).display = (b.lookupOrNull field).display → a.lookupOrNull field = b.lookupOrNull field :=
    fun hfield hsome hsame => (h _ hfield).resolve_right fun hrewritten => (hrewritten.departs_display hsome).ne hsame
  cases generator with
  | simple keyField partitionField =>
    obtain ⟨-, rfl⟩ := singleKey_eq_ok.1 ha
    obtain ⟨hsome, hsame⟩ := singleKey_eq_ok.1 hb
    obtain ⟨hkey, hpartition⟩ := RecordKey.mk.inj hsame
    refine List.forall_mem_cons.2 ⟨hone List.mem_cons_self hsome hkey, fun field hfield => ?_⟩
    obtain ⟨hmem, hfilled⟩ := List.mem_filter.1 hfield
    obtain rfl := Option.mem_toList.1 hmem
    exact hpath (List.mem_cons_of_mem _ hfield) (by simpa using hfilled) hpartition
  | nonPartitioned keyField =>
    obtain ⟨-, rfl⟩ := singleKey_eq_ok.1 ha
    obtain ⟨hsome, hsame⟩ := singleKey_eq_ok.1 hb
    exact List.forall_mem_singleton.2 (hone List.mem_cons_self hsome (RecordKey.mk.inj hsame).1)
  | complex keyFields partitionFields =>
    obtain ⟨-, rfl⟩ := complex_eq_ok.1 ha
    obtain ⟨-, hsame⟩ := complex_eq_ok.1 hb
    obtain ⟨hkeys, hpartitions⟩ := RecordKey.mk.inj hsame
    refine List.forall_mem_append.2 ⟨fun field hfield => ?_, fun field hfield => ?_⟩
    · have hparts := eq_of_joined (.inl rfl) (fun field hfield => (h field (List.mem_append_left _ hfield)).imp
        keyPart_congr Value.Rewritten.departs_keyPart) hkeys field hfield
      exact (h field (List.mem_append_left _ hfield)).resolve_right fun hrewritten =>
        hrewritten.departs_keyPart.ne hparts
    · have hfilled : ∀ field ∈ partitionFields, field.isEmpty = false →
          field ∈ (complex keyFields partitionFields).fields := fun field hfield hsome =>
        List.mem_append_right _ (List.mem_filter.2 ⟨hfield, by simp [hsome]⟩)
      have hparts := eq_of_joined (.inr rfl) (fun field hmem => ?_) hpartitions field (List.mem_of_mem_filter hfield)
      · exact hpath (List.mem_append_right _ hfield) (by simpa using (List.mem_filter.1 hfield).2) hparts
      -- An empty partition field has an empty part both ways, though it is none of the fields.
      · cases hempty : field.isEmpty with
        | true => exact .inl (partitionPart_congr fun hsome => by simp [hempty] at hsome)
        | false =>
          exact (h field (hfilled field hmem hempty)).imp (fun hsame => partitionPart_congr fun _ => hsame)
            fun hrewritten => hrewritten.departs_partitionPart hempty

end KeyGenerator

/-! ## 5. The identity of a record -/

theorem RecordPreparer.key_of_prepare {preparer : RecordPreparer} {row : Record} {now : Timestamp}
    {prepared : PreparedRecord} (h : preparer.prepare row now = .ok prepared) :
    preparer.keyOf (.object row) now = .ok prepared.key := by
  unfold prepare at h
  cases hkey : preparer.keyOf (.object row) now with
  | error failure =>
    rw [hkey] at h
    cases h
  | ok key =>
    rw [hkey] at h
    dsimp only [bind, Except.bind] at h
    split at h
    · cases h
      rfl
    · cases h

namespace Frame

variable {records : List Record} {record : Record} {place : Nat}

/-- **The identity of a record depends on its batch through widened numbers.**  A batch of records, and one of them
alone, are read as rows.  If the record can be prepared both ways, by any generator and at any moments, it has one key
and one partition if and only if no field that they are made of leads to a whole number in a column of doubles. -/
theorem identity_of_batch (hrecord : records[place]? = some record) :
    ∃ rows alone, (ofRecords records).toRecords = .ok rows ∧ (ofRecords [record]).toRecords = .ok alone ∧
      ∀ row ∈ rows[place]?, ∀ lone ∈ alone[0]?,
      ∀ (generator : KeyGenerator) (orderingField : String) (now later : Timestamp) (prepared other : PreparedRecord),
        (RecordPreparer.mk generator.key orderingField).prepare row now = .ok prepared →
        (RecordPreparer.mk generator.key orderingField).prepare lone later = .ok other →
        (prepared.key = other.key ↔ ∀ field ∈ generator.fields, ¬Widened records record field) := by
  have hmem : record ∈ records := List.mem_of_getElem? hrecord
  have hrows := toRecords_ofRecords records
  have halone := toRecords_ofRecords [record]
  refine ⟨_, _, hrows, halone, ?_⟩
  intro row hrow lone hlone generator orderingField now later prepared other hprepared hother
  obtain rfl := eq_rowOf hrows hrow hrecord
  obtain rfl := eq_rowOf halone hlone rfl
  have hkey := RecordPreparer.key_of_prepare hprepared
  have hkey' := RecordPreparer.key_of_prepare hother
  constructor
  · intro hsame field hfield hwidened
    rw [← hsame] at hkey'
    refine (hwidened.rewritten hmem).ne (KeyGenerator.lookup_of_key_eq (fun field _ => ?_) hkey' hkey field hfield)
    by_cases hfield : Widened records record field
    · exact .inr (hfield.rewritten hmem)
    · exact .inl (lookup_of_not_widened hmem hfield).symm
  · intro hnone
    have hsame : generator.key (.object (rowOf [record] record)) later = .ok prepared.key :=
      KeyGenerator.key_congr (fun field hfield => lookup_of_not_widened hmem (hnone field hfield)) hkey
    exact Except.ok.inj (hsame.symm.trans hkey')

/-- Two events, of which only the first names its year. -/
def twoEvents : List Record :=
  [[("id", .text "a"), ("year", .int 2024), ("ts", .int 1)], [("id", .text "b"), ("ts", .int 2)]]

def firstEvent : Record := [("id", .text "a"), ("year", .int 2024), ("ts", .int 1)]

/-- Keys by one field and partitions by another, if any. -/
def eventPreparer (generator : KeyGenerator) : RecordPreparer := ⟨generator.key, "ts"⟩

theorem exists_prepared {preparer : RecordPreparer} {row : Record} {key : RecordKey}
    (h : (preparer.prepare row ⟨0⟩).toOption.map (·.key) = some key) :
    ∃ prepared, preparer.prepare row ⟨0⟩ = .ok prepared ∧ prepared.key = key := by
  cases hprepare : preparer.prepare row ⟨0⟩ with
  | error failure =>
    rw [hprepare] at h
    cases h
  | ok prepared =>
    rw [hprepare] at h
    exact ⟨prepared, rfl, Option.some.inj h⟩

/-- Without a partition, the first event has one key. -/
theorem event_identity : ∃ prepared other,
    (eventPreparer (.nonPartitioned "id")).prepare (rowOf twoEvents firstEvent) ⟨0⟩ = .ok prepared ∧
    (eventPreparer (.nonPartitioned "id")).prepare (rowOf [firstEvent] firstEvent) ⟨0⟩ = .ok other ∧
    prepared.key = other.key := by
  obtain ⟨prepared, hprepared, -⟩ : ∃ prepared,
      (eventPreparer (.nonPartitioned "id")).prepare (rowOf twoEvents firstEvent) ⟨0⟩ = .ok prepared ∧
        prepared.key = ⟨"a", ""⟩ := exists_prepared (by decide +kernel)
  obtain ⟨other, hother, -⟩ : ∃ other,
      (eventPreparer (.nonPartitioned "id")).prepare (rowOf [firstEvent] firstEvent) ⟨0⟩ = .ok other ∧
        other.key = ⟨"a", ""⟩ := exists_prepared (by decide +kernel)
  have hfirst : twoEvents[0]? = some firstEvent := rfl
  obtain ⟨rows, alone, hrows, halone, hidentity⟩ := identity_of_batch hfirst
  rw [toRecords_ofRecords] at hrows halone
  cases hrows
  cases halone
  refine ⟨prepared, other, hprepared, hother, ?_⟩
  refine (hidentity _ rfl _ rfl _ _ _ _ _ _ hprepared hother).2 fun field hfield => ?_
  rintro ⟨name, n, hpath, hwhole, -⟩
  obtain rfl := List.mem_singleton.1 hfield
  obtain rfl : "id" = name := List.singleton_inj.1 (hpath.symm.trans (by decide)).symm
  cases hwhole

/-- Partitioned by its year, it moves: the year of the second event is missing, so the years are doubles. -/
theorem event_moves : ¬∀ (records : List Record) (place : Nat) (record : Record) (rows alone : List Record)
    (row lone : Record) (generator : KeyGenerator) (orderingField : String) (now later : Timestamp)
    (prepared other : PreparedRecord), records[place]? = some record → (ofRecords records).toRecords = .ok rows →
    (ofRecords [record]).toRecords = .ok alone → rows[place]? = some row → alone[0]? = some lone →
    (RecordPreparer.mk generator.key orderingField).prepare row now = .ok prepared →
    (RecordPreparer.mk generator.key orderingField).prepare lone later = .ok other → prepared.key = other.key := by
  intro hclaim
  obtain ⟨prepared, hprepared, hkey⟩ : ∃ prepared,
      (eventPreparer (.simple "id" (some "year"))).prepare (rowOf twoEvents firstEvent) ⟨0⟩ = .ok prepared ∧
        prepared.key = ⟨"a", "2024.0"⟩ := exists_prepared (by decide +kernel)
  obtain ⟨other, hother, hkey'⟩ : ∃ other,
      (eventPreparer (.simple "id" (some "year"))).prepare (rowOf [firstEvent] firstEvent) ⟨0⟩ = .ok other ∧
        other.key = ⟨"a", "2024"⟩ := exists_prepared (by decide +kernel)
  have hsame := hclaim twoEvents 0 firstEvent _ _ _ _ _ _ _ _ prepared other rfl (toRecords_ofRecords twoEvents)
    (toRecords_ofRecords [firstEvent]) rfl rfl hprepared hother
  rw [hkey, hkey'] at hsame
  exact absurd hsame (by decide)

end Frame

end TableSync
