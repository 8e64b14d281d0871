/-
  TableSync/Proofs/Time/InstantTime.lean
  ======================================
  **Instant times sort like the clock** — texts in the order of their moments.

  An instant time is the fields of a moment written one after another, each
  with as many digits as it ever needs.  `Spells` says of a text how many digits
  it has and which number they spell; texts of one width are in the order of
  what they spell (`Spells.lt_iff`), and so in that of the moments, cut to
  milliseconds (`instantTime_sorted`).
-/
import Mathlib.Data.String.Basic
import Mathlib.Tactic.Ring
import TableSync.Proofs.Time.Calendar

namespace TableSync

/-! ## 1. Digits -/

namespace Decimal

/-- The text consists of a number of digits that spell a number. -/
structure Spells (cs : List Char) (width n : Nat) : Prop where
  digits : ∀ c ∈ cs, c.isDigit = true
  length : cs.length = width
  value : ofDigits 0 cs = n

section Spells

variable {cs ds : List Char} {c : Char} {width more n m acc : Nat}

theorem ofDigits_from : ofDigits acc cs = 10 ^ cs.length * acc + ofDigits 0 cs := Nat.ofDigitChars_eq_ofDigitChars_zero

theorem ofDigits_append : ofDigits acc (cs ++ ds) = ofDigits (ofDigits acc cs) ds := Nat.ofDigitChars_append acc

theorem ofDigits_cons : ofDigits 0 (c :: cs) = 10 ^ cs.length * (c.toNat - '0'.toNat) + ofDigits 0 cs := by
  rw [← ofDigits_from, ofDigits, List.foldl_cons, Nat.mul_zero, Nat.zero_add]
  rfl

theorem digit_lt (h : c.isDigit = true) : c.toNat - '0'.toNat < 10 := by
  have hrange := Char.isDigit_iff_toNat.1 h
  have hzero : '0'.toNat = 48 := rfl
  have hnine : '9'.toNat = 57 := rfl
  omega

theorem ofDigits_lt (h : ∀ c ∈ cs, c.isDigit = true) : ofDigits 0 cs < 10 ^ cs.length := by
  induction cs with
  | nil => exact Nat.one_pos
  | cons c rest ih =>
    obtain ⟨hdigit, hrest⟩ := List.forall_mem_cons.1 h
    have hvalue := ih hrest
    have hfirst := digit_lt hdigit
    rw [ofDigits_cons, List.length_cons, Nat.pow_succ]
    calc 10 ^ rest.length * (c.toNat - '0'.toNat) + ofDigits 0 rest
        < 10 ^ rest.length * (c.toNat - '0'.toNat) + 10 ^ rest.length := by omega
      _ = 10 ^ rest.length * (c.toNat - '0'.toNat + 1) := by ring
      _ ≤ 10 ^ rest.length * 10 := Nat.mul_le_mul_left _ hfirst

/-- The first digit in which two texts of one length differ decides about both, the texts and the numbers. -/
theorem ofDigits_lt_of_lt (hcs : ∀ c ∈ cs, c.isDigit = true) (hlength : cs.length = ds.length) (h : cs < ds) :
    ofDigits 0 cs < ofDigits 0 ds := by
  induction cs generalizing ds with
  | nil =>
    obtain rfl := List.eq_nil_of_length_eq_zero hlength.symm
    exact absurd h (lt_irrefl _)
  | cons c cs ih =>
    obtain ⟨d, ds, rfl⟩ := List.exists_cons_of_length_eq_add_one hlength.symm
    obtain ⟨hdigit, hcs⟩ := List.forall_mem_cons.1 hcs
    have hrests : cs.length = ds.length := by simpa using hlength
    have hrest := ofDigits_lt hcs
    rw [ofDigits_cons, ofDigits_cons, hrests]
    rw [hrests] at hrest
    rcases List.cons_lt_cons_iff.1 h with hfirst | ⟨rfl, hlater⟩
    · have hvalues : c.toNat - '0'.toNat < d.toNat - '0'.toNat := by
        have hrange := Char.isDigit_iff_toNat.1 hdigit
        have hless : c.toNat < d.toNat := hfirst
        omega
      have hstep : 10 ^ ds.length * (c.toNat - '0'.toNat) + 10 ^ ds.length ≤
          10 ^ ds.length * (d.toNat - '0'.toNat) := by
        rw [← Nat.mul_succ]
        exact Nat.mul_le_mul_left _ hvalues
      omega
    · exact Nat.add_lt_add_left (ih hcs hrests hlater) _

theorem Spells.lt_of_lt (hcs : Spells cs width n) (hds : Spells ds width m) (h : cs < ds) : n < m := by
  rw [← hcs.value, ← hds.value]
  exact ofDigits_lt_of_lt hcs.digits (hcs.length.trans hds.length.symm) h

theorem Spells.eq_of_eq (hcs : Spells cs width n) (hds : Spells ds width m) (h : cs = ds) : n = m := by
  rw [← hcs.value, ← hds.value, h]

/-- Texts of one width are in the order of the numbers that they spell. -/
theorem Spells.lt_iff (hcs : Spells cs width n) (hds : Spells ds width m) : cs < ds ↔ n < m := by
  refine ⟨hcs.lt_of_lt hds, fun h => ?_⟩
  rcases lt_trichotomy cs ds with hlt | heq | hgt
  · exact hlt
  · exact absurd (hcs.eq_of_eq hds heq) h.ne
  · exact absurd (hds.lt_of_lt hcs hgt) h.asymm

theorem Spells.eq_iff (hcs : Spells cs width n) (hds : Spells ds width m) : cs = ds ↔ n = m := by
  refine ⟨hcs.eq_of_eq hds, fun h => ?_⟩
  rcases lt_trichotomy cs ds with hlt | heq | hgt
  · exact absurd (hcs.lt_of_lt hds hlt) h.not_lt
  · exact heq
  · exact absurd (hds.lt_of_lt hcs hgt) h.not_gt

/-! ## 2. Fields of a text -/

theorem Spells.append (hcs : Spells cs width n) (hds : Spells ds more m) :
    Spells (cs ++ ds) (width + more) (n * 10 ^ more + m) := by
  refine ⟨fun c hc => (List.mem_append.1 hc).elim (hcs.digits c) (hds.digits c), ?_, ?_⟩
  · rw [List.length_append, hcs.length, hds.length]
  · rw [ofDigits_append, ofDigits_from, hcs.value, hds.value, hds.length, Nat.mul_comm]

/-- Cutting digits off divides by a power of ten. -/
theorem Spells.take (width more : Nat) (h : Spells cs (width + more) n) :
    Spells (cs.take width) width (n / 10 ^ more) := by
  have hlength : (cs.take width).length = width := by
    rw [List.length_take, h.length]
    omega
  have hcut : (cs.drop width).length = more := by
    rw [List.length_drop, h.length]
    omega
  have hrest : ofDigits 0 (cs.drop width) < 10 ^ more :=
    hcut ▸ ofDigits_lt fun c hc => h.digits c (List.mem_of_mem_drop hc)
  have hvalue : n = 10 ^ more * ofDigits 0 (cs.take width) + ofDigits 0 (cs.drop width) := by
    have hwhole := h.value
    rw [← List.take_append_drop width cs, ofDigits_append, ofDigits_from, hcut] at hwhole
    exact hwhole.symm
  refine ⟨fun c hc => h.digits c (List.mem_of_mem_take hc), hlength, ?_⟩
  rw [hvalue, Nat.mul_add_div (Nat.pow_pos (by decide)), Nat.div_eq_of_lt hrest, Nat.add_zero]

theorem spells_toDigits (n : Nat) : Spells (Nat.toDigits 10 n) (Nat.toDigits 10 n).length n :=
  ⟨fun _ hc => Nat.isDigit_of_mem_toDigits (by decide) (by decide) hc, rfl, Nat.ofDigitChars_ten_toDigits⟩

theorem spells_replicate (width : Nat) : Spells (List.replicate width '0') width 0 :=
  ⟨fun _ hc => List.eq_of_mem_replicate hc ▸ rfl, List.length_replicate, Nat.ofDigitChars_replicate_zero⟩

/-- Zeros on the left do not change what is spelled. -/
theorem spells_padded (width n : Nat) (hwidth : 0 < width) (h : n < 10 ^ width) :
    Spells (padded width n).toList width n := by
  have hfits : (Nat.toDigits 10 n).length ≤ width := (Nat.length_toDigits_le_iff (by decide) hwidth).2 h
  have hspells := (spells_replicate (width - (Nat.toDigits 10 n).length)).append (spells_toDigits n)
  rw [Nat.sub_add_cancel hfits, Nat.zero_mul, Nat.zero_add] at hspells
  rwa [padded, String.toList_ofList]

theorem Spells.twoDigits (h : Spells cs width n) (hm : m < 100) :
    Spells (cs ++ (padded 2 m).toList) (width + 2) (n * 100 + m) :=
  h.append (spells_padded 2 m (by decide) hm)

/-- A number without padding has one digit more than the powers of ten that it reaches. -/
theorem spells_text (width n : Nat) (hwidth : 0 < width) (hlow : 10 ^ width ≤ n) (hhigh : n < 10 ^ (width + 1)) :
    Spells (text n).toList (width + 1) n := by
  have hatMost : (Nat.toDigits 10 n).length ≤ width + 1 :=
    (Nat.length_toDigits_le_iff (by decide) (Nat.succ_pos _)).2 hhigh
  have hmore : ¬(Nat.toDigits 10 n).length ≤ width := fun h =>
    absurd ((Nat.length_toDigits_le_iff (by decide) hwidth).1 h) (Nat.not_lt.2 hlow)
  have hspells := spells_toDigits n
  rw [show (Nat.toDigits 10 n).length = width + 1 by omega] at hspells
  rwa [text, String.toList_ofList]

end Spells

end Decimal

/-! ## 3. Instant times -/

namespace Calendar

variable {a b c : Calendar}

/-- The moment cut to milliseconds. -/
def toMillis (c : Calendar) : Calendar := { c with micro := c.micro / 1000 * 1000 }

theorem Proper.toMillis (h : c.Proper) : c.toMillis.Proper := by
  have hmicro := h.micro_lt
  exact ⟨h.date, h.hour_lt, h.minute_lt, h.second_lt, show c.micro / 1000 * 1000 < 1000000 by omega⟩

theorem year_le_of_isValid (h : c.isValid = true) : c.year ≤ 9999 := by
  simp only [isValid, Bool.and_eq_true, decide_eq_true_eq] at h
  exact h.1.1.1.1.1.1.1.1.2

theorem number_toMillis : c.toMillis.number = c.number / 1000 * 1000 := by
  unfold number clockNumber Calendar.toMillis
  dsimp only
  omega

/-- An instant time is the number of its moment without the last three digits. -/
theorem Proper.spells_instantTime (h : c.Proper) (hfrom : 1000 ≤ c.year) (hto : c.year ≤ 9999) :
    Decimal.Spells c.toTimestamp.instantTime.toList 17 (c.number / 1000) := by
  have hmonth := h.date.month_le
  have hday := h.date.day_le
  have hhour := h.hour_lt
  have hminute := h.minute_lt
  have hsecond := h.second_lt
  have hyear := Decimal.spells_text 3 c.year (by decide) hfrom (by omega)
  have hdate := (hyear.twoDigits (show c.month < 100 by omega)).twoDigits (show c.day < 100 by omega)
  have hclock := ((hdate.twoDigits (show c.hour < 100 by omega)).twoDigits
    (show c.minute < 100 by omega)).twoDigits (show c.second < 100 by omega)
  have hspells := hclock.append (Decimal.spells_padded 6 c.micro (by decide) h.micro_lt)
  have hnumber : (((((c.year * 100 + c.month) * 100 + c.day) * 100 + c.hour) * 100 + c.minute) * 100 + c.second) *
      10 ^ 6 + c.micro = c.number := by
    unfold number dateNumber clockNumber
    ring
  rw [hnumber] at hspells
  have hcut := hspells.take 17 3
  rw [Timestamp.instantTime, h.calendar_toTimestamp]
  simpa only [String.toList_ofList, String.toList_append, Nat.reducePow] using hcut

theorem Proper.toMillis_lt_iff (ha : a.Proper) (hb : b.Proper) :
    a.number / 1000 < b.number / 1000 ↔ a.toMillis.toTimestamp.micros < b.toMillis.toTimestamp.micros := by
  rw [← ha.toMillis.number_lt_iff hb.toMillis, number_toMillis, number_toMillis]
  omega

/-- Instant times have seventeen digits, and are in the order of their moments cut to milliseconds. -/
theorem instantTime_sorted (ha : a.isValid = true) (hb : b.isValid = true) (hfrom : 1000 ≤ a.year)
    (hfrom' : 1000 ≤ b.year) :
    a.toTimestamp.instantTime.length = 17 ∧ b.toTimestamp.instantTime.length = 17 ∧
      (∀ c ∈ a.toTimestamp.instantTime.toList, c.isDigit = true) ∧
      (∀ c ∈ b.toTimestamp.instantTime.toList, c.isDigit = true) ∧
      (a.toTimestamp.instantTime < b.toTimestamp.instantTime ↔
        a.toMillis.toTimestamp.micros < b.toMillis.toTimestamp.micros) ∧
      (a.toTimestamp.instantTime = b.toTimestamp.instantTime ↔
        a.toMillis.toTimestamp.micros = b.toMillis.toTimestamp.micros) ∧
      (b.toTimestamp.instantTime < a.toTimestamp.instantTime ↔
        b.toMillis.toTimestamp.micros < a.toMillis.toTimestamp.micros) := by
  have hproper := Proper.of_isValid ha
  have hproper' := Proper.of_isValid hb
  have hspells := hproper.spells_instantTime hfrom (year_le_of_isValid ha)
  have hspells' := hproper'.spells_instantTime hfrom' (year_le_of_isValid hb)
  have hlt := hproper.toMillis_lt_iff hproper'
  have hgt := hproper'.toMillis_lt_iff hproper
  refine ⟨?_, ?_, hspells.digits, hspells'.digits, ?_, ?_, ?_⟩
  · exact String.length_toList.symm.trans hspells.length
  · exact String.length_toList.symm.trans hspells'.length
  · exact String.lt_iff_toList_lt.trans ((hspells.lt_iff hspells').trans hlt)
  · rw [← String.toList_inj, hspells.eq_iff hspells']
    omega
  · exact String.lt_iff_toList_lt.trans ((hspells'.lt_iff hspells).trans hgt)

/-- The last microsecond of a leap day. -/
def leapDayEnd : Calendar := ⟨2024, 2, 29, 23, 59, 59, 999999⟩

/-- The moment after it, in which every field but the year has changed. -/
def leapDayNext : Calendar := ⟨2024, 3, 1, 0, 0, 0, 0⟩

theorem leapDay_sorted : leapDayEnd.isValid = true ∧ leapDayNext.isValid = true ∧
    leapDayEnd.toTimestamp.instantTime.length = 17 ∧
    leapDayEnd.toTimestamp.instantTime < leapDayNext.toTimestamp.instantTime := by
  have hsorted := instantTime_sorted (a := leapDayEnd) (b := leapDayNext) rfl rfl (by decide) (by decide)
  exact ⟨rfl, rfl, hsorted.1, hsorted.2.2.2.2.1.2 (by decide)⟩

end Calendar

end TableSync
