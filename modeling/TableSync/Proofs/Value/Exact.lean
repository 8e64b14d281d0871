/-
  TableSync/Proofs/Value/Exact.lean
  =================================
  **The exact order of numbers** — whole numbers and doubles on one line.

  A number other than the one that is no number stands for a rational or for
  one of two infinities, and `Number.compare?` is the order of what the numbers
  stand for, whether they are whole or doubles.  Two doubles are compared by
  their parts: of two canonical ones the exponent decides, and then the
  mantissa.
-/
import Mathlib
import TableSync.Value.Order

namespace TableSync

open Float.Model Float.Model.UnpackedFloat

/-- A rational, or one of two infinities. -/
abbrev Extended := WithBot (WithTop ℚ)

/-! ## 1. What numbers stand for -/

namespace Binary64

/-- The rational of a finite double. -/
def rational (negative : Bool) (mantissa : Nat) (exponent : Int) : ℚ :=
  (if negative then -(mantissa : ℚ) else mantissa) * 2 ^ exponent

/-- What a double stands for. -/
def extended? : Binary64 → Option Extended
  | nan => none
  | infinite true => some ⊥
  | infinite false => some ((⊤ : WithTop ℚ) : Extended)
  | finite negative mantissa exponent => some ((rational negative mantissa exponent : WithTop ℚ) : Extended)

theorem rational_pos {mantissa : Nat} (h : 0 < mantissa) (exponent : Int) : 0 < rational false mantissa exponent := by
  have hpower : (0 : ℚ) < 2 ^ exponent := by positivity
  have hmantissa : (0 : ℚ) < mantissa := by exact_mod_cast h
  simpa [rational] using mul_pos hmantissa hpower

theorem rational_neg (mantissa : Nat) (exponent : Int) :
    rational true mantissa exponent = -rational false mantissa exponent := by
  simp [rational]

theorem rational_zero (negative : Bool) (exponent : Int) : rational negative 0 exponent = 0 := by
  simp [rational]

end Binary64

/-- What a number stands for. -/
def Number.extended? : Number → Option Extended
  | whole n => some (((n : ℚ) : WithTop ℚ) : Extended)
  | double x => (Binary64.decode x).extended?

/-! ## 2. The parts of a double -/

/-- Canonical parts: the mantissa is as long as the exponent allows. -/
structure Canonical (mantissa : Nat) (exponent : Int) : Prop where
  least : -1074 ≤ exponent
  short : mantissa < 2 ^ 53
  full : -1074 < exponent → 2 ^ 52 ≤ mantissa

/-- Of two canonical doubles above zero the exponent decides, and then the mantissa. -/
theorem Canonical.lt_iff {m n : Nat} {d e : Int} (hm : Canonical m d) (hn : Canonical n e) :
    Binary64.rational false m d < Binary64.rational false n e ↔ d < e ∨ d = e ∧ m < n := by
  have hless : ∀ {m n : Nat} {d e : Int}, Canonical m d → Canonical n e → d < e →
      Binary64.rational false m d < Binary64.rational false n e := by
    intro m n d e hm hn hlt
    have hlong := hn.full (lt_of_le_of_lt hm.least hlt)
    have hpower : (0 : ℚ) < 2 ^ d := by positivity
    have hstep : (2 : ℚ) ^ (d + 1) ≤ 2 ^ e := zpow_le_zpow_right₀ (by norm_num) (by omega)
    have htwo : (2 : ℚ) ^ (d + 1) = 2 ^ d * 2 := zpow_add_one₀ (by norm_num) d
    have hmshort : (m : ℚ) < 2 ^ 53 := by exact_mod_cast hm.short
    have hnlong : (2 : ℚ) ^ 52 ≤ n := by exact_mod_cast hlong
    have hleft : Binary64.rational false m d = m * 2 ^ d := by simp [Binary64.rational]
    have hright : Binary64.rational false n e = n * 2 ^ e := by simp [Binary64.rational]
    rw [hleft, hright]
    calc (m : ℚ) * 2 ^ d < 2 ^ 53 * 2 ^ d := by gcongr
      _ = 2 ^ 52 * 2 ^ (d + 1) := by rw [htwo]; ring
      _ ≤ n * 2 ^ e := by gcongr
  rcases lt_trichotomy d e with hlt | rfl | hgt
  · exact ⟨fun _ => .inl hlt, fun _ => hless hm hn hlt⟩
  · have hpower : (0 : ℚ) < 2 ^ d := by positivity
    simp [Binary64.rational, mul_lt_mul_iff_left₀ hpower]
  · constructor
    · intro h
      exact absurd h (not_lt.2 (le_of_lt (hless hn hm hgt)))
    · rintro (hlt | ⟨heq, -⟩) <;> omega

/-! ## 3. Bits -/

namespace Binary64

/-- The parts of a double as they are unpacked. -/
def ofUnpacked : UnpackedFloat → Binary64
  | .notANumber => nan
  | .infinity sign => infinite (sign == .negative)
  | .zero sign => finite (sign == .negative) 0 (-1074)
  | .finite sign mantissa exponent _ => finite (sign == .negative) mantissa exponent

section

variable (bits : BitVec Format.binary64.numBits)

theorem unpackExponent_toNat : (unpackExponent bits).toNat = bits.toNat / 2 ^ 52 % 2 ^ 11 := by
  rw [unpackExponent, BitVec.toNat_cast, BitVec.extractLsb_toNat, Nat.shiftRight_eq_div_pow]
  rfl

theorem unpackMantissa_toNat : (unpackMantissa bits).toNat = bits.toNat % 2 ^ 52 := by
  rw [unpackMantissa, BitVec.toNat_cast, BitVec.extractLsb_toNat, Nat.shiftRight_eq_div_pow]
  simp

theorem unpackSign_toNat : (unpackSign bits).toNat = bits.toNat / 2 ^ 63 := by
  rw [unpackSign, BitVec.toNat_cast, BitVec.extractLsb_toNat, Nat.shiftRight_eq_div_pow]
  have hbits : bits.toNat < 2 ^ 64 := bits.isLt
  simp
  omega

theorem ofBitVec_unpackSign : (Sign.ofBitVec (unpackSign bits) == .negative) = (bits.toNat / twoTo 63 == 1) := by
  have hbits : bits.toNat < 2 ^ 64 := bits.isLt
  have hsign := unpackSign_toNat bits
  have htwo : twoTo 63 = 2 ^ 63 := rfl
  rw [Sign.ofBitVec, htwo, ← hsign]
  by_cases hzero : unpackSign bits = 0#1
  · rw [if_pos hzero, hzero]
    rfl
  · have hone : (unpackSign bits).toNat = 1 := by
      have hne : (unpackSign bits).toNat ≠ 0 := fun h => hzero (BitVec.eq_of_toNat_eq h)
      omega
    rw [if_neg hzero, hone]
    rfl

theorem append_one (mantissa : BitVec 52) : (1#1 ++ mantissa).toNat = mantissa.toNat + twoTo 52 := by
  rw [BitVec.toNat_append, ← Nat.shiftLeft_add_eq_or_of_lt mantissa.isLt, Nat.add_comm]
  rfl

end

/-- Both ways of taking the bits of a double apart agree. -/
theorem decode_eq (x : Float) : decode x = ofUnpacked x.toModel.unpack := by
  obtain ⟨bits, hbits⟩ : ∃ bits : BitVec Format.binary64.numBits, x.toModel.toBits.toBitVec = bits := ⟨_, rfl⟩
  have hword : x.toBits.toNat = bits.toNat := congrArg BitVec.toNat hbits
  rw [decode, hword, Float.Model.unpack, hbits]
  have hexponent := unpackExponent_toNat bits
  have hmantissa := unpackMantissa_toNat bits
  have hsign := ofBitVec_unpackSign bits
  have hbiased : bits.toNat / twoTo 52 % twoTo 11 = (unpackExponent bits).toNat := hexponent.symm
  have hfraction : bits.toNat % twoTo 52 = (unpackMantissa bits).toNat := hmantissa.symm
  have hall : unpackExponent bits = -1#_ ↔ (unpackExponent bits).toNat = 2047 := BitVec.toNat_inj.symm
  have hnone : unpackExponent bits = 0#_ ↔ (unpackExponent bits).toNat = 0 := BitVec.toNat_inj.symm
  have hzero : unpackMantissa bits = 0#_ ↔ (unpackMantissa bits).toNat = 0 := BitVec.toNat_inj.symm
  unfold UnpackedFloat.unpack
  simp only [hbiased, hfraction, ← hsign]
  by_cases htop : (unpackExponent bits).toNat = 2047
  · rw [if_pos htop, if_pos (hall.2 htop)]
    by_cases hfull : (unpackMantissa bits).toNat = 0
    · rw [if_pos hfull, if_pos (hzero.2 hfull)]
      rfl
    · rw [if_neg hfull, if_neg (mt hzero.1 hfull)]
      rfl
  · rw [if_neg htop, if_neg (mt hall.1 htop)]
    by_cases hlow : (unpackExponent bits).toNat = 0
    · rw [if_pos hlow, if_pos (hnone.2 hlow)]
      by_cases hfull : (unpackMantissa bits).toNat = 0
      · rw [dif_pos (hzero.2 hfull), hfull]
        rfl
      · rw [dif_neg (mt hzero.1 hfull), ofUnpacked, hlow]
        rfl
    · rw [if_neg hlow, if_neg (mt hnone.1 hlow), ofUnpacked, append_one]
      rfl

theorem canonical_decode {x : Float} {negative : Bool} {mantissa : Nat} {exponent : Int}
    (h : decode x = finite negative mantissa exponent) : Canonical mantissa exponent := by
  have hfraction : x.toBits.toNat % twoTo 52 < 2 ^ 52 := Nat.mod_lt _ (twoTo_pos 52)
  have htwo : twoTo 52 = 2 ^ 52 := rfl
  unfold decode at h
  dsimp only at h
  split at h
  · split at h <;> cases h
  · split at h
    · cases h
      exact ⟨le_refl _, by omega, fun hlt => absurd hlt (lt_irrefl _)⟩
    · cases h
      exact ⟨by omega, by omega, fun _ => by omega⟩

/-- What an unpacked double stands for, as unpacking splits it up. -/
theorem extended?_ofUnpacked {a : UnpackedFloat} {r : Extended} (h : (ofUnpacked a).extended? = some r) :
    (a = .infinity .negative ∧ r = ⊥) ∨ (a = .infinity .positive ∧ r = ((⊤ : WithTop ℚ) : Extended)) ∨
      (∃ sign, a = .zero sign) ∧ r = (((0 : ℚ) : WithTop ℚ) : Extended) ∨
      ∃ sign m e hm, a = .finite sign m e hm ∧ r = ((rational (sign == .negative) m e : WithTop ℚ) : Extended) := by
  cases a with
  | notANumber => cases h
  | infinity sign =>
    cases sign with
    | negative => cases h; exact .inl ⟨rfl, rfl⟩
    | positive => cases h; exact .inr (.inl ⟨rfl, rfl⟩)
  | zero sign =>
    refine .inr (.inr (.inl ⟨⟨sign, rfl⟩, ?_⟩))
    have hzero := Option.some_inj.1 h
    rw [← hzero, rational_zero]
  | finite sign m e hm => exact .inr (.inr (.inr ⟨sign, m, e, hm, rfl, (Option.some_inj.1 h).symm⟩))

theorem compare_parts {m n : Nat} {d e : Int} : (compare d e).then (compare m n) = .lt ↔ d < e ∨ d = e ∧ m < n := by
  rw [Ordering.then_eq_lt, compare_lt_iff_lt, compare_eq_iff_eq, compare_lt_iff_lt]

theorem compare_parts_swap {m n : Nat} {d e : Int} :
    ((compare d e).then (compare m n)).swap = .lt ↔ e < d ∨ e = d ∧ n < m := by
  rw [Ordering.swap_eq_lt, Ordering.then_eq_gt, compare_gt_iff_gt, compare_eq_iff_eq, compare_gt_iff_gt, eq_comm]

theorem positive_beq_negative : (Sign.positive == Sign.negative) = false := rfl

theorem compare_zero_finite {sign sign' : Sign} {m : Nat} {e : Int} (hm : 0 < m) :
    (UnpackedFloat.zero sign).compare (.finite sign' m e hm) = some .lt ↔ 0 < rational (sign' == .negative) m e := by
  have hpos := rational_pos hm e
  cases sign' with
  | negative =>
    have hneg : ¬ 0 < rational true m e := by rw [rational_neg]; linarith
    simpa [UnpackedFloat.compare] using hneg
  | positive => simpa [UnpackedFloat.compare, positive_beq_negative] using hpos

theorem compare_finite_zero {sign sign' : Sign} {m : Nat} {e : Int} (hm : 0 < m) :
    (UnpackedFloat.finite sign m e hm).compare (.zero sign') = some .lt ↔ rational (sign == .negative) m e < 0 := by
  have hpos := rational_pos hm e
  cases sign with
  | negative =>
    have hneg : rational true m e < 0 := by rw [rational_neg]; linarith
    simpa [UnpackedFloat.compare] using hneg
  | positive => simpa [UnpackedFloat.compare, positive_beq_negative] using le_of_lt hpos

theorem compare_finite {sign sign' : Sign} {m n : Nat} {d e : Int} (hm : 0 < m) (hn : 0 < n)
    (hleft : Canonical m d) (hright : Canonical n e) :
    (UnpackedFloat.finite sign m d hm).compare (.finite sign' n e hn) = some .lt ↔
      rational (sign == .negative) m d < rational (sign' == .negative) n e := by
  have hmpos := rational_pos hm d
  have hnpos := rational_pos hn e
  cases sign with
  | negative =>
    cases sign' with
    | negative =>
      -- below zero the greater parts are the lesser number
      have hswap : (UnpackedFloat.finite .negative m d hm).compare (.finite .negative n e hn) = some .lt ↔
          e < d ∨ e = d ∧ n < m := by
        rw [← compare_parts_swap]
        simp [UnpackedFloat.compare]
      rw [hswap, ← hright.lt_iff hleft]
      show _ ↔ rational true m d < rational true n e
      rw [rational_neg, rational_neg, neg_lt_neg_iff]
    | positive =>
      have hlt : rational true m d < rational false n e := by rw [rational_neg]; linarith
      simpa [UnpackedFloat.compare, positive_beq_negative] using hlt
  | positive =>
    cases sign' with
    | negative =>
      have hge : ¬ rational false m d < rational true n e := by rw [rational_neg]; linarith
      simpa [UnpackedFloat.compare, positive_beq_negative] using hge
    | positive =>
      have hsame : (UnpackedFloat.finite .positive m d hm).compare (.finite .positive n e hn) = some .lt ↔
          d < e ∨ d = e ∧ m < n := by
        rw [← compare_parts]
        simp [UnpackedFloat.compare]
      rw [hsame, ← hleft.lt_iff hright]
      rfl

/-- Unpacked doubles are compared as what they stand for, if they are canonical. -/
theorem compare_lt_iff {a b : UnpackedFloat} {r s : Extended} (ha : (ofUnpacked a).extended? = some r)
    (hb : (ofUnpacked b).extended? = some s)
    (hcanonical : ∀ sign m e hm, a = .finite sign m e hm → Canonical m e)
    (hcanonical' : ∀ sign m e hm, b = .finite sign m e hm → Canonical m e) :
    a.compare b = some .lt ↔ r < s := by
  rcases extended?_ofUnpacked ha with ⟨rfl, rfl⟩ | ⟨rfl, rfl⟩ | ⟨⟨sign, rfl⟩, rfl⟩ | ⟨sign, m, e, hm, rfl, rfl⟩
  · rcases extended?_ofUnpacked hb with ⟨rfl, rfl⟩ | ⟨rfl, rfl⟩ | ⟨⟨sign, rfl⟩, rfl⟩ | ⟨sign, n, d, hn, rfl, rfl⟩ <;>
      simp [UnpackedFloat.compare, compare]
  · rcases extended?_ofUnpacked hb with ⟨rfl, rfl⟩ | ⟨rfl, rfl⟩ | ⟨⟨sign, rfl⟩, rfl⟩ | ⟨sign, n, d, hn, rfl, rfl⟩ <;>
      simp [UnpackedFloat.compare, compare]
  · rcases extended?_ofUnpacked hb with ⟨rfl, rfl⟩ | ⟨rfl, rfl⟩ | ⟨⟨sign', rfl⟩, rfl⟩ | ⟨sign', n, d, hn, rfl, rfl⟩
    · simp [UnpackedFloat.compare]
    · exact ⟨fun _ => WithBot.coe_lt_coe.2 (WithTop.coe_lt_top _), fun _ => rfl⟩
    · simp [UnpackedFloat.compare]
    · rw [compare_zero_finite, WithBot.coe_lt_coe, WithTop.coe_lt_coe]
  · rcases extended?_ofUnpacked hb with ⟨rfl, rfl⟩ | ⟨rfl, rfl⟩ | ⟨⟨sign', rfl⟩, rfl⟩ | ⟨sign', n, d, hn, rfl, rfl⟩
    · cases sign <;> simp [UnpackedFloat.compare]
    · refine ⟨fun _ => WithBot.coe_lt_coe.2 (WithTop.coe_lt_top _), fun _ => ?_⟩
      cases sign <;> rfl
    · rw [compare_finite_zero, WithBot.coe_lt_coe, WithTop.coe_lt_coe]
    · rw [compare_finite hm hn (hcanonical _ _ _ _ rfl) (hcanonical' _ _ _ _ rfl), WithBot.coe_lt_coe,
        WithTop.coe_lt_coe]

theorem cast_twoTo (k : Nat) : ((twoTo k : Int) : ℚ) = 2 ^ (k : ℤ) := by
  show (((2 ^ k : Nat) : Int) : ℚ) = _
  rw [zpow_natCast]
  push_cast
  rfl

theorem compareInt_finite {a : Int} {negative : Bool} {m : Nat} {q : Int} :
    ((finite negative m q).compareInt a = some .lt ↔ (a : ℚ) < rational negative m q) ∧
      ((finite negative m q).compareInt a = some .gt ↔ rational negative m q < a) := by
  have hrational : rational negative m q = ((if negative then -(m : Int) else m : Int) : ℚ) * 2 ^ q := by
    cases negative <;> simp [rational]
  rw [hrational, compareInt]
  generalize (if negative then -(m : Int) else m) = signed
  by_cases hq : 0 ≤ q
  · have hpower : ((signed * twoTo q.toNat : Int) : ℚ) = signed * 2 ^ q := by
      rw [Int.cast_mul, cast_twoTo, Int.toNat_of_nonneg hq]
    rw [if_pos hq, ← hpower, Int.cast_lt, Int.cast_lt, Option.some_inj, Option.some_inj, compare_lt_iff_lt,
      compare_gt_iff_gt]
    exact ⟨Iff.rfl, Iff.rfl⟩
  · -- both sides times the power that makes the double whole
    have hpos : (0 : ℚ) < 2 ^ (-q) := by positivity
    have hwhole : (signed * 2 ^ q : ℚ) * 2 ^ (-q) = signed := by
      rw [mul_assoc, ← zpow_add₀ (by norm_num), add_neg_cancel, zpow_zero, mul_one]
    have hpower : ((a * twoTo (-q).toNat : Int) : ℚ) = a * 2 ^ (-q) := by
      rw [Int.cast_mul, cast_twoTo, Int.toNat_of_nonneg (by omega)]
    have hlt : (a : ℚ) < signed * 2 ^ q ↔ a * twoTo (-q).toNat < signed := by
      rw [← mul_lt_mul_iff_left₀ hpos, hwhole, ← hpower, Int.cast_lt]
    have hgt : signed * 2 ^ q < (a : ℚ) ↔ signed < a * twoTo (-q).toNat := by
      rw [← mul_lt_mul_iff_left₀ hpos, hwhole, ← hpower, Int.cast_lt]
    rw [if_neg hq, hlt, hgt, Option.some_inj, Option.some_inj, compare_lt_iff_lt, compare_gt_iff_gt]
    exact ⟨Iff.rfl, Iff.rfl⟩

/-- A whole number and a double are compared as what they stand for. -/
theorem compareInt_iff {a : Int} {d : Binary64} {s : Extended} (hd : d.extended? = some s) :
    (d.compareInt a = some .lt ↔ (((a : ℚ) : WithTop ℚ) : Extended) < s) ∧
      (d.compareInt a = some .gt ↔ s < (((a : ℚ) : WithTop ℚ) : Extended)) := by
  cases d with
  | nan => cases hd
  | infinite negative =>
    cases negative with
    | true =>
      cases hd
      simp [compareInt]
    | false =>
      cases hd
      have htop : (((a : ℚ) : WithTop ℚ) : Extended) < ((⊤ : WithTop ℚ) : Extended) :=
        WithBot.coe_lt_coe.2 (WithTop.coe_lt_top _)
      exact ⟨⟨fun _ => htop, fun _ => rfl⟩, ⟨fun h => (nomatch h), fun h => absurd htop (lt_asymm h)⟩⟩
  | finite negative m q =>
    cases hd
    rw [WithBot.coe_lt_coe, WithTop.coe_lt_coe, WithBot.coe_lt_coe, WithTop.coe_lt_coe]
    exact compareInt_finite

end Binary64

/-! ## 4. Numbers and values -/

theorem float_lt_iff {x y : Float} {r s : Extended} (hx : (Binary64.decode x).extended? = some r)
    (hy : (Binary64.decode y).extended? = some s) : x < y ↔ r < s := by
  have hcanonical : ∀ (z : Float) sign m e hm, z.toModel.unpack = .finite sign m e hm → Canonical m e := by
    intro z sign m e hm hz
    have hdecode := Binary64.decode_eq z
    rw [hz] at hdecode
    exact Binary64.canonical_decode hdecode
  rw [Binary64.decode_eq] at hx hy
  rw [← Binary64.compare_lt_iff hx hy (hcanonical x) (hcanonical y)]
  show decide (x.toModel.unpack.lt y.toModel.unpack = true) = true ↔ _
  rw [decide_eq_true_iff, UnpackedFloat.lt, beq_iff_eq]

namespace Number

/-- **Numbers are compared as what they stand for.** -/
theorem compare?_lt_iff {m n : Number} {r s : Extended} (hm : m.extended? = some r) (hn : n.extended? = some s) :
    m.compare? n = some .lt ↔ r < s := by
  cases m with
  | whole a =>
    cases hm
    cases n with
    | whole b =>
      cases hn
      rw [compare?, Option.some_inj, compare_lt_iff_lt, WithBot.coe_lt_coe, WithTop.coe_lt_coe, Int.cast_lt]
    | double y => exact (Binary64.compareInt_iff hn).1
  | double x =>
    cases n with
    | whole b =>
      cases hn
      rw [compare?, Option.map_eq_some_iff, ← (Binary64.compareInt_iff hm).2]
      constructor
      · rintro ⟨order, horder, hswap⟩
        rw [horder, Ordering.swap_eq_lt.1 hswap]
      · intro hgt
        exact ⟨.gt, hgt, rfl⟩
    | double y =>
      rw [compare?, ← float_lt_iff hm hn]
      constructor
      · intro h
        split at h
        next hlt => exact hlt
        next =>
          split at h
          · cases h
          · split at h <;> cases h
      · intro hlt
        rw [if_pos hlt]

end Number

namespace Value

/-- Null, then all numbers, then all texts. -/
abbrev Rank := WithBot (Extended ⊕ₗ String)

/-- The place of a value: numbers lie by what they stand for, texts by their characters. What has no order at
all is put with null. -/
def rank : Value → Rank
  | text s => ((toLex (.inr s) : Extended ⊕ₗ String) : Rank)
  | value =>
    match value.number?.bind Number.extended? with
    | some r => ((toLex (.inl r) : Extended ⊕ₗ String) : Rank)
    | none => ⊥

/-- Null, or a number other than the one that is none. -/
def IsNumeric (value : Value) : Prop := value = null ∨ ∃ n r, value.number? = some n ∧ n.extended? = some r

/-- Null or a text. -/
def IsTextual (value : Value) : Prop := value = null ∨ ∃ s, value = text s

variable {a b : Value}

theorem rank_null : rank null = ⊥ := rfl

theorem rank_text (s : String) : rank (text s) = ((toLex (.inr s) : Extended ⊕ₗ String) : Rank) := rfl

theorem rank_number {n : Number} {r : Extended} (hnumber : a.number? = some n) (hexact : n.extended? = some r) :
    a.rank = ((toLex (.inl r) : Extended ⊕ₗ String) : Rank) := by
  have hbind : a.number?.bind Number.extended? = some r := by rw [hnumber, Option.bind_some, hexact]
  cases a with
  | text s => cases hnumber
  | _ => simp only [rank, hbind]

theorem less?_number {m n : Number} (ha : a.number? = some m) (hb : b.number? = some n) :
    a.less? b = some (m.compare? n == some .lt) := by
  cases a <;> cases hb' : b <;> simp_all [less?, number?]

end Value

end TableSync
