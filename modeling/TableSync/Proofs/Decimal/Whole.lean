/-
  TableSync/Proofs/Decimal/Whole.lean
  ===================================
  **Whole numbers as doubles** — mantissas of full length and what they stand for.

  A whole number up to `2 ^ 53` is the number of a double with a mantissa of
  full length.  Rounding gives such a double back whenever it starts from a
  mantissa and an exponent of the same value (`round_exact`), so the double
  nearest to such a number stands for it (`compareInt_ofInt`).
-/
import TableSync.Proofs.Value.Exact

namespace TableSync.Decimal

open Float.Model Float.Model.UnpackedFloat

variable {M m n : Nat} {E e : Int}

/-! ## 1. Values of mantissas and exponents -/

/-- What a mantissa and an exponent stand for. -/
def valueOf (m : Nat) (e : Int) : ℚ := m * 2 ^ e

/-- A mantissa of full length, with an exponent that doubles have. -/
structure Full (m : Nat) (e : Int) : Prop where
  long : 2 ^ 52 ≤ m
  short : m < 2 ^ 53
  least : -1074 ≤ e
  greatest : e ≤ 971

theorem Full.pos (h : Full m e) : 0 < m := lt_of_lt_of_le (by norm_num) h.long

theorem Full.value_pos (h : Full m e) : 0 < valueOf m e := by
  have hm : (0 : ℚ) < m := by exact_mod_cast h.pos
  exact mul_pos hm (by positivity)

theorem valueOf_shift (m : Nat) {e d : Int} (h : d ≤ e) : valueOf (m * 2 ^ (e - d).toNat) d = valueOf m e := by
  have hpower : (2 : ℚ) ^ (e - d).toNat = 2 ^ (e - d) := by
    rw [← zpow_natCast, Int.toNat_of_nonneg (by omega)]
  rw [valueOf, valueOf, Nat.cast_mul, Nat.cast_pow, Nat.cast_ofNat, hpower, mul_assoc, ← zpow_add₀ (by norm_num),
    sub_add_cancel]

/-- With an exponent given, a value has one mantissa. -/
theorem mantissa_of_value (h : valueOf M E = valueOf m e) (hle : E ≤ e) : M = m * 2 ^ (e - E).toNat := by
  rw [← valueOf_shift m hle, valueOf, valueOf] at h
  have hpower : (2 : ℚ) ^ E ≠ 0 := by positivity
  exact_mod_cast mul_right_cancel₀ hpower h

theorem pos_of_value (h : 0 < valueOf m e) : 0 < m := by
  rw [Nat.pos_iff_ne_zero]
  rintro rfl
  simp [valueOf] at h

theorem two_zpow_total_le (hM : 0 < M) (E : Int) : (2 : ℚ) ^ (totalExponent M E - 1) ≤ valueOf M E := by
  have hfloor : ((2 : ℚ) ^ M.log2 : ℚ) ≤ M := by exact_mod_cast Nat.log2_self_le hM.ne'
  have hsplit : totalExponent M E - 1 = (M.log2 : Int) + E := by rw [totalExponent]; omega
  rw [hsplit, zpow_add₀ (by norm_num), valueOf]
  gcongr
  exact_mod_cast hfloor

theorem value_lt_two_zpow_total (M : Nat) (E : Int) : valueOf M E < (2 : ℚ) ^ totalExponent M E := by
  have hceil : (M : ℚ) < 2 ^ (M.log2 + 1) := by exact_mod_cast Nat.lt_log2_self
  have hsplit : totalExponent M E = ((M.log2 + 1 : Nat) : Int) + E := by rw [totalExponent]; omega
  rw [hsplit, zpow_add₀ (by norm_num), valueOf]
  gcongr
  exact_mod_cast hceil

theorem Full.two_zpow_le (h : Full m e) : (2 : ℚ) ^ (52 + e) ≤ valueOf m e := by
  have hlong : (2 : ℚ) ^ (52 : Int) ≤ m := by exact_mod_cast h.long
  rw [zpow_add₀ (by norm_num), valueOf]
  gcongr

theorem Full.lt_two_zpow (h : Full m e) : valueOf m e < (2 : ℚ) ^ (53 + e) := by
  have hshort : (m : ℚ) < 2 ^ (53 : Int) := by exact_mod_cast h.short
  rw [zpow_add₀ (by norm_num), valueOf]
  gcongr

/-- Bounds on a value are bounds on its exponent. -/
theorem Full.exponent_bounds (h : Full m e) {a b : Int} (hlow : 2 ^ a ≤ valueOf m e) (hhigh : valueOf m e < 2 ^ b) :
    a - 52 ≤ e ∧ e < b - 52 := by
  have hlower := hlow.trans_lt h.lt_two_zpow
  have hupper := h.two_zpow_le.trans_lt hhigh
  rw [zpow_lt_zpow_iff_right₀ (by norm_num)] at hlower hupper
  omega

/-- The leading bit of a value that a full mantissa has. -/
theorem Full.totalExponent_eq (h : Full m e) (hvalue : valueOf M E = valueOf m e) : totalExponent M E = 53 + e := by
  have hM : 0 < M := pos_of_value (by rw [hvalue]; exact h.value_pos)
  -- the bounds on both mantissas, for one value
  have hlow := h.two_zpow_le.trans_lt (hvalue ▸ value_lt_two_zpow_total M E)
  have hhigh := (two_zpow_total_le hM E).trans_lt (hvalue ▸ h.lt_two_zpow)
  rw [zpow_lt_zpow_iff_right₀ (by norm_num)] at hlow hhigh
  omega

theorem Full.targetExponent_eq (h : Full m e) (hvalue : valueOf M E = valueOf m e) :
    Format.binary64.targetExponent (totalExponent M E) = e := by
  have hleast := h.least
  rw [h.totalExponent_eq hvalue, Format.targetExponent, Format.minExponent, Format.mantissaBits]
  norm_num
  omega

/-! ## 2. Rounding -/

theorem shift_exact (m k : Nat) :
    ExtendedMantissa.ofMantissaAndAccuracy (m * 2 ^ k) .exact >>> k = ⟨m, false, false⟩ := by
  show Nat.repeat ExtendedMantissa.shiftRightOne k ⟨m * 2 ^ k, false, false⟩ = ⟨m, false, false⟩
  induction k generalizing m with
  | zero => simp [Nat.repeat]
  | succ k ih =>
    -- the last step drops the one zero bit that the steps before leave
    have hrest : Nat.repeat ExtendedMantissa.shiftRightOne k ⟨m * 2 ^ (k + 1), false, false⟩ =
        ⟨m * 2, false, false⟩ := by
      rw [pow_succ, mul_comm (2 ^ k), ← mul_assoc]
      exact ih (m * 2)
    rw [Nat.repeat, hrest]
    simp [ExtendedMantissa.shiftRightOne]

/-- Shifting starts from a mantissa of the same value, and gives the full one. -/
theorem Full.shiftToTargetExponent_exact (h : Full m e) (hvalue : valueOf M E = valueOf m e) (hle : E ≤ e) :
    shiftToTargetExponent Format.binary64 M E .exact = (⟨m, false, false⟩, e) := by
  rw [shiftToTargetExponent, h.targetExponent_eq hvalue, shiftToExponent, mantissa_of_value hvalue hle, shift_exact,
    Int.toNat_of_nonneg (by omega), add_sub_cancel]

theorem Full.roundWithAccuracy_exact (h : Full m e) (sign : Sign) (hvalue : valueOf M E = valueOf m e) (hle : E ≤ e) :
    roundWithAccuracy Format.binary64 sign M E .exact = .finite sign m e h.pos := by
  have hrounded : (⟨m, false, false⟩ : ExtendedMantissa).roundedMantissa = m := rfl
  rw [roundWithAccuracy, h.shiftToTargetExponent_exact hvalue hle]
  dsimp only
  rw [hrounded, h.shiftToTargetExponent_exact rfl (le_refl _)]
  exact dif_neg h.pos.ne'

theorem Full.round_exact (h : Full m e) (sign : Sign) (hvalue : valueOf M E = valueOf m e) :
    UnpackedFloat.round Format.binary64 sign M E = .finite sign m e h.pos := by
  rw [UnpackedFloat.round, h.targetExponent_eq hvalue, decreaseExponent]
  dsimp only
  apply h.roundWithAccuracy_exact
  · rw [← hvalue, Nat.shiftLeft_eq, valueOf, valueOf, Nat.cast_mul, Nat.cast_pow, Nat.cast_ofNat, mul_assoc,
      ← zpow_natCast, ← zpow_add₀ (by norm_num)]
    ring_nf
  · omega

/-! ## 3. Doubles -/

theorem Full.unpack_pack (h : Full m e) (sign : Sign) :
    (Float.Model.pack (.finite sign m e h.pos)).unpack = .finite sign m e h.pos := by
  have hlog : m.log2 = 52 := (Nat.log2_eq_iff h.pos.ne').2 ⟨h.long, h.short⟩
  have hleast := h.least
  have hgreatest := h.greatest
  have hlong := h.long
  have hshort := h.short
  -- the exponent is neither that of infinities nor that of short mantissas
  obtain ⟨biased, hbiased⟩ : ∃ biased : Nat, (e + (1023 : Nat) + (52 : Nat)).toNat = biased := ⟨_, rfl⟩
  have hrange : 1 ≤ biased ∧ biased ≤ 2046 ∧ (biased : Int) = e + 1075 := by omega
  have hpack : UnpackedFloat.pack Format.binary64 (.finite sign m e h.pos) =
      packComponents Format.binary64 sign (BitVec.ofNat _ biased) (BitVec.ofNat _ m) := by
    rw [UnpackedFloat.pack]
    dsimp only
    have hbias : (Format.binary64).exponentBias = 1023 := rfl
    rw [hbias, hbiased, hlog, if_neg (by show ¬ 2048 ≤ _; omega)]
    exact if_pos rfl
  have hexponent : (BitVec.ofNat 11 biased).toNat = biased := by
    rw [BitVec.toNat_ofNat, Nat.mod_eq_of_lt (by omega)]
  have hall : BitVec.ofNat 11 biased ≠ -1#11 := by
    intro heq
    have htop : biased = 2047 := by rw [← hexponent, heq]; rfl
    omega
  have hnone : BitVec.ofNat 11 biased ≠ 0#11 := by
    intro heq
    have hzero : biased = 0 := by rw [← hexponent, heq]; rfl
    omega
  have hmantissa : (1#1 ++ BitVec.ofNat 52 m).toNat = m := by
    rw [Binary64.append_one, BitVec.toNat_ofNat]
    show m % 2 ^ 52 + 2 ^ 52 = m
    omega
  rw [Float.Model.unpack, Float.Model.pack]
  show UnpackedFloat.unpack Format.binary64 (UnpackedFloat.pack Format.binary64 _) = _
  rw [hpack, UnpackedFloat.unpack]
  simp only [unpackExponent_packComponents, unpackMantissa_packComponents, unpackSign_packComponents,
    Sign.ofBitVec_toBitVec, hall, hnone, if_false, hmantissa, hexponent]
  congr 1
  show (biased : Int) - (1023 + 52 : Nat) = e
  omega

/-! ## 4. The double of a whole number -/

/-- The double with a full mantissa and a sign. -/
def Full.signed (h : Full m e) (sign : Sign) : Float := .ofModel (.pack (.finite sign m e h.pos))

/-- The one above zero. -/
abbrev Full.double (h : Full m e) : Float := h.signed .positive

theorem Full.double_of_ne (h : Full m e) {sign : Sign} (hsign : sign ≠ .negative) : h.double = h.signed sign := by
  cases sign with
  | negative => exact absurd rfl hsign
  | positive => rfl

theorem Full.unpack_signed (h : Full m e) (sign : Sign) : (h.signed sign).toModel.unpack = .finite sign m e h.pos :=
  h.unpack_pack sign

theorem Full.decode_signed (h : Full m e) (sign : Sign) :
    Binary64.decode (h.signed sign) = .finite (sign == .negative) m e := by
  rw [Binary64.decode_eq, h.unpack_signed]
  rfl

theorem Full.extended_signed (h : Full m e) (sign : Sign) : (Binary64.decode (h.signed sign)).extended? =
    some ((Binary64.rational (sign == .negative) m e : WithTop ℚ) : Extended) := by
  rw [h.decode_signed]
  rfl

theorem Full.isFinite_signed (h : Full m e) (sign : Sign) : (h.signed sign).isFinite = true := by
  show (h.signed sign).toModel.unpack.isFinite = true
  rw [h.unpack_signed]
  rfl

theorem Full.abs_signed (h : Full m e) (sign : Sign) : (h.signed sign).abs = h.double := by
  show Float.ofModel (.pack (h.signed sign).toModel.unpack.abs) = _
  rw [h.unpack_signed]
  rfl

theorem Full.neg_double (h : Full m e) : -h.double = h.signed .negative := by
  show Float.ofModel (.pack h.double.toModel.unpack.neg) = _
  rw [h.unpack_signed]
  rfl

theorem Full.model_ofNat (h : Full m e) (hvalue : valueOf n 0 = valueOf m e) :
    Float.Model.ofNat n = .pack (.finite .positive m e h.pos) := by
  have hpos : 0 < n := pos_of_value (by rw [hvalue]; exact h.value_pos)
  rw [Float.Model.ofNat, UnpackedFloat.ofNat, UnpackedFloat.ofInt, UnpackedFloat.normalize,
    Int.compare_eq_gt.2 (by exact_mod_cast hpos)]
  dsimp only
  rw [Int.toNat_natCast, h.round_exact .positive hvalue]

theorem Full.toFloat_eq (h : Full m e) (hvalue : valueOf n 0 = valueOf m e) (hn : n < 2 ^ 53) :
    n.toUInt64.toFloat = h.double := by
  have hword : n.toUInt64.toNat = n := Nat.mod_eq_of_lt (lt_trans hn (by norm_num))
  show Float.ofModel (.pack (UnpackedFloat.ofNat Format.binary64 n.toUInt64.toNat)) = _
  rw [hword]
  exact congrArg Float.ofModel (h.model_ofNat hvalue)

theorem unpack_one :
    (Float.ofBits 0x3FF0000000000000).toModel.unpack = .finite .positive (2 ^ 52) (-52) (by decide) := rfl

/-- The double of a whole number that a full mantissa stands for. -/
theorem Full.ofNat_eq (h : Full m e) (hvalue : valueOf n 0 = valueOf m e) (hn : n ≤ 2 ^ 53) :
    Float.ofNat n = h.double := by
  by_cases hfast : n < 2 ^ 53
  · have htable : Float.ofNat n = n.toUInt64.toFloat * Float.ofBits 0x3FF0000000000000 := by
      show Float.ofScientific n false 0 = _
      rw [Float.ofScientific, dif_pos ⟨hfast, by decide⟩]
      rfl
    rw [htable, h.toFloat_eq hvalue hfast]
    show Float.ofModel (.pack (UnpackedFloat.mul Format.binary64 h.double.toModel.unpack _)) = _
    have hone : valueOf (m * 2 ^ 52) (e + -52) = valueOf m e := by
      have hshift := valueOf_shift m (show e + -52 ≤ e by omega)
      rwa [show (e - (e + -52)).toNat = 52 by omega] at hshift
    rw [h.unpack_signed, unpack_one, UnpackedFloat.mul]
    exact congrArg (fun parts => Float.ofModel (.pack parts)) (h.roundWithAccuracy_exact .positive hone (by omega))
  · -- the one number whose mantissa is longer than that of a double
    obtain rfl : n = 2 ^ 53 := by omega
    have htotal := h.totalExponent_eq hvalue
    rw [totalExponent, Nat.log2_two_pow] at htotal
    obtain rfl : e = 1 := by omega
    have hm := mantissa_of_value hvalue (by decide)
    obtain rfl : m = 2 ^ 52 := by norm_num at hm ⊢; omega
    rfl

/-- A value with a short mantissa has a full one. -/
theorem exists_full_of_short (hpos : 0 < n) (hn : n ≤ 2 ^ 53) (hleast : -1022 ≤ E) (hgreatest : E ≤ 970) :
    ∃ m e, Full m e ∧ valueOf n E = valueOf m e := by
  by_cases htop : n = 2 ^ 53
  · refine ⟨2 ^ 52, E + 1, ⟨le_refl _, by norm_num, by omega, by omega⟩, ?_⟩
    rw [htop, valueOf, valueOf, zpow_add_one₀ (by norm_num)]
    push_cast
    ring
  · have hlog : n.log2 ≤ 52 := by
      have hshort := (Nat.log2_lt hpos.ne').2 (lt_of_le_of_ne hn htop)
      omega
    refine ⟨n * 2 ^ (52 - n.log2), E + n.log2 - 52, ⟨?_, ?_, by omega, by omega⟩, ?_⟩
    · calc 2 ^ 52 = 2 ^ n.log2 * 2 ^ (52 - n.log2) := by rw [← pow_add, Nat.add_sub_cancel' hlog]
        _ ≤ n * 2 ^ (52 - n.log2) := Nat.mul_le_mul_right _ (Nat.log2_self_le hpos.ne')
    · calc n * 2 ^ (52 - n.log2) < 2 ^ (n.log2 + 1) * 2 ^ (52 - n.log2) :=
            Nat.mul_lt_mul_of_pos_right Nat.lt_log2_self (by positivity)
        _ = 2 ^ 53 := by rw [← pow_add]; congr 1; omega
    · have hshift := valueOf_shift n (show E + n.log2 - 52 ≤ E by omega)
      rw [show (E - (E + n.log2 - 52)).toNat = 52 - n.log2 by omega] at hshift
      exact hshift.symm

theorem exists_full (hpos : 0 < n) (hn : n ≤ 2 ^ 53) : ∃ m e, Full m e ∧ valueOf n 0 = valueOf m e :=
  exists_full_of_short hpos hn (by norm_num) (by norm_num)

/-! ## 5. Signs -/

theorem Full.signed_lt_zero (h : Full m e) (sign : Sign) : h.signed sign < 0 ↔ sign = .negative := by
  have hzero : Binary64.decode 0 = .finite false 0 (-1074) := by decide +kernel
  have hpos := Binary64.rational_pos h.pos e
  rw [float_lt_iff (h.extended_signed sign) (congrArg Binary64.extended? hzero), WithBot.coe_lt_coe, WithTop.coe_lt_coe,
    Binary64.rational_zero]
  cases sign with
  | positive => simpa [Binary64.positive_beq_negative] using hpos.le
  | negative => simpa [Binary64.rational_neg] using hpos

/-- The double of a whole number: zero, or a full mantissa with the sign of the number. -/
theorem ofInt_cases {k : Int} (hk : k.natAbs ≤ 2 ^ 53) :
    (k = 0 ∧ Float.ofInt k = 0.0) ∨ ∃ n m e, ∃ (h : Full m e) (sign : Sign), valueOf n 0 = valueOf m e ∧ 0 < n ∧
      n ≤ 2 ^ 53 ∧ k = sign.apply n ∧ Float.ofInt k = h.signed sign := by
  cases k with
  | ofNat n =>
    by_cases hzero : n = 0
    · rw [hzero]
      exact .inl ⟨rfl, rfl⟩
    · have hpos := Nat.pos_of_ne_zero hzero
      obtain ⟨m, e, h, hvalue⟩ := exists_full hpos hk
      exact .inr ⟨n, m, e, h, .positive, hvalue, hpos, hk, rfl, h.ofNat_eq hvalue hk⟩
  | negSucc n =>
    have hpos := Nat.succ_pos n
    obtain ⟨m, e, h, hvalue⟩ := exists_full hpos hk
    refine .inr ⟨n + 1, m, e, h, .negative, hvalue, hpos, hk, rfl, ?_⟩
    rw [← h.neg_double]
    exact congrArg Float.neg (h.ofNat_eq hvalue hk)

theorem isFinite_ofInt {k : Int} (hk : k.natAbs ≤ 2 ^ 53) : (Float.ofInt k).isFinite = true := by
  rcases ofInt_cases hk with ⟨-, hzero⟩ | ⟨n, m, e, h, sign, -, -, -, -, hdouble⟩
  · rw [hzero]
    decide +kernel
  · rw [hdouble]
    exact h.isFinite_signed sign

/-- The double nearest to a whole number stands for it. -/
theorem compareInt_ofInt {k : Int} (hk : k.natAbs ≤ 2 ^ 53) :
    (Binary64.decode (Float.ofInt k)).compareInt k = some .eq := by
  rcases ofInt_cases hk with ⟨rfl, hzero⟩ | ⟨n, m, e, h, sign, hvalue, -, -, rfl, hdouble⟩
  · rw [hzero]
    decide +kernel
  · have hsame : Binary64.rational (sign == .negative) m e = (sign.apply n : Int) := by
      have hn : (m : ℚ) * 2 ^ e = n := by rw [← mul_one (n : ℚ), ← zpow_zero (2 : ℚ)]; exact hvalue.symm
      cases sign <;> simp [Binary64.rational, Sign.apply, Binary64.positive_beq_negative, hn]
    have hboth := @Binary64.compareInt_finite (sign.apply n) (sign == .negative) m e
    rw [hsame] at hboth
    rw [hdouble, h.decode_signed]
    cases horder : Binary64.compareInt (sign.apply n) (.finite (sign == .negative) m e) with
    | none =>
      unfold Binary64.compareInt at horder
      dsimp only at horder
      split at horder <;> cases horder
    | some order =>
      cases order with
      | lt => exact absurd (hboth.1.1 horder) (lt_irrefl _)
      | eq => rfl
      | gt => exact absurd (hboth.2.1 horder) (lt_irrefl _)

end TableSync.Decimal
