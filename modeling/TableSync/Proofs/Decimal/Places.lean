/-
  TableSync/Proofs/Decimal/Places.lean
  ====================================
  **Ten places after the point** — which doubles keep their number.

  Cutting a double to ten places finds a decimal with ten places next to it
  (`Full.exists_tenPlaces`), and what is left is the double that this decimal is
  read as.  Up to half a million doubles lie so close together that there is one
  such decimal for each of those that are read from one; above that they lie so
  far apart that each is the nearest to any decimal next to it.  So the double
  nearest to a decimal with ten places is not changed (`nearest_unchanged`), and
  what is left of any double is nearest to a short one (`tenPlaces_short`).
-/
import TableSync.Proofs.Decimal.Stands

namespace TableSync.Decimal

open Float.Model Float.Model.UnpackedFloat

variable {d m n : Nat} {e : Int} {p r : ℚ} {x y : Float}

/-! ## 1. Whole part and places -/

theorem not_beq_of_lt (h : x < y) : (x == y) = false := by
  have hless : x.toModel.unpack.compare y.toModel.unpack = some .lt := beq_iff_eq.1 (of_decide_eq_true h)
  show (x.toModel.unpack.compare y.toModel.unpack == some .eq) = false
  rw [hless]
  rfl

theorem stands_tenTo : Stands 1e10 (10 ^ 10) :=
  Stands.of_double (m := 10 ^ 10 * 2 ^ 19) (e := -19) ⟨by norm_num, by norm_num, by norm_num, by norm_num⟩ rfl
    (by norm_num [valueOf])

theorem stands_half : Stands 0.5 (1 / 2) :=
  Stands.of_double (m := 2 ^ 52) (e := -53) ⟨by norm_num, by norm_num, by norm_num, by norm_num⟩ rfl
    (by norm_num [valueOf])

theorem stands_greatest : Stands (1e16 - 1) (10 ^ 16) :=
  Stands.of_double (m := 5000000000000000) (e := 1) ⟨by norm_num, by norm_num, by norm_num, by norm_num⟩ rfl
    (by norm_num [valueOf])

theorem stands_least : Stands 1e-15 (valueOf 5070602400912918 (-102)) :=
  Stands.of_double (m := 5070602400912918) (e := -102) ⟨by norm_num, by norm_num, by norm_num, by norm_num⟩ rfl rfl

/-- A double without its fraction, which counts from a half on. -/
def roundPlaces (x : Float) : Nat :=
  let places := wholePart x
  let rest := x - Float.ofNat places
  if rest > 0.5 then places + 1
  else if rest == 0.5 && (places == 0 || places % 2 == 1) then places + 1
  else places

theorem splitTenPlaces_eq (x : Float) :
    splitTenPlaces x =
      if roundPlaces ((x - Float.ofNat (wholePart x)) * 1e10) ≥ tenTo 10 then (wholePart x + 1, 0)
      else (wholePart x, roundPlaces ((x - Float.ofNat (wholePart x)) * 1e10)) := rfl

theorem Stands.roundPlaces_near (hx : Stands x p) (hleast : p = 0 ∨ 2 ^ (-154 : Int) ≤ p)
    (hgreatest : p < 2 ^ (53 : Int)) : |p - roundPlaces x| ≤ 1 / 2 := by
  have hlow := Nat.floor_le hx.nonneg
  have hhigh := Nat.lt_floor_add_one p
  obtain ⟨hrest, -⟩ := hx.sub_ofNat (by norm_num) hleast hgreatest hlow
  rw [roundPlaces, hx.wholePart_eq, abs_le]
  split
  next hmore =>
    rw [gt_iff_lt, stands_half.lt_iff hrest] at hmore
    push_cast
    constructor <;> linarith
  next hless =>
    rw [gt_iff_lt, stands_half.lt_iff hrest, not_lt] at hless
    split
    next heven =>
      -- not less than a half either
      have hmore : 1 / 2 ≤ p - ⌊p⌋₊ := by
        by_contra hlt
        rw [not_le, ← hrest.lt_iff stands_half] at hlt
        rw [not_beq_of_lt hlt, Bool.false_and] at heven
        exact Bool.false_ne_true heven
      push_cast
      constructor <;> linarith
    next => constructor <;> linarith

/-- **Cutting finds a nearest decimal**, but for what is lost when the fraction is multiplied. -/
theorem Stands.exists_split (hx : Stands x r) (hleast : 2 ^ (-100 : Int) ≤ r) (hgreatest : r < 2 ^ (53 : Int)) :
    ∃ d : Nat, splitTenPlaces x = (d / tenTo 10, d % tenTo 10) ∧ |r * 10 ^ 10 - d| ≤ 51 / 100 := by
  obtain ⟨w, hw⟩ : ∃ w, ⌊r⌋₊ = w := ⟨_, rfl⟩
  have hbelow : (w : ℚ) ≤ r := hw ▸ Nat.floor_le hx.nonneg
  have habove : r < w + 1 := hw ▸ Nat.lt_floor_add_one r
  -- what is left below one, ten places up
  obtain ⟨hrest, htiny⟩ := hx.sub_ofNat (by norm_num) (.inr hleast) hgreatest hbelow
  have hscale : (r - w) * 10 ^ 10 = 0 ∨ (2 : ℚ) ^ (-153 : Int) ≤ (r - w) * 10 ^ 10 := by
    rcases htiny with hnone | hsome
    · exact .inl (by rw [hnone, zero_mul])
    · right
      norm_num at hsome ⊢
      linarith
  have hless : (r - w) * 10 ^ 10 < 10 ^ 10 := by linarith
  have hshort : (10 : ℚ) ^ 10 ≤ 2 ^ (53 : Int) := by norm_num
  obtain ⟨p, hp, hproduct⟩ := hrest.mul stands_tenTo
    (hscale.imp_right fun h => (zpow_le_zpow_right₀ (by norm_num) (by norm_num)).trans h)
    ((hless.le.trans hshort).trans (zpow_le_zpow_right₀ (by norm_num) (by norm_num)))
  obtain ⟨hdown, hup⟩ := abs_le.1 hproduct
  have hcoarse : p = 0 ∨ (2 : ℚ) ^ (-154 : Int) ≤ p := by
    rcases hscale with hnone | hsome
    · rw [hnone, zero_div] at hdown hup
      exact .inl (by linarith)
    · right
      norm_num at hsome hdown ⊢
      linarith
  have hbound : p < 2 ^ (53 : Int) := by
    norm_num at hup hless ⊢
    linarith
  have hrounded := hp.roundPlaces_near hcoarse hbound
  have hwhole : wholePart x = w := by rw [hx.wholePart_eq, hw]
  rw [splitTenPlaces_eq, hwhole]
  obtain ⟨k, hk⟩ : ∃ k, roundPlaces ((x - Float.ofNat w) * 1e10) = k := ⟨_, rfl⟩
  rw [hk] at hrounded ⊢
  obtain ⟨hdown', hup'⟩ := abs_le.1 hrounded
  have hkle : k ≤ 10 ^ 10 := by
    have hlt : (k : ℚ) < 10000000001 := by
      norm_num at hup hless
      linarith
    exact Nat.lt_succ_iff.1 (by exact_mod_cast hlt)
  have hten : tenTo 10 = 10 ^ 10 := rfl
  refine ⟨w * 10 ^ 10 + k, ?_, ?_⟩
  · have hdiv : (w * 10 ^ 10 + k) / tenTo 10 = if k ≥ tenTo 10 then w + 1 else w := by
      rw [hten]
      split <;> omega
    have hmod : (w * 10 ^ 10 + k) % tenTo 10 = if k ≥ tenTo 10 then 0 else k := by
      rw [hten]
      split <;> omega
    rw [hdiv, hmod]
    split <;> rfl
  · push_cast
    rw [abs_le]
    constructor <;> norm_num at hdown hup hless ⊢ <;> linarith

/-! ## 2. Doubles that are cut -/

/-- A positive double of moderate size becomes one that is read from a decimal next to it, and its sign stays. -/
theorem Full.exists_tenPlaces (h : Full m e) (hleast : 2 ^ (-40 : Int) ≤ valueOf m e)
    (hgreatest : valueOf m e < 2 ^ (53 : Int)) : ∃ d : Nat, |valueOf m e * 10 ^ 10 - d| ≤ 51 / 100 ∧
      ∀ sign, tenPlaces (h.signed sign) = if h.signed sign < 0 then -toFloat d (-10) else toFloat d (-10) := by
  have hstands : Stands h.double (valueOf m e) := .full h
  have habove : ¬ h.double > 1e16 - 1 := by
    rw [gt_iff_lt, stands_greatest.lt_iff hstands]
    norm_num at hgreatest ⊢
    linarith
  have hbelow : ¬ h.double < 1e-15 := by
    rw [hstands.lt_iff stands_least]
    norm_num [valueOf] at hleast ⊢
    linarith
  obtain ⟨d, hsplit, hnear⟩ :=
    hstands.exists_split ((zpow_le_zpow_right₀ (by norm_num) (by norm_num)).trans hleast) hgreatest
  refine ⟨d, hnear, fun sign => ?_⟩
  have hten : d / tenTo 10 * tenTo 10 + d % tenTo 10 = d := Nat.div_add_mod' d (tenTo 10)
  rw [tenPlaces, h.abs_signed, hsplit]
  simp only [habove, hbelow, decide_false, Bool.and_false, Bool.or_false, Bool.false_eq_true, if_false, hten]

/-- A double that is read from the decimals next to it is not changed. -/
theorem Full.tenPlaces_eq_self (h : Full m e) (hleast : 2 ^ (-40 : Int) ≤ valueOf m e)
    (hgreatest : valueOf m e < 2 ^ (53 : Int))
    (hread : ∀ d : Nat, |valueOf m e * 10 ^ 10 - d| ≤ 51 / 100 → toFloat d (-10) = h.double) (sign : Sign) :
    tenPlaces (h.signed sign) = h.signed sign := by
  obtain ⟨d, hnear, hplaces⟩ := h.exists_tenPlaces hleast hgreatest
  rw [hplaces, hread d hnear, h.neg_double]
  by_cases hsign : sign = .negative
  · rw [if_pos ((h.signed_lt_zero sign).2 hsign), hsign]
  · rw [if_neg (mt (h.signed_lt_zero sign).1 hsign), h.double_of_ne hsign]

/-- Two whole numbers near one number are the same. -/
theorem eq_of_near {a b : Nat} (ha : |r - a| ≤ 51 / 100) (hb : |r - b| < 49 / 100) : a = b := by
  obtain ⟨hdown, hup⟩ := abs_le.1 ha
  obtain ⟨hdown', hup'⟩ := abs_lt.1 hb
  have hless : (a : ℚ) < b + 1 := by linarith
  have hmore : (b : ℚ) < a + 1 := by linarith
  have hless' : a < b + 1 := by exact_mod_cast hless
  have hmore' : b < a + 1 := by exact_mod_cast hmore
  omega

/-! ## 3. Decimals that are read -/

/-- Ten to a power with a full mantissa. -/
theorem full_power {k : Nat} (hk : k ≤ 10) : Full (10 ^ k * 2 ^ (52 - (10 ^ k).log2)) ((10 ^ k).log2 - 52) := by
  constructor <;> interval_cases k <;> decide +kernel

theorem valueOf_power {k : Nat} (hk : k ≤ 10) :
    valueOf (10 ^ k * 2 ^ (52 - (10 ^ k).log2)) ((10 ^ k).log2 - 52) = 10 ^ k := by
  interval_cases k <;> decide +kernel

theorem table_eq {k : Nat} (hk : k ≤ 10) (hindex : k < Float.exactlyRepresentablePowersOfTen.size) :
    Float.exactlyRepresentablePowersOfTen[k] = (full_power hk).double := by
  interval_cases k <;> rfl

theorem Full.exponent_of_whole (h : Full m e) (hvalue : valueOf m e = n) (hpos : 0 < n) (hn : n < 2 ^ 53) :
    -52 ≤ e ∧ e ≤ 0 := by
  have hlow : (2 : ℚ) ^ (0 : Int) ≤ valueOf m e := by
    rw [hvalue, zpow_zero]
    exact_mod_cast hpos
  have hhigh : valueOf m e < 2 ^ (53 : Int) := by
    rw [hvalue]
    exact_mod_cast hn
  have hbounds := h.exponent_bounds hlow hhigh
  omega

/-- A decimal is read as a quotient. -/
theorem exists_read {k : Nat} (hpos : 0 < d) (hd : d ≤ 10 ^ 40) (hsome : 0 < k) (hk : k ≤ 10) :
    ∃ M E N D, ∃ h : Moderate M E N D, valueOf M E = d ∧ valueOf N D = 10 ^ k ∧
      toFloat d (-k) = .ofModel (.pack (UnpackedFloat.div Format.binary64 (.finite .positive M E h.dividend)
        (.finite .positive N D h.divisor))) := by
  have hlength : length d ≤ 41 :=
    (Nat.length_toDigits_le_iff (by norm_num) (by norm_num)).2 (hd.trans_lt (by norm_num))
  have hreads : toFloat d (-k) = Float.ofScientific d true k := by
    rw [toFloat, if_neg hpos.ne', if_neg (by omega), if_neg (by omega), if_pos (by omega), Int.natAbs_neg,
      Int.natAbs_natCast]
  rw [hreads, Float.ofScientific]
  by_cases hfast : d < 2 ^ 53
  · obtain ⟨M, E, hM, hvalue⟩ := exists_full hpos hfast.le
    have hN := full_power hk
    have hvalueM : valueOf M E = d := by rw [← hvalue, valueOf, zpow_zero, mul_one]
    have hrange := hM.exponent_of_whole hvalueM hpos hfast
    have hrange' := hN.exponent_of_whole (n := 10 ^ k) (by rw [valueOf_power hk]; push_cast; rfl) (by positivity)
      ((Nat.pow_le_pow_right (by norm_num) hk).trans_lt (by norm_num))
    refine ⟨M, E, _, _, hM.moderate hN (by omega) (by omega), hvalueM, valueOf_power hk, ?_⟩
    rw [dif_pos ⟨hfast, by omega⟩, if_pos rfl, hM.toFloat_eq hvalue hfast, table_eq hk]
    show Float.ofModel (.pack (UnpackedFloat.div Format.binary64 hM.double.toModel.unpack hN.double.toModel.unpack)) = _
    rw [hM.unpack_signed, hN.unpack_signed]
  · have hpower : 0 < 10 ^ k := by positivity
    have hlog : d.log2 < 133 := (Nat.log2_lt hpos.ne').2 (hd.trans_lt (by norm_num))
    have hlog' : (10 ^ k).log2 < 34 :=
      (Nat.log2_lt hpower.ne').2 ((Nat.pow_le_pow_right (by norm_num) hk).trans_lt (by norm_num))
    have hmoderate : Moderate d 0 (10 ^ k) 0 := by
      refine ⟨hpos, hpower, by omega, ?_, ?_⟩ <;> rw [totalExponent, totalExponent] <;> omega
    refine ⟨d, 0, 10 ^ k, 0, hmoderate, ?_, ?_, ?_⟩
    · rw [valueOf, zpow_zero, mul_one]
    · rw [valueOf, zpow_zero, mul_one, Nat.cast_pow, Nat.cast_ofNat]
    · rw [dif_neg (fun hboth => hfast hboth.1)]
      obtain ⟨j, rfl⟩ := Nat.exists_eq_add_one.2 hsome
      have hexponent : (2 : Int) ^ Format.binary64.exponentBits = 2048 := rfl
      show Float.ofModel (Float.Model.ofScientific d (Int.negSucc j)) = _
      rw [Float.Model.ofScientific, UnpackedFloat.ofScientific, dif_neg hpos.ne', if_neg (by omega), if_neg (by omega),
        if_neg (by omega)]
      rfl

/-- A decimal near a full mantissa is read as its double. -/
theorem Full.toFloat_near (h : Full m e) {k : Nat} (hpos : 0 < d) (hd : d ≤ 10 ^ 40) (hsome : 0 < k) (hk : k ≤ 10)
    (hnear : |(d : ℚ) / 10 ^ k - valueOf m e| < 2 ^ e / 2) (hpower : m = 2 ^ 52 → valueOf m e ≤ d / 10 ^ k) :
    toFloat d (-k) = h.double := by
  obtain ⟨M, E, N, D, hmoderate, hvalueM, hvalueN, hread⟩ := exists_read hpos hd hsome hk
  rw [← hvalueM, ← hvalueN] at hnear hpower
  rw [hread, hmoderate.div_near h hnear hpower]
  rfl

/-- A decimal is read as a double nearest to it. -/
theorem exists_rounded {k : Nat} (hpos : 0 < d) (hd : d ≤ 10 ^ 40) (hsome : 0 < k) (hk : k ≤ 10) :
    ∃ m e, ∃ h : Rounded (d / 10 ^ k) m e, toFloat d (-k) = h.toFull.double := by
  obtain ⟨M, E, N, D, hmoderate, hvalueM, hvalueN, hread⟩ := exists_read hpos hd hsome hk
  obtain ⟨m, e, h, hquotient⟩ := hmoderate.rounded_div
  rw [hquotient] at hread
  rw [hvalueM, hvalueN] at h
  exact ⟨m, e, h, hread⟩

/-- Zeros at the end of a decimal change nothing. -/
theorem toFloat_scale {k : Nat} (hpos : 0 < d) (hsome : 0 < k) (hk : k ≤ 10) (hd : d * 10 ^ (10 - k) ≤ 10 ^ 40) :
    toFloat d (-k) = toFloat (d * 10 ^ (10 - k)) (-10) := by
  have hmore : 0 < 10 ^ (10 - k) := by positivity
  obtain ⟨M, E, N, D, h, hvalueM, hvalueN, hread⟩ :=
    exists_read hpos ((Nat.le_mul_of_pos_right d hmore).trans hd) hsome hk
  obtain ⟨M', E', N', D', h', hvalueM', hvalueN', hread'⟩ :=
    exists_read (Nat.mul_pos hpos hmore) hd (show 0 < 10 by norm_num) (le_refl 10)
  have hvalue : valueOf M E / valueOf N D = valueOf M' E' / valueOf N' D' := by
    have hpower : (10 : ℚ) ^ 10 = 10 ^ (10 - k) * 10 ^ k := by rw [← pow_add, Nat.sub_add_cancel hk]
    rw [hvalueM, hvalueN, hvalueM', hvalueN', hpower]
    push_cast
    field_simp
  rw [hread, h.div_congr h' hvalue, ← hread']
  rfl

/-! ## 4. Doubles that are not changed -/

/-- A double above half a million is closer to each decimal next to it than to another double. -/
theorem Full.tenPlaces_of_long (h : Full m e) (he : -33 ≤ e) (hgreatest : valueOf m e < 2 ^ (53 : Int)) (sign : Sign) :
    tenPlaces (h.signed sign) = h.signed sign := by
  have hlong : (2 : ℚ) ^ (19 : Int) ≤ valueOf m e :=
    (zpow_le_zpow_right₀ (by norm_num) (by omega)).trans h.two_zpow_le
  have hunit : (2 : ℚ) ^ (-33 : Int) ≤ 2 ^ e := zpow_le_zpow_right₀ (by norm_num) he
  apply h.tenPlaces_eq_self ((zpow_le_zpow_right₀ (by norm_num) (by norm_num)).trans hlong) hgreatest
  intro d hd
  obtain ⟨hdown, hup⟩ := abs_le.1 hd
  have hpos : 0 < d := by
    have hlt : (0 : ℚ) < d := by
      norm_num at hlong hup
      linarith
    exact_mod_cast hlt
  have hshort : d ≤ 10 ^ 40 := by
    have hle : (d : ℚ) ≤ (10 ^ 40 : Nat) := by
      norm_num at hgreatest hdown
      push_cast
      linarith
    exact_mod_cast hle
  apply h.toFloat_near hpos hshort (show 0 < 10 by norm_num) (le_refl 10)
  · rw [abs_lt]
    norm_num at hunit hdown hup ⊢
    constructor <;> linarith
  · -- a power of two is a whole number here, which is its own decimal
    rintro rfl
    have hvalue : valueOf (2 ^ 52) e = (2 ^ (52 + e).toNat : Nat) := by
      rw [valueOf, Nat.cast_pow, Nat.cast_pow, Nat.cast_ofNat, ← zpow_natCast, ← zpow_natCast,
        ← zpow_add₀ (by norm_num)]
      congr 1
      omega
    rw [hvalue] at hd ⊢
    obtain ⟨n, hn⟩ : ∃ n, 2 ^ (52 + e).toNat = n := ⟨_, rfl⟩
    rw [hn] at hd ⊢
    have hsame : d = n * 10 ^ 10 := by
      apply eq_of_near hd
      push_cast
      norm_num
    rw [hsame]
    push_cast
    field_simp
    exact le_refl _

/-- A decimal with places after the point is read as a double that is not changed, with either sign. -/
theorem exists_unchanged {k : Nat} (hpos : 0 < d) (hsome : 0 < k) (hk : k ≤ 10) (hd : d * 10 ^ (10 - k) ≤ 10 ^ 25) :
    ∃ m e, ∃ h : Full m e, toFloat d (-k) = h.double ∧ ∀ sign, tenPlaces (h.signed sign) = h.signed sign := by
  rw [toFloat_scale hpos hsome hk (hd.trans (by norm_num))]
  obtain ⟨n, hn⟩ : ∃ n, d * 10 ^ (10 - k) = n := ⟨_, rfl⟩
  rw [hn] at hd ⊢
  have hnpos : 0 < n := hn ▸ Nat.mul_pos hpos (by positivity)
  obtain ⟨m, e, h, hdouble⟩ := exists_rounded hnpos (hd.trans (by norm_num)) (show 0 < 10 by norm_num) (le_refl 10)
  have hlow : (1 : ℚ) ≤ n := by exact_mod_cast hnpos
  have hhigh : (n : ℚ) ≤ 10000000000000000000000000 := by exact_mod_cast hd
  have hleast : (2 : ℚ) ^ (-40 : Int) ≤ valueOf m e := by
    obtain ⟨hdown, -⟩ := abs_le.1 h.relative
    norm_num at hdown ⊢
    linarith
  have hgreatest : valueOf m e < 2 ^ (53 : Int) := by
    obtain ⟨-, hup⟩ := abs_le.1 h.relative
    norm_num at hup ⊢
    linarith
  refine ⟨m, e, h.toFull, hdouble, fun sign => ?_⟩
  by_cases he : -33 ≤ e
  · exact h.toFull.tenPlaces_of_long he hgreatest sign
  · -- doubles lie so close together that there is one decimal next to this one
    have hunit : (2 : ℚ) ^ e ≤ 2 ^ (-34 : Int) := zpow_le_zpow_right₀ (by norm_num) (by omega)
    obtain ⟨hdown, hup⟩ := abs_le.1 h.near
    apply h.toFull.tenPlaces_eq_self hleast hgreatest
    intro d hd
    have hsame : d = n := by
      apply eq_of_near hd
      rw [abs_lt]
      norm_num at hunit hdown hup ⊢
      constructor <;> linarith
    rw [hsame]
    exact hdouble

/-- Ten places after the point hold a whole number. -/
theorem tenPlaces_ofInt {k : Int} (hk : k.natAbs ≤ 2 ^ 53) : tenPlaces (Float.ofInt k) = Float.ofInt k := by
  by_cases htop : k.natAbs = 2 ^ 53
  · obtain rfl | rfl : k = 2 ^ 53 ∨ k = -2 ^ 53 := by omega
    · decide +kernel
    · decide +kernel
  · rcases ofInt_cases hk with ⟨-, hzero⟩ | ⟨n, m, e, h, sign, hvalue, hpos, hn, hsame, hdouble⟩
    · rw [hzero]
      decide +kernel
    · have hnat : k.natAbs = n := by
        rw [hsame]
        cases sign <;> simp [Sign.apply]
      have hwhole : valueOf m e = n := by rw [← hvalue, valueOf, zpow_zero, mul_one]
      have hleast : (2 : ℚ) ^ (-40 : Int) ≤ valueOf m e := by
        rw [hwhole]
        exact (by norm_num : (2 : ℚ) ^ (-40 : Int) ≤ 1).trans (by exact_mod_cast hpos)
      have hgreatest : valueOf m e < 2 ^ (53 : Int) := by
        rw [hwhole]
        exact_mod_cast lt_of_le_of_ne hn (hnat ▸ htop)
      rw [hdouble]
      apply h.tenPlaces_eq_self hleast hgreatest
      intro d hd
      have hten : d = n * 10 ^ 10 := by
        apply eq_of_near hd
        rw [hwhole]
        push_cast
        norm_num
      have hexact : ((n * 10 ^ 10 : Nat) : ℚ) / 10 ^ 10 = valueOf m e := by
        rw [hwhole]
        push_cast
        norm_num
      rw [hten]
      apply h.toFloat_near (by omega) (by omega) (show 0 < 10 by norm_num) (le_refl 10)
      · rw [hexact, sub_self, abs_zero]
        positivity
      · rw [hexact]
        exact fun _ => le_refl _

/-- The double nearest to a decimal, with a sign. -/
def nearest (negative : Bool) (digits : Nat) (exponent : Int) : Float :=
  if negative then -toFloat digits exponent else toFloat digits exponent

theorem nearest_eq_ofInt (negative : Bool) (hpos : 0 < d) (hd : d ≤ 2 ^ 53) :
    nearest negative d 0 = Float.ofInt (if negative then -d else d) := by
  have hlength : length d ≤ 16 := (Nat.length_toDigits_le_iff (by norm_num) (by norm_num)).2 (by omega)
  have hread : toFloat d 0 = Float.ofNat d := by
    rw [toFloat, if_neg hpos.ne', if_neg (by omega), if_neg (by omega), if_neg (by omega)]
    rfl
  obtain ⟨n, rfl⟩ := Nat.exists_eq_add_one.2 hpos
  rw [nearest, hread]
  cases negative <;> rfl

/-- **Decimals with ten places survive.**  A double that is read from a decimal with up to ten places after the point
and twenty-five digits in all is zero, or it is not changed. -/
theorem nearest_unchanged (negative : Bool) {digits places : Nat} (hplaces : places ≤ 10)
    (hdigits : digits * 10 ^ (10 - places) ≤ 10 ^ 25) :
    digits = 0 ∨ ∃ m e, ∃ h : Full m e, ∃ sign, nearest negative digits (-places) = h.signed sign ∧
      tenPlaces (h.signed sign) = h.signed sign := by
  rcases Nat.eq_zero_or_pos digits with hzero | hpos
  · exact .inl hzero
  · right
    rcases Nat.eq_zero_or_pos places with rfl | hsome
    · have hshort : digits ≤ 2 ^ 53 := by omega
      rw [Nat.cast_zero, neg_zero, nearest_eq_ofInt negative hpos hshort]
      have hwhole : (if negative then -(digits : Int) else digits).natAbs ≤ 2 ^ 53 := by
        split <;> omega
      rcases ofInt_cases hwhole with ⟨hnone, -⟩ | ⟨n, m, e, h, sign, -, -, -, -, hdouble⟩
      · split at hnone <;> omega
      · refine ⟨m, e, h, sign, hdouble, ?_⟩
        rw [← hdouble]
        exact tenPlaces_ofInt hwhole
    · obtain ⟨m, e, h, hread, hsame⟩ := exists_unchanged hpos hsome hplaces hdigits
      rw [nearest, hread]
      cases negative with
      | false => exact ⟨m, e, h, .positive, rfl, hsame _⟩
      | true => exact ⟨m, e, h, .negative, h.neg_double, hsame _⟩

theorem Full.not_lt_self (h : Full m e) (sign : Sign) : ¬ h.signed sign < h.signed sign := by
  rw [float_lt_iff (h.extended_signed sign) (h.extended_signed sign)]
  exact lt_irrefl _

theorem Full.beq_self (h : Full m e) (sign : Sign) : (h.signed sign == h.signed sign) = true := by
  show ((h.signed sign).toModel.unpack.compare (h.signed sign).toModel.unpack == some .eq) = true
  rw [h.unpack_signed]
  cases sign <;> simp [UnpackedFloat.compare]

/-! ## 5. What is left of a double -/

/-- A double that is read from a decimal with ten places after the point, or with ten digits. -/
def Short (x : Float) : Prop :=
  ∃ negative digits exponent, (exponent = -10 ∨ digits ≤ 10 ^ 10) ∧ x = nearest negative digits exponent

theorem divideHalfEven_le (a b : Nat) : divideHalfEven a b ≤ a / b + 1 := by
  unfold divideHalfEven
  dsimp only
  split <;> omega

theorem lt_tenTo_length (n : Nat) : n < 10 ^ length n := by
  apply (Nat.length_toDigits_le_iff (by norm_num) Nat.length_toDigits_pos).1
  exact le_refl _

theorem tenTo_length_le (hn : 0 < n) : 10 ^ (length n - 1) ≤ n := by
  have hpos : 0 < length n := Nat.length_toDigits_pos
  by_cases hone : length n = 1
  · rw [hone]
    exact hn
  · by_contra hless
    have hle : length n ≤ length n - 1 := (Nat.length_toDigits_le_iff (by norm_num) (by omega)).2 (not_le.1 hless)
    omega

/-- A fraction is below the power after that of its leading digit. -/
theorem lt_leadingExponent {a b : Nat} (ha : 0 < a) (hb : 0 < b) : (a : ℚ) < b * 10 ^ (leadingExponent a b + 1) := by
  rw [leadingExponent]
  by_cases hle : b ≤ a
  · rw [if_pos hle, sub_add_cancel, zpow_natCast]
    have hlt : a < b * 10 ^ length (a / b) :=
      (Nat.lt_mul_div_succ a hb).trans_le (Nat.mul_le_mul_left b (lt_tenTo_length (a / b)))
    exact_mod_cast hlt
  · rw [if_neg hle]
    dsimp only
    obtain ⟨above, habove⟩ : ∃ above, (b + a - 1) / a = above := ⟨_, rfl⟩
    rw [habove]
    have htwo : 2 ≤ above := by
      rw [← habove, Nat.le_div_iff_mul_le ha]
      omega
    have hless : a * (above - 1) < b := by
      have hmul : a * above ≤ b + a - 1 := habove ▸ Nat.mul_div_le (b + a - 1) a
      rw [Nat.mul_sub, mul_one]
      omega
    have hlength := tenTo_length_le (n := above - 1) (by omega)
    obtain ⟨k, hk⟩ : ∃ k, length (above - 1) = k + 1 := Nat.exists_eq_add_one.2 Nat.length_toDigits_pos
    rw [hk] at hlength ⊢
    have hexponent : Int.negOfNat (k + 1) + 1 = -(k : Int) := by
      show Int.negSucc k + 1 = -(k : Int)
      omega
    rw [hexponent, zpow_neg, zpow_natCast, ← div_eq_mul_inv, lt_div_iff₀ (by positivity)]
    exact_mod_cast (Nat.mul_le_mul_left a hlength).trans_lt hless

/-- Ten leading digits are no more than ten, or they are a one and ten zeros. -/
theorem leading_le {a b : Nat} (ha : 0 < a) (hb : 0 < b) : (leading 10 a b).digits ≤ 10 ^ 10 := by
  have hlt := lt_leadingExponent ha hb
  obtain ⟨scale, hscale⟩ : ∃ scale, leadingExponent a b - (10 - 1 : Nat) = scale := ⟨_, rfl⟩
  rw [show leadingExponent a b + 1 = scale + (10 : Nat) by omega, zpow_add₀ (by norm_num), zpow_natCast] at hlt
  rw [leading, hscale]
  by_cases hpos : 0 ≤ scale
  · obtain ⟨k, rfl⟩ := Int.eq_ofNat_of_zero_le hpos
    rw [zpow_natCast] at hlt
    have hless : a / (b * tenTo k) < 10 ^ 10 := by
      rw [Nat.div_lt_iff_lt_mul (Nat.mul_pos hb (tenTo_pos k))]
      have hnat : a < b * (10 ^ k * 10 ^ 10) := by exact_mod_cast hlt
      have hpower : tenTo k = 10 ^ k := rfl
      rw [hpower]
      linarith
    rw [if_pos hpos]
    exact (divideHalfEven_le _ _).trans hless
  · obtain ⟨k, hk⟩ := Int.eq_ofNat_of_zero_le (show 0 ≤ -scale by omega)
    obtain rfl : scale = -(k : Int) := by omega
    rw [zpow_neg, zpow_natCast] at hlt
    have hless : a * tenTo k / b < 10 ^ 10 := by
      rw [Nat.div_lt_iff_lt_mul hb]
      have hnat : ((a * 10 ^ k : Nat) : ℚ) < (10 ^ 10 * b : Nat) := by
        push_cast
        rw [← lt_div_iff₀ (by positivity)]
        refine hlt.trans_eq ?_
        field_simp
        norm_num
      exact_mod_cast hnat
    rw [if_neg hpos, hk, Int.toNat_natCast]
    exact (divideHalfEven_le _ _).trans hless

theorem significant_short {sign : Sign} {hm : 0 < m} (hx : x.toModel.unpack = .finite sign m e hm) :
    Short (significant 10 x) := by
  have hdecode : Binary64.decode x = .finite (sign == .negative) m e := by
    rw [Binary64.decode_eq, hx]
    rfl
  rw [significant, hdecode]
  dsimp only
  rw [if_neg hm.ne']
  by_cases he : 0 ≤ e
  · rw [if_pos he]
    exact ⟨_, _, _, .inr (leading_le (Nat.mul_pos hm (twoTo_pos _)) Nat.one_pos), rfl⟩
  · rw [if_neg he]
    exact ⟨_, _, _, .inr (leading_le hm (twoTo_pos _)), rfl⟩

/-- **What is left of a double is short.** -/
theorem tenPlaces_short (hfinite : x.isFinite = true) : Short (tenPlaces x) := by
  rw [tenPlaces]
  dsimp only
  split
  next hguard =>
    cases hx : x.toModel.unpack with
    | notANumber =>
      have hnot : x.toModel.unpack.isFinite = true := hfinite
      rw [hx] at hnot
      cases hnot
    | infinity sign =>
      have hnot : x.toModel.unpack.isFinite = true := hfinite
      rw [hx] at hnot
      cases hnot
    | zero sign =>
      -- zero has ten places
      have hzero : x.abs = 0.0 := by
        show Float.ofModel (.pack x.toModel.unpack.abs) = 0.0
        rw [hx]
        rfl
      rw [hzero] at hguard
      exact absurd hguard (by decide +kernel)
    | finite sign m e hm => exact significant_short hx
  next =>
    refine ⟨decide (x < 0), (splitTenPlaces x.abs).1 * tenTo 10 + (splitTenPlaces x.abs).2, -10, .inl rfl, ?_⟩
    simp only [nearest, decide_eq_true_eq]

end TableSync.Decimal
