/-
  TableSync/Proofs/Decimal/Nearest.lean
  =====================================
  **Rounding to the nearest** — what one rounding gives.

  Rounding cuts a long mantissa to full length and keeps two bits, which say how
  the rest compares with a half (`Extends`).  What is kept depends on the number
  alone, and not on the mantissa and the exponent that it starts from, so the
  result is a double nearest to the number (`rounded_roundWithAccuracy`), and a
  number near a double is rounded to it (`Full.roundWithAccuracy_near`).  Products
  and quotients are rounded once.
-/
import TableSync.Proofs.Decimal.Whole

namespace TableSync.Decimal

open Float.Model Float.Model.UnpackedFloat

variable {M N m n q : Nat} {E D e t : Int} {v : ℚ}

/-! ## 1. Cut mantissas -/

/-- A mantissa with its two bits and the number that they stand for: the whole part, and how the rest compares with
a half. -/
structure Extends (em : ExtendedMantissa) (v : ℚ) : Prop where
  low : em.mantissa ≤ v
  high : v < em.mantissa + 1
  round : em.roundBit = true ↔ 1 / 2 ≤ v - em.mantissa
  sticky : em.stickyBit = true ↔ v - em.mantissa ≠ 0 ∧ v - em.mantissa ≠ 1 / 2

namespace Extends

variable {em em' : ExtendedMantissa}

theorem unique (h : Extends em v) (h' : Extends em' v) : em = em' := by
  have hless : em.mantissa < em'.mantissa + 1 := by exact_mod_cast h.low.trans_lt h'.high
  have hmore : em'.mantissa < em.mantissa + 1 := by exact_mod_cast h'.low.trans_lt h.high
  have hmantissa : em.mantissa = em'.mantissa := by omega
  have hround : em.roundBit = em'.roundBit := by rw [Bool.eq_iff_iff, h.round, h'.round, hmantissa]
  have hsticky : em.stickyBit = em'.stickyBit := by rw [Bool.eq_iff_iff, h.sticky, h'.sticky, hmantissa]
  cases em
  cases em'
  simp_all

/-- Dropping the last bit halves the number. -/
theorem shiftRightOne (h : Extends em v) : Extends em.shiftRightOne (v / 2) := by
  obtain ⟨m, round, sticky⟩ := em
  obtain ⟨hlow, hhigh, hround, hsticky⟩ := h
  dsimp only at hlow hhigh hround hsticky
  have hany : (round || sticky) = true ↔ v - m ≠ 0 := by
    rw [Bool.or_eq_true, hround, hsticky]
    constructor
    · rintro (hhalf | hsome)
      · linarith
      · exact hsome.1
    · intro hsome
      by_cases hhalf : v - m = 1 / 2
      · exact .inl hhalf.ge
      · exact .inr ⟨hsome, hhalf⟩
  obtain ⟨a, rfl | rfl⟩ := Nat.even_or_odd' m
  · have hdiv : 2 * a / 2 = a := by omega
    have hbit : 2 * a % 2 = 0 := by omega
    push_cast at hlow hhigh hany
    refine ⟨?_, ?_, ?_, ?_⟩ <;> simp only [ExtendedMantissa.shiftRightOne, hdiv, hbit]
    · linarith
    · linarith
    · simp
      linarith
    · rw [hany]
      constructor
      · intro hsome
        exact ⟨fun hzero => hsome (by linarith), fun hhalf => by linarith⟩
      · rintro ⟨hsome, -⟩ hzero
        exact hsome (by linarith)
  · have hdiv : (2 * a + 1) / 2 = a := by omega
    have hbit : (2 * a + 1) % 2 = 1 := by omega
    push_cast at hlow hhigh hany
    refine ⟨?_, ?_, ?_, ?_⟩ <;> simp only [ExtendedMantissa.shiftRightOne, hdiv, hbit]
    · linarith
    · linarith
    · simp
      linarith
    · rw [hany]
      constructor
      · intro hsome
        exact ⟨fun hzero => by linarith, fun hhalf => hsome (by linarith)⟩
      · rintro ⟨-, hsome⟩ hzero
        exact hsome (by linarith)

theorem shiftRight (h : Extends em v) (k : Nat) : Extends (em >>> k) (v / 2 ^ k) := by
  show Extends (Nat.repeat ExtendedMantissa.shiftRightOne k em) (v / 2 ^ k)
  induction k with
  | zero => simpa [Nat.repeat] using h
  | succ k ih =>
    rw [Nat.repeat, pow_succ, ← div_div]
    exact ih.shiftRightOne

theorem of_exact (m : Nat) : Extends (.ofMantissaAndAccuracy m .exact) m := by
  refine ⟨le_refl _, ?_, ?_, ?_⟩ <;> simp [ExtendedMantissa.ofMantissaAndAccuracy]

/-- The accuracy of a quotient says how the remainder compares with half the divisor. -/
theorem of_quotient (a : Nat) (hn : 0 < n) :
    Extends (.ofMantissaAndAccuracy (a / n) (accuracyOfFraction (a % n) n)) (a / n) := by
  have hcast : (0 : ℚ) < n := by exact_mod_cast hn
  have hsplit : (a : ℚ) = n * (a / n : Nat) + (a % n : Nat) := by exact_mod_cast (Nat.div_add_mod a n).symm
  obtain ⟨b, hb⟩ : ∃ b, a % n = b := ⟨_, rfl⟩
  obtain ⟨k, hk⟩ : ∃ k, a / n = k := ⟨_, rfl⟩
  rw [hb, hk] at hsplit
  have hrest : (a : ℚ) / n - k = b / n := by
    rw [hsplit]
    field_simp
    ring
  have hless : (b : ℚ) / n < 1 := by
    rw [div_lt_one hcast]
    exact_mod_cast hb ▸ Nat.mod_lt a hn
  have hnonneg : 0 ≤ (b : ℚ) / n := by positivity
  have hzero : (b : ℚ) / n = 0 ↔ b = 0 := by
    rw [div_eq_zero_iff, or_iff_left hcast.ne']
    exact Nat.cast_eq_zero
  have hequal : (b : ℚ) / n = 1 / 2 ↔ 2 * b = n := by
    rw [div_eq_div_iff hcast.ne' (by norm_num), one_mul, mul_comm]
    exact_mod_cast Iff.rfl
  have hmore : 1 / 2 ≤ (b : ℚ) / n ↔ n ≤ 2 * b := by
    rw [div_le_div_iff₀ (by norm_num) hcast, one_mul, mul_comm]
    exact_mod_cast Iff.rfl
  have hof : ∀ em : ExtendedMantissa, em.mantissa = k → (em.roundBit = true ↔ n ≤ 2 * b) →
      (em.stickyBit = true ↔ ¬ b = 0 ∧ ¬ 2 * b = n) → Extends em (a / n) := by
    intro em hmantissa hround hsticky
    refine ⟨?_, ?_, ?_, ?_⟩
    · rw [hmantissa]
      linarith
    · rw [hmantissa]
      linarith
    · rw [hmantissa, hrest, hmore, hround]
    · rw [hmantissa, hrest, ne_eq, ne_eq, hzero, hequal, hsticky]
  rw [hb, hk, accuracyOfFraction]
  by_cases hnone : b = 0
  · rw [if_pos hnone]
    apply hof <;> simp [ExtendedMantissa.ofMantissaAndAccuracy, hnone, hn.ne']
  · rw [if_neg hnone]
    cases horder : compare (2 * b) n with
    | lt =>
      have hlt := compare_lt_iff_lt.1 horder
      apply hof <;> simp [ExtendedMantissa.ofMantissaAndAccuracy, hnone, hlt, hlt.ne]
    | eq =>
      have heq := compare_eq_iff_eq.1 horder
      apply hof <;> simp [ExtendedMantissa.ofMantissaAndAccuracy, heq]
    | gt =>
      have hgt := compare_gt_iff_gt.1 horder
      apply hof <;> simp [ExtendedMantissa.ofMantissaAndAccuracy, hnone, hgt.le, hgt.ne']

end Extends

theorem mantissa_ofMantissaAndAccuracy (q : Nat) (accuracy : Accuracy) :
    (ExtendedMantissa.ofMantissaAndAccuracy q accuracy).mantissa = q := by
  cases accuracy with
  | exact => rfl
  | inexact order => cases order <;> rfl

/-- A mantissa of full length with its two bits. -/
structure Scaled (v : ℚ) (em : ExtendedMantissa) (E : Int) : Prop extends Extends em (v / 2 ^ E) where
  long : 2 ^ 52 ≤ em.mantissa
  short : em.mantissa < 2 ^ 53

namespace Scaled

variable {em em' : ExtendedMantissa}

theorem below (h : Scaled v em E) : valueOf em.mantissa E ≤ v :=
  (le_div_iff₀ (by positivity)).1 h.low

theorem above (h : Scaled v em E) : v < valueOf (em.mantissa + 1) E := by
  rw [valueOf, ← div_lt_iff₀ (by positivity)]
  exact_mod_cast h.high

theorem two_zpow_le (h : Scaled v em E) : (2 : ℚ) ^ (52 + E) ≤ v := by
  have hlong : (2 : ℚ) ^ (52 : Int) ≤ em.mantissa := by exact_mod_cast h.long
  calc (2 : ℚ) ^ (52 + E) = 2 ^ (52 : Int) * 2 ^ E := zpow_add₀ (by norm_num) _ _
    _ ≤ em.mantissa * 2 ^ E := by gcongr
    _ ≤ v := h.below

theorem lt_two_zpow (h : Scaled v em E) : v < (2 : ℚ) ^ (53 + E) := by
  have hshort : ((em.mantissa + 1 : Nat) : ℚ) ≤ 2 ^ (53 : Int) := by exact_mod_cast h.short
  calc v < (em.mantissa + 1 : Nat) * 2 ^ E := h.above
    _ ≤ 2 ^ (53 : Int) * 2 ^ E := by gcongr
    _ = 2 ^ (53 + E) := (zpow_add₀ (by norm_num) _ _).symm

/-- Bounds on a number are bounds on its exponent. -/
theorem exponent_eq (h : Scaled v em E) (hlow : 2 ^ (52 + e) ≤ v) (hhigh : v < 2 ^ (53 + e)) : E = e := by
  have hlower := hlow.trans_lt h.lt_two_zpow
  have hupper := h.two_zpow_le.trans_lt hhigh
  rw [zpow_lt_zpow_iff_right₀ (by norm_num)] at hlower hupper
  omega

/-- A number has one mantissa of full length. -/
theorem unique (h : Scaled v em E) (h' : Scaled v em' D) : em = em' ∧ E = D := by
  obtain rfl : E = D := h.exponent_eq h'.two_zpow_le h'.lt_two_zpow
  exact ⟨h.toExtends.unique h'.toExtends, rfl⟩

end Scaled

/-- A long mantissa is cut to one of full length. -/
theorem exists_scaled {accuracy : Accuracy} (hlong : 2 ^ 52 ≤ q) (hleast : -1074 ≤ t)
    (h : Extends (.ofMantissaAndAccuracy q accuracy) (v / 2 ^ t)) :
    ∃ em E, shiftToTargetExponent Format.binary64 q t accuracy = (em, E) ∧ Scaled v em E ∧
      q.log2 + t = 52 + E ∧ t ≤ E := by
  have hpos : q ≠ 0 := by omega
  obtain ⟨k, hk⟩ : ∃ k, q.log2 = 52 + k := Nat.exists_eq_add_of_le ((Nat.le_log2 hpos).2 hlong)
  have htarget : Format.binary64.targetExponent (totalExponent q t) = t + k := by
    rw [totalExponent, hk, Format.targetExponent, Format.minExponent, Format.mantissaBits]
    norm_num
    omega
  obtain ⟨em, hem⟩ : ∃ em, ExtendedMantissa.ofMantissaAndAccuracy q accuracy >>> k = em := ⟨_, rfl⟩
  have hfirst : shiftToTargetExponent Format.binary64 q t accuracy = (em, t + k) := by
    rw [shiftToTargetExponent, htarget, shiftToExponent, add_sub_cancel_left, Int.toNat_natCast, hem]
  have hextends : Extends em (v / 2 ^ (t + k)) := by
    rw [← hem, zpow_add₀ (by norm_num), zpow_natCast, ← div_div]
    exact h.shiftRight k
  -- the bounds on the long mantissa, divided by the power
  have hpower : (0 : ℚ) < 2 ^ k := by positivity
  have hlow := h.low
  have hhigh := h.high
  rw [mantissa_ofMantissaAndAccuracy] at hlow hhigh
  have hsame : v / 2 ^ (t + k) = v / 2 ^ t / 2 ^ k := by rw [zpow_add₀ (by norm_num), zpow_natCast, div_div]
  refine ⟨em, t + k, hfirst, ⟨hextends, ?_, ?_⟩, by omega, by omega⟩
  · have hfloor : ((2 ^ 52 * 2 ^ k : Nat) : ℚ) ≤ q := by
      rw [← pow_add, ← hk]
      exact_mod_cast Nat.log2_self_le hpos
    have hlt : ((2 ^ 52 : Nat) : ℚ) < em.mantissa + 1 := by
      apply lt_of_le_of_lt _ hextends.high
      rw [hsame, le_div_iff₀ hpower]
      exact_mod_cast hfloor.trans hlow
    exact Nat.lt_succ_iff.1 (by exact_mod_cast hlt)
  · have hceil : ((q + 1 : Nat) : ℚ) ≤ (2 ^ 53 * 2 ^ k : Nat) := by
      rw [← pow_add, show 53 + k = q.log2 + 1 by omega]
      exact_mod_cast Nat.lt_log2_self
    have hlt : (em.mantissa : ℚ) < (2 ^ 53 : Nat) := by
      apply lt_of_le_of_lt hextends.low
      rw [hsame, div_lt_iff₀ hpower]
      push_cast at hceil ⊢
      exact hhigh.trans_le hceil
    exact_mod_cast hlt

/-! ## 2. One rounding -/

/-- Rounding depends on the number alone. -/
theorem roundWithAccuracy_congr (sign : Sign) {accuracy accuracy' : Accuracy} {q' : Nat} {t' : Int}
    (hlong : 2 ^ 52 ≤ q) (hleast : -1074 ≤ t) (h : Extends (.ofMantissaAndAccuracy q accuracy) (v / 2 ^ t))
    (hlong' : 2 ^ 52 ≤ q') (hleast' : -1074 ≤ t') (h' : Extends (.ofMantissaAndAccuracy q' accuracy') (v / 2 ^ t')) :
    roundWithAccuracy Format.binary64 sign q t accuracy = roundWithAccuracy Format.binary64 sign q' t' accuracy' := by
  obtain ⟨em, E, hfirst, hscaled, -, -⟩ := exists_scaled hlong hleast h
  obtain ⟨em', E', hfirst', hscaled', -, -⟩ := exists_scaled hlong' hleast' h'
  obtain ⟨rfl, rfl⟩ := hscaled.unique hscaled'
  rw [roundWithAccuracy, roundWithAccuracy, hfirst, hfirst']

theorem roundedMantissa_cases (em : ExtendedMantissa) :
    em.roundedMantissa = em.mantissa ∨ em.roundedMantissa = em.mantissa + 1 := by
  obtain ⟨m, round, sticky⟩ := em
  cases round <;> cases sticky
  case true.false =>
    show m + m % 2 = m ∨ m + m % 2 = m + 1
    omega
  case true.true => exact .inr rfl
  all_goals exact .inl rfl

theorem Extends.rounded_near {em : ExtendedMantissa} (h : Extends em v) : |em.roundedMantissa - v| ≤ 1 / 2 := by
  obtain ⟨m, round, sticky⟩ := em
  obtain ⟨hlow, hhigh, hround, hsticky⟩ := h
  dsimp only at hlow hhigh hround hsticky
  rw [abs_le]
  cases round with
  | false =>
    have hless : v - m < 1 / 2 := by simpa using hround
    have hrounded : (⟨m, false, sticky⟩ : ExtendedMantissa).roundedMantissa = m := by cases sticky <;> rfl
    rw [hrounded]
    constructor <;> linarith
  | true =>
    have hmore : 1 / 2 ≤ v - m := hround.1 rfl
    cases sticky with
    | false =>
      -- just a half: both neighbours are as near
      have hhalf : v - m = 1 / 2 := by
        by_contra hne
        exact Bool.false_ne_true (hsticky.2 ⟨by linarith, hne⟩)
      have hrounded : (⟨m, true, false⟩ : ExtendedMantissa).roundedMantissa = m + m % 2 := rfl
      obtain heven | hodd := Nat.mod_two_eq_zero_or_one m
      · rw [hrounded, heven, add_zero]
        constructor <;> linarith
      · rw [hrounded, hodd]
        push_cast
        constructor <;> linarith
    | true =>
      have hrounded : (⟨m, true, true⟩ : ExtendedMantissa).roundedMantissa = m + 1 := rfl
      rw [hrounded]
      push_cast
      constructor <;> linarith

theorem Scaled.rounded_near {em : ExtendedMantissa} (h : Scaled v em E) :
    |valueOf em.roundedMantissa E - v| ≤ 2 ^ E / 2 := by
  have hpower : (0 : ℚ) < 2 ^ E := by positivity
  have hsplit : valueOf em.roundedMantissa E - v = (em.roundedMantissa - v / 2 ^ E) * 2 ^ E := by
    rw [valueOf]
    field_simp
  rw [hsplit, abs_mul, abs_of_pos hpower]
  calc |em.roundedMantissa - v / 2 ^ E| * 2 ^ E ≤ 1 / 2 * 2 ^ E := by gcongr; exact h.toExtends.rounded_near
    _ = 2 ^ E / 2 := by ring

/-- A full mantissa nearest to a number. -/
structure Rounded (v : ℚ) (m : Nat) (e : Int) : Prop extends Full m e where
  near : |valueOf m e - v| ≤ 2 ^ e / 2

theorem Rounded.relative (h : Rounded v m e) : |valueOf m e - v| ≤ v / 2 ^ 52 := by
  obtain ⟨hdown, hup⟩ := abs_le.1 h.near
  have hlong := h.two_zpow_le
  have hpower : (0 : ℚ) < 2 ^ e := by positivity
  rw [zpow_add₀ (by norm_num)] at hlong
  apply h.near.trans
  rw [div_le_div_iff₀ (by norm_num) (by norm_num)]
  norm_num at hlong ⊢
  linarith

/-- **Rounding gives a nearest mantissa.** -/
theorem rounded_roundWithAccuracy (sign : Sign) {accuracy : Accuracy} (hlong : 2 ^ 52 ≤ q) (hleast : -1074 ≤ t)
    (hgreatest : q.log2 + t ≤ 1022) (h : Extends (.ofMantissaAndAccuracy q accuracy) (v / 2 ^ t)) :
    ∃ m e, ∃ h : Rounded v m e, roundWithAccuracy Format.binary64 sign q t accuracy = .finite sign m e h.pos := by
  obtain ⟨em, E, hfirst, hscaled, hexponent, hle⟩ := exists_scaled hlong hleast h
  have hnear := hscaled.rounded_near
  have hfull := hscaled.long
  have hshort := hscaled.short
  have hrounded := roundedMantissa_cases em
  -- one more than the greatest mantissa has a longer exponent
  obtain ⟨m, e, h, hvalue, hmore⟩ : ∃ m e, Full m e ∧ valueOf em.roundedMantissa E = valueOf m e ∧ E ≤ e := by
    by_cases htop : em.roundedMantissa < 2 ^ 53
    · exact ⟨_, _, ⟨by omega, htop, by omega, by omega⟩, rfl, le_refl _⟩
    · refine ⟨2 ^ 52, E + 1, ⟨le_refl _, by norm_num, by omega, by omega⟩, ?_, by omega⟩
      rw [show em.roundedMantissa = 2 ^ 53 by omega, valueOf, valueOf, zpow_add_one₀ (by norm_num)]
      push_cast
      ring
  have hunit : (2 : ℚ) ^ E ≤ 2 ^ e := zpow_le_zpow_right₀ (by norm_num) hmore
  rw [hvalue] at hnear
  refine ⟨m, e, ⟨h, hnear.trans (by linarith)⟩, ?_⟩
  rw [roundWithAccuracy, hfirst]
  dsimp only
  rw [h.shiftToTargetExponent_exact hvalue hmore]
  exact dif_neg h.pos.ne'

/-- **A number near a full mantissa is rounded to it.**  Below a power of two the doubles are closer together. -/
theorem Full.roundWithAccuracy_near (h : Full m e) (sign : Sign) {accuracy : Accuracy} (hlong : 2 ^ 52 ≤ q)
    (hleast : -1074 ≤ t) (hextends : Extends (.ofMantissaAndAccuracy q accuracy) (v / 2 ^ t))
    (hnear : |v - valueOf m e| < 2 ^ e / 2) (hpower : m = 2 ^ 52 → valueOf m e ≤ v) :
    roundWithAccuracy Format.binary64 sign q t accuracy = .finite sign m e h.pos := by
  obtain ⟨em, E, hfirst, hscaled, -, -⟩ := exists_scaled hlong hleast hextends
  obtain ⟨hdown, hup⟩ := abs_lt.1 hnear
  have hunit : (0 : ℚ) < 2 ^ e := by positivity
  have hlow : (2 : ℚ) ^ (52 + e) ≤ v := by
    by_cases hleast : m = 2 ^ 52
    · exact h.two_zpow_le.trans (hpower hleast)
    · have hmore : ((2 ^ 52 + 1 : Nat) : ℚ) ≤ m := by exact_mod_cast lt_of_le_of_ne h.long (Ne.symm hleast)
      have hvalue : ((2 ^ 52 + 1 : Nat) : ℚ) * 2 ^ e ≤ valueOf m e := by
        rw [valueOf]
        gcongr
      rw [zpow_add₀ (by norm_num)]
      norm_num at hvalue ⊢
      linarith
  have hhigh : v < (2 : ℚ) ^ (53 + e) := by
    have hless : (m : ℚ) ≤ (2 ^ 53 - 1 : Nat) := by exact_mod_cast Nat.le_sub_one_of_lt h.short
    have hvalue : valueOf m e ≤ (2 ^ 53 - 1 : Nat) * 2 ^ e := by
      rw [valueOf]
      gcongr
    rw [zpow_add₀ (by norm_num)]
    norm_num at hvalue ⊢
    linarith
  obtain rfl : E = e := hscaled.exponent_eq hlow hhigh
  -- the rounded mantissa is closer than one unit
  have hrounded : em.roundedMantissa = m := by
    obtain ⟨hdown', hup'⟩ := abs_le.1 hscaled.rounded_near
    have hless : valueOf em.roundedMantissa E < valueOf (m + 1) E := by
      have hnext : valueOf (m + 1) E = valueOf m E + 2 ^ E := by rw [valueOf, valueOf]; push_cast; ring
      linarith
    have hmore : valueOf m E < valueOf (em.roundedMantissa + 1) E := by
      have hnext : valueOf (em.roundedMantissa + 1) E = valueOf em.roundedMantissa E + 2 ^ E := by
        rw [valueOf, valueOf]; push_cast; ring
      linarith
    rw [valueOf, valueOf, mul_lt_mul_iff_left₀ hunit] at hless hmore
    have hless' : em.roundedMantissa < m + 1 := by exact_mod_cast hless
    have hmore' : m < em.roundedMantissa + 1 := by exact_mod_cast hmore
    omega
  rw [roundWithAccuracy, hfirst]
  dsimp only
  rw [hrounded, h.shiftToTargetExponent_exact rfl (le_refl _)]
  exact dif_neg h.pos.ne'

/-! ## 3. Products and quotients -/

theorem valueOf_mul (M N : Nat) (E D : Int) : valueOf (M * N) (E + D) = valueOf M E * valueOf N D := by
  rw [valueOf, valueOf, valueOf, zpow_add₀ (by norm_num), Nat.cast_mul]
  ring

theorem Full.rounded_mul (hM : Full M E) (hN : Full N D) (hleast : -1074 ≤ E + D) (hgreatest : E + D ≤ 900) :
    ∃ m e, ∃ h : Rounded (valueOf M E * valueOf N D) m e, UnpackedFloat.mul Format.binary64
      (.finite .positive M E hM.pos) (.finite .positive N D hN.pos) = .finite .positive m e h.pos := by
  have hlong : 2 ^ 52 ≤ M * N := hM.long.trans (Nat.le_mul_of_pos_right M hN.pos)
  have hshort : M * N < 2 ^ 106 := by
    calc M * N < 2 ^ 53 * 2 ^ 53 := Nat.mul_lt_mul'' hM.short hN.short
      _ = 2 ^ 106 := by norm_num
  have hlog := (Nat.log2_lt (Nat.mul_pos hM.pos hN.pos).ne').2 hshort
  have hexact : Extends (.ofMantissaAndAccuracy (M * N) .exact) (valueOf M E * valueOf N D / 2 ^ (E + D)) := by
    rw [← valueOf_mul, valueOf, mul_div_cancel_right₀ _ (by positivity)]
    exact .of_exact (M * N)
  exact rounded_roundWithAccuracy _ hlong hleast (by omega) hexact

/-- Numbers above zero whose quotient is neither tiny nor huge. -/
structure Moderate (M : Nat) (E : Int) (N : Nat) (D : Int) : Prop where
  dividend : 0 < M
  divisor : 0 < N
  coarse : -1074 ≤ E - D
  least : -1021 ≤ totalExponent M E - totalExponent N D
  greatest : totalExponent M E - totalExponent N D ≤ 1022

theorem Full.moderate (hM : Full M E) (hN : Full N D) (hleast : -1000 ≤ E - D) (hgreatest : E - D ≤ 900) :
    Moderate M E N D := by
  refine ⟨hM.pos, hN.pos, by omega, ?_, ?_⟩ <;> rw [hM.totalExponent_eq rfl, hN.totalExponent_eq rfl] <;> omega

namespace Moderate

/-- The quotient of two mantissas is long, and its accuracy is right. -/
theorem exists_quotient (h : Moderate M E N D) : ∃ q t accuracy, divCore Format.binary64 M E N D = (q, t, accuracy) ∧
    2 ^ 52 ≤ q ∧ -1074 ≤ t ∧ q.log2 + t ≤ 1022 ∧
      Extends (.ofMantissaAndAccuracy q accuracy) (valueOf M E / valueOf N D / 2 ^ t) := by
  obtain ⟨hM, hN, hcoarse, hleast, hgreatest⟩ := h
  obtain ⟨t, ht⟩ : ∃ t, min (E - D) (Format.binary64.targetExponent (totalExponent M E - totalExponent N D)) = t :=
    ⟨_, rfl⟩
  have htarget : Format.binary64.targetExponent (totalExponent M E - totalExponent N D) =
      totalExponent M E - totalExponent N D - 53 := by
    rw [Format.targetExponent, Format.minExponent, Format.mantissaBits]
    norm_num
    omega
  obtain ⟨k, hk⟩ := Int.eq_ofNat_of_zero_le (show 0 ≤ E - D - t by omega)
  have hcore : divCore Format.binary64 M E N D = (M * 2 ^ k / N, t, accuracyOfFraction (M * 2 ^ k % N) N) := by
    rw [divCore, ht, hk, Int.toNat_natCast, Nat.shiftLeft_eq]
  rw [htarget] at ht
  rw [totalExponent, totalExponent] at ht hleast hgreatest
  have hMlow := Nat.log2_self_le hM.ne'
  have hMhigh : M < 2 ^ (M.log2 + 1) := Nat.lt_log2_self
  have hNlow := Nat.log2_self_le hN.ne'
  have hNhigh : N < 2 ^ (N.log2 + 1) := Nat.lt_log2_self
  have hlong : 2 ^ 52 ≤ M * 2 ^ k / N := by
    rw [Nat.le_div_iff_mul_le hN]
    calc 2 ^ 52 * N ≤ 2 ^ 52 * 2 ^ (N.log2 + 1) := Nat.mul_le_mul_left _ hNhigh.le
      _ = 2 ^ (52 + (N.log2 + 1)) := (pow_add _ _ _).symm
      _ ≤ 2 ^ (M.log2 + k) := Nat.pow_le_pow_right (by norm_num) (by omega)
      _ = 2 ^ M.log2 * 2 ^ k := pow_add _ _ _
      _ ≤ M * 2 ^ k := Nat.mul_le_mul_right _ hMlow
  have hshort : M * 2 ^ k / N < 2 ^ (M.log2 + 1 + k - N.log2) := by
    rw [Nat.div_lt_iff_lt_mul hN]
    calc M * 2 ^ k < 2 ^ (M.log2 + 1) * 2 ^ k := Nat.mul_lt_mul_of_pos_right hMhigh (by positivity)
      _ = 2 ^ (M.log2 + 1 + k - N.log2) * 2 ^ N.log2 := by rw [← pow_add, ← pow_add]; congr 1; omega
      _ ≤ 2 ^ (M.log2 + 1 + k - N.log2) * N := Nat.mul_le_mul_left _ hNlow
  have hlog := (Nat.log2_lt (by omega)).2 hshort
  have hvalue : valueOf M E / valueOf N D / 2 ^ t = (M * 2 ^ k : Nat) / N := by
    have hpower : (2 : ℚ) ^ k = 2 ^ E / 2 ^ D / 2 ^ t := by
      rw [← zpow_sub₀ (by norm_num), ← zpow_sub₀ (by norm_num), hk, zpow_natCast]
    have hpos : (N : ℚ) ≠ 0 := by exact_mod_cast hN.ne'
    push_cast
    rw [valueOf, valueOf, hpower]
    field_simp
  refine ⟨_, _, _, hcore, hlong, by omega, by omega, ?_⟩
  rw [hvalue]
  exact .of_quotient _ hN

theorem rounded_div (h : Moderate M E N D) : ∃ m e, ∃ hr : Rounded (valueOf M E / valueOf N D) m e,
    UnpackedFloat.div Format.binary64 (.finite .positive M E h.dividend) (.finite .positive N D h.divisor) =
      .finite .positive m e hr.pos := by
  obtain ⟨q, t, accuracy, hcore, hlong, hmin, hmax, hextends⟩ := h.exists_quotient
  rw [UnpackedFloat.div, hcore]
  exact rounded_roundWithAccuracy _ hlong hmin hmax hextends

/-- A quotient near a full mantissa is rounded to it. -/
theorem div_near (h : Moderate M E N D) (hm : Full m e) (hnear : |valueOf M E / valueOf N D - valueOf m e| < 2 ^ e / 2)
    (hpower : m = 2 ^ 52 → valueOf m e ≤ valueOf M E / valueOf N D) :
    UnpackedFloat.div Format.binary64 (.finite .positive M E h.dividend) (.finite .positive N D h.divisor) =
      .finite .positive m e hm.pos := by
  obtain ⟨q, t, accuracy, hcore, hlong, hmin, -, hextends⟩ := h.exists_quotient
  rw [UnpackedFloat.div, hcore]
  exact hm.roundWithAccuracy_near _ hlong hmin hextends hnear hpower

/-- A quotient depends on its value alone. -/
theorem div_congr {M' N' : Nat} {E' D' : Int} (h : Moderate M E N D) (h' : Moderate M' E' N' D')
    (hvalue : valueOf M E / valueOf N D = valueOf M' E' / valueOf N' D') :
    UnpackedFloat.div Format.binary64 (.finite .positive M E h.dividend) (.finite .positive N D h.divisor) =
      UnpackedFloat.div Format.binary64 (.finite .positive M' E' h'.dividend) (.finite .positive N' D' h'.divisor) := by
  obtain ⟨q, t, accuracy, hcore, hlong, hmin, -, hextends⟩ := h.exists_quotient
  obtain ⟨q', t', accuracy', hcore', hlong', hmin', -, hextends'⟩ := h'.exists_quotient
  rw [UnpackedFloat.div, UnpackedFloat.div, hcore, hcore']
  exact roundWithAccuracy_congr _ hlong hmin hextends hlong' hmin' (hvalue ▸ hextends')

end Moderate

end TableSync.Decimal
