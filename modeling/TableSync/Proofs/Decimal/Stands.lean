/-
  TableSync/Proofs/Decimal/Stands.lean
  ====================================
  **What doubles stand for** — differences exact, products near.

  `Stands x r` says that the double `x` is at or above zero and stands for the
  rational `r`.  Comparing such doubles, cutting them to the whole part and
  taking a whole number off are exact.  A product stands for a number within one
  part in `2 ^ 52` of the exact one.
-/
import TableSync.Proofs.Decimal.Nearest
import TableSync.Decimal.Rounding

namespace TableSync.Decimal

open Float.Model Float.Model.UnpackedFloat

variable {M N m n : Nat} {E D e : Int} {r s : ℚ} {x y : Float}

/-! ## 1. What a double stands for -/

/-- A double at or above zero, and the number that it stands for. -/
inductive Stands : Float → ℚ → Prop
  | zero : Stands 0.0 0
  | full {m : Nat} {e : Int} (h : Full m e) : Stands h.double (valueOf m e)

namespace Stands

theorem extended (hx : Stands x r) : (Binary64.decode x).extended? = some ((r : WithTop ℚ) : Extended) := by
  cases hx with
  | zero =>
    have hdecode : Binary64.decode 0.0 = .finite false 0 (-1074) := by decide +kernel
    rw [hdecode, Binary64.extended?, Binary64.rational_zero]
  | full h => exact h.extended_signed .positive

theorem lt_iff (hx : Stands x r) (hy : Stands y s) : x < y ↔ r < s := by
  rw [float_lt_iff hx.extended hy.extended, WithBot.coe_lt_coe, WithTop.coe_lt_coe]

theorem nonneg (hx : Stands x r) : 0 ≤ r := by
  cases hx with
  | zero => exact le_refl _
  | full h => exact h.value_pos.le

/-- A double of decoded parts. -/
theorem of_double (h : Full m e) (hx : x = h.double) (hr : r = valueOf m e) : Stands x r := by
  rw [hx, hr]
  exact .full h

theorem wholePart_eq (hx : Stands x r) : wholePart x = ⌊r⌋₊ := by
  cases hx with
  | zero =>
    rw [Nat.floor_zero]
    decide +kernel
  | @full m e h =>
    rw [wholePart, h.decode_signed, Binary64.truncate]
    by_cases he : 0 ≤ e
    · have hvalue : valueOf m e = (m * twoTo e.toNat : Nat) := by
        rw [← valueOf_shift m he, sub_zero, valueOf, zpow_zero, mul_one]
        rfl
      rw [if_pos he, hvalue, Nat.floor_natCast]
      rfl
    · have hvalue : valueOf m e = (m : ℚ) / (twoTo (-e).toNat : Nat) := by
        have hpower : ((twoTo (-e).toNat : Nat) : ℚ) = 2 ^ (-e) := by
          rw [← Int.toNat_of_nonneg (show 0 ≤ -e by omega), zpow_natCast, Int.toNat_natCast]
          exact Nat.cast_pow 2 _
        rw [hpower, valueOf, zpow_neg, div_inv_eq_mul]
      rw [if_neg he, hvalue, Nat.floor_div_natCast, Nat.floor_natCast]
      rfl

/-- A product is near the exact one, if that is no tiny number. -/
theorem mul (hx : Stands x r) (hy : Stands y s) (hleast : r * s = 0 ∨ 2 ^ (-900 : Int) ≤ r * s)
    (hgreatest : r * s ≤ 2 ^ (900 : Int)) : ∃ p, Stands (x * y) p ∧ |p - r * s| ≤ r * s / 2 ^ 52 := by
  cases hx with
  | zero =>
    refine ⟨0, ?_, by simp⟩
    cases hy with
    | zero =>
      have hproduct : (0.0 : Float) * 0.0 = 0.0 := rfl
      rw [hproduct]
      exact .zero
    | full h =>
      have hproduct : 0.0 * h.double = 0.0 := by
        show Float.ofModel (.pack (UnpackedFloat.mul Format.binary64 (0.0 : Float).toModel.unpack _)) = _
        rw [h.unpack_signed]
        rfl
      rw [hproduct]
      exact .zero
  | @full M E h =>
    cases hy with
    | zero =>
      have hproduct : h.double * 0.0 = 0.0 := by
        show Float.ofModel (.pack (UnpackedFloat.mul Format.binary64 _ (0.0 : Float).toModel.unpack)) = _
        rw [h.unpack_signed]
        rfl
      refine ⟨0, ?_, by simp⟩
      rw [hproduct]
      exact .zero
    | @full N D h' =>
      have hrange : 104 + (E + D) ≤ 900 ∧ -900 < 106 + (E + D) := by
        have hpos := mul_pos h.value_pos h'.value_pos
        have hlower := mul_le_mul h.two_zpow_le h'.two_zpow_le (by positivity) h.value_pos.le
        have hupper := mul_lt_mul'' h.lt_two_zpow h'.lt_two_zpow h.value_pos.le h'.value_pos.le
        rw [← zpow_add₀ (by norm_num)] at hlower hupper
        have hleast' := (hleast.resolve_left hpos.ne').trans_lt hupper
        have hgreatest' := hlower.trans hgreatest
        rw [zpow_lt_zpow_iff_right₀ (by norm_num)] at hleast'
        rw [zpow_le_zpow_iff_right₀ (by norm_num)] at hgreatest'
        omega
      obtain ⟨m, e, hrounded, hproduct⟩ := h.rounded_mul h' (by omega) (by omega)
      refine ⟨valueOf m e, of_double hrounded.toFull ?_ rfl, hrounded.relative⟩
      show Float.ofModel (.pack (UnpackedFloat.mul Format.binary64 h.double.toModel.unpack
        h'.double.toModel.unpack)) = _
      rw [h.unpack_signed, h'.unpack_signed, hproduct]
      rfl

end Stands

/-! ## 2. Differences -/

theorem Full.sub_self (h : Full m e) : h.double - h.double = 0.0 := by
  show Float.ofModel (.pack (UnpackedFloat.sub Format.binary64 h.double.toModel.unpack h.double.toModel.unpack)) = _
  rw [h.unpack_signed, UnpackedFloat.sub]
  dsimp only
  rw [Int.sub_self]
  rfl

/-- A difference that a full mantissa stands for is exact. -/
theorem Full.sub_exact (h : Full m e) (hM : Full M E) (hN : Full N D)
    (hvalue : valueOf M E = valueOf N D + valueOf m e) :
    hM.double - hN.double = h.double := by
  obtain ⟨t, ht⟩ : ∃ t, min E D = t := ⟨_, rfl⟩
  have hM' := valueOf_shift M (show t ≤ E by omega)
  have hN' := valueOf_shift N (show t ≤ D by omega)
  obtain ⟨a, ha⟩ : ∃ a, M * 2 ^ (E - t).toNat = a := ⟨_, rfl⟩
  obtain ⟨b, hb⟩ : ∃ b, N * 2 ^ (D - t).toNat = b := ⟨_, rfl⟩
  rw [ha] at hM'
  rw [hb] at hN'
  -- the mantissas with one exponent
  have hpower : (0 : ℚ) < 2 ^ t := by positivity
  have hless : b < a := by
    have hlt : valueOf b t < valueOf a t := by
      rw [hM', hN', hvalue]
      exact lt_add_of_pos_right _ h.value_pos
    rw [valueOf, valueOf, mul_lt_mul_iff_left₀ hpower] at hlt
    exact_mod_cast hlt
  have hdifference : valueOf (a - b) t = valueOf m e := by
    rw [valueOf, Nat.cast_sub hless.le, sub_mul, ← valueOf, ← valueOf, hM', hN', hvalue]
    ring
  show Float.ofModel (.pack (UnpackedFloat.sub Format.binary64 hM.double.toModel.unpack hN.double.toModel.unpack)) = _
  rw [hM.unpack_signed, hN.unpack_signed, UnpackedFloat.sub]
  simp only [decreaseExponent, ht, Nat.shiftLeft_eq, ha, hb]
  have hcompare : compare (Sign.positive.apply (a : Int) - Sign.positive.apply (b : Int)) 0 = .gt := by
    rw [compare_gt_iff_gt]
    show (0 : Int) < a - b
    omega
  have hnat : (Sign.positive.apply (a : Int) - Sign.positive.apply (b : Int)).toNat = a - b := by
    show ((a : Int) - b).toNat = a - b
    omega
  rw [UnpackedFloat.normalize, hcompare]
  dsimp only
  rw [hnat, h.round_exact .positive hdifference]
  rfl

namespace Stands

/-- **A whole number is taken off exactly.**  What is left is no tiny number. -/
theorem sub_ofNat {k : Int} (hk : -900 ≤ k) (hx : Stands x r) (hleast : r = 0 ∨ 2 ^ k ≤ r)
    (hgreatest : r < 2 ^ (53 : Int)) (hn : n ≤ r) :
    Stands (x - Float.ofNat n) (r - n) ∧ (r - n = 0 ∨ 2 ^ (k - 53) ≤ r - n) := by
  cases hx with
  | zero =>
    have hnone : n = 0 := by
      have hle : n ≤ 0 := by exact_mod_cast hn
      omega
    have hzero : (0.0 : Float) - Float.ofNat 0 = 0.0 := rfl
    rw [hnone, hzero, Nat.cast_zero, sub_zero]
    exact ⟨.zero, .inl rfl⟩
  | @full m e h =>
    have hrange := h.exponent_bounds (hleast.resolve_left h.value_pos.ne') hgreatest
    by_cases hnone : n = 0
    · have hsame : h.double - Float.ofNat 0 = h.double := by
        show Float.ofModel (.pack (UnpackedFloat.sub Format.binary64 h.double.toModel.unpack
          (0.0 : Float).toModel.unpack)) = _
        rw [h.unpack_signed]
        rfl
      rw [hnone, hsame, Nat.cast_zero, sub_zero]
      refine ⟨.full h, .inr ?_⟩
      exact (zpow_le_zpow_right₀ (by norm_num) (by omega)).trans (hleast.resolve_left h.value_pos.ne')
    -- the whole number with the exponent of the double
    obtain ⟨b, hb⟩ : ∃ b, n * 2 ^ (0 - e).toNat = b := ⟨_, rfl⟩
    have hvalue : valueOf b e = n := by rw [← hb, valueOf_shift n (show e ≤ 0 by omega), valueOf, zpow_zero, mul_one]
    have hpower : (0 : ℚ) < 2 ^ e := by positivity
    have hle : b ≤ m := by
      have hvalues : valueOf b e ≤ valueOf m e := hvalue.trans_le hn
      rw [valueOf, valueOf, mul_le_mul_iff_left₀ hpower] at hvalues
      exact_mod_cast hvalues
    have hdifference : valueOf m e - n = valueOf (m - b) e := by
      rw [← hvalue, valueOf, valueOf, valueOf, Nat.cast_sub hle, sub_mul]
    have hshort : n ≤ 2 ^ 53 := by
      have hcast : (n : ℚ) ≤ 2 ^ (53 : Int) := hn.trans hgreatest.le
      exact_mod_cast hcast
    by_cases hrest : m - b = 0
    · -- the double stands for the whole number
      have hsame : valueOf n 0 = valueOf m e := by
        rw [valueOf, zpow_zero, mul_one, ← hvalue, show b = m by omega]
      have hzero : valueOf m e - n = 0 := by rw [hdifference, hrest, valueOf, Nat.cast_zero, zero_mul]
      rw [h.ofNat_eq hsame hshort, h.sub_self, hzero]
      exact ⟨.zero, .inl rfl⟩
    · obtain ⟨m', e', h', hleft⟩ := exists_full_of_short (n := m - b) (E := e) (by omega)
        ((Nat.sub_le m b).trans h.short.le) (by omega) (by omega)
      refine ⟨?_, .inr ?_⟩
      · apply of_double h' _ (hdifference.trans hleft)
        obtain ⟨N, D, hN, hwhole⟩ := exists_full (Nat.pos_of_ne_zero hnone) hshort
        rw [hN.ofNat_eq hwhole hshort]
        apply h'.sub_exact h hN
        rw [← hleft, ← hdifference, ← hwhole, valueOf, valueOf, zpow_zero, mul_one]
        ring
      · rw [hdifference, valueOf]
        calc (2 : ℚ) ^ (k - 53) ≤ 2 ^ e := zpow_le_zpow_right₀ (by norm_num) (by omega)
          _ = (1 : Nat) * 2 ^ e := by rw [Nat.cast_one, one_mul]
          _ ≤ (m - b : Nat) * 2 ^ e := by gcongr; omega

end Stands

end TableSync.Decimal
