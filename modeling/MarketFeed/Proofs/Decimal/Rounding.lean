import Mathlib.Tactic.Lemma
import Mathlib.Tactic.Ring
import MarketFeed.Decimal.Arithmetic

namespace MarketFeed.Decimal

lemma tenPow_add (a b : Nat) : tenPow (a + b) = tenPow a * tenPow b := Nat.pow_add 10 a b

lemma tenPow_le {a b : Nat} (h : a ≤ b) : tenPow a ≤ tenPow b :=
  Nat.pow_le_pow_right (by decide) h

lemma le_roundHalfEven_iff {bound : Nat} (he : bound % 2 = 0) (hb : 0 < bound) (n : Nat)
    {unit : Nat} (hu : 0 < unit) :
    bound ≤ roundHalfEven n unit ↔ (2 * bound - 1) * unit ≤ 2 * n := by
  have hdiv : n / unit * unit + n % unit = n := Nat.div_add_mod' n unit
  have hmod : n % unit < unit := Nat.mod_lt n hu
  rw [roundHalfEven]
  generalize n / unit = q at hdiv ⊢
  generalize n % unit = r at hdiv hmod ⊢
  simp only [Bool.or_eq_true, Bool.and_eq_true, decide_eq_true_eq, beq_iff_eq]
  rcases Nat.lt_trichotomy bound (q + 1) with hlt | rfl | hgt
  · have hq : (2 * bound - 1) * unit ≤ 2 * q * unit := Nat.mul_le_mul_right unit (by omega)
    rw [Nat.mul_assoc] at hq
    exact iff_of_true (by split <;> omega) (by omega)
  · have hq : (2 * (q + 1) - 1) * unit = 2 * (q * unit) + unit := by
      rw [show 2 * (q + 1) - 1 = 2 * q + 1 by omega]
      ring
    rw [hq]
    -- Just below the even bound `q` is odd, so that a half is rounded up.
    split <;> omega
  · have hq : (2 * q + 3) * unit ≤ (2 * bound - 1) * unit := Nat.mul_le_mul_right unit (by omega)
    have hexp : (2 * q + 3) * unit = 2 * (q * unit) + 3 * unit := by ring
    rw [hexp] at hq
    exact iff_of_false (by split <;> omega) (by omega)

lemma signed?_eq_none_iff {negative : Bool} {m s : Nat} (hs : s ≤ 28) :
    signed? negative m s = none ↔ coeffBound ≤ m := by
  rw [← Option.not_isSome_iff_eq_none, signed?_isSome_iff]
  omega

lemma fit_eq_none_iff {negative : Bool} {m s : Nat} (hs : s ≤ 28) :
    fit negative m s = none ↔ (2 * coeffBound - 1) * tenPow s ≤ 2 * m := by
  have hround : ∀ k, coeffBound ≤ roundHalfEven m (tenPow k) ↔
      (2 * coeffBound - 1) * tenPow k ≤ 2 * m := fun k =>
    le_roundHalfEven_iff (by decide) (by decide) m (tenPow_pos k)
  rw [fit, List.findSome?_eq_none_iff]
  -- Dropping all of the fraction brings the magnitude lowest, so that the last attempt decides.
  refine ⟨fun h => ?_, fun h k hk => ?_⟩
  · have hlast := h s (List.mem_range.mpr (Nat.lt_succ_self s))
    rw [signed?_eq_none_iff (by omega)] at hlast
    exact (hround s).mp hlast
  · have hle : k ≤ s := Nat.le_of_lt_succ (List.mem_range.mp hk)
    rw [signed?_eq_none_iff (by omega), hround]
    exact Nat.le_trans (Nat.mul_le_mul_left _ (tenPow_le hle)) h

variable {a b d : Decimal}

lemma coeffAt_mul {s : Nat} (h : d.scale ≤ s) (hs : s ≤ 28) :
    d.coeffAt s * tenPow (28 - s) = d.units := by
  rw [coeffAt, units, Int.mul_assoc, ← Int.natCast_mul, ← tenPow_add]
  congr 3
  omega

lemma units_neg (d : Decimal) : d.neg.units = -d.units := by
  rw [units, scale_neg, coeff_neg, Int.neg_mul, units]

lemma natAbs_units_le (d : Decimal) : d.units.natAbs ≤ (coeffBound - 1) * tenPow 28 := by
  rw [units, Int.natAbs_mul, natAbs_coeff, Int.natAbs_natCast]
  exact Nat.mul_le_mul (Nat.le_pred_of_lt d.magnitude_lt) (tenPow_le (Nat.sub_le 28 d.scale))

def IsWide (units : Int) : Prop := (2 * coeffBound - 1) * tenPow 28 ≤ 2 * units.natAbs

lemma not_isWide_of_natAbs_le {n : Int} (h : n.natAbs ≤ (coeffBound - 1) * tenPow 28) :
    ¬ IsWide n := by
  have hlt : 2 * (coeffBound - 1) * tenPow 28 < (2 * coeffBound - 1) * tenPow 28 :=
    Nat.mul_lt_mul_of_pos_right (by decide) (tenPow_pos 28)
  rw [IsWide, Nat.not_le]
  refine Nat.lt_of_le_of_lt (Nat.mul_le_mul_left 2 h) ?_
  rwa [← Nat.mul_assoc]

lemma not_isWide_units (d : Decimal) : ¬ IsWide d.units :=
  not_isWide_of_natAbs_le d.natAbs_units_le

lemma add_eq_none_iff : a.add b = none ↔ IsWide (a.units + b.units) := by
  by_cases ha : a.isZero = true
  · rw [add, if_pos ha, isZero_iff.mp ha, Int.zero_add]
    exact iff_of_false (by simp) b.not_isWide_units
  by_cases hb : b.isZero = true
  · rw [add, if_neg ha, if_pos hb, isZero_iff.mp hb, Int.add_zero]
    exact iff_of_false (by simp) a.not_isWide_units
  have hs : max a.scale b.scale ≤ 28 := Nat.max_le.mpr ⟨a.scale_le, b.scale_le⟩
  have hsum : (a.coeffAt (max a.scale b.scale) + b.coeffAt (max a.scale b.scale)) *
      tenPow (28 - max a.scale b.scale) = a.units + b.units := by
    rw [Int.add_mul, coeffAt_mul (Nat.le_max_left _ _) hs, coeffAt_mul (Nat.le_max_right _ _) hs]
  rw [add, if_neg ha, if_neg hb, fit_eq_none_iff hs, IsWide, ← hsum, Int.natAbs_mul,
    Int.natAbs_natCast]
  generalize max a.scale b.scale = s at *
  have hten : tenPow 28 = tenPow s * tenPow (28 - s) := by
    rw [← tenPow_add, Nat.add_sub_cancel' hs]
  rw [hten, ← Nat.mul_assoc, ← Nat.mul_assoc]
  exact (Nat.mul_le_mul_right_iff (tenPow_pos (28 - s))).symm

lemma sub_eq_none_iff : a.sub b = none ↔ IsWide (a.units - b.units) := by
  rw [sub, add_eq_none_iff, units_neg]
  rfl

lemma not_isWide_sub (h : a.units < 0 ↔ b.units < 0) : ¬ IsWide (a.units - b.units) := by
  have ha := a.natAbs_units_le
  have hb := b.natAbs_units_le
  exact not_isWide_of_natAbs_le (by omega)

end MarketFeed.Decimal
