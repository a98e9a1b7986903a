import Mathlib.Algebra.Order.Field.Rat
import Mathlib.Tactic.Positivity
import Mathlib.Tactic.Ring
import MarketFeed.Proofs.Decimal.Encoding
import MarketFeed.Proofs.Text.Notation

namespace MarketFeed.Decimal

open Text

variable {a b d : Decimal}

def value (d : Decimal) : ℚ := d.coeff / 10 ^ d.scale

def Held (x : ℚ) : Prop := ∃ d : Decimal, d.value = x

structure IsCanonical (d : Decimal) : Prop where
  stripped : d.scale = 0 ∨ d.magnitude % 10 ≠ 0
  zero_unsigned : d.magnitude = 0 → d.negative = false

lemma cast_tenPow (k : Nat) : (tenPow k : ℚ) = 10 ^ k := Nat.cast_pow 10 k

lemma coeff_eq_signed (d : Decimal) : d.coeff = signed d.negative (d.magnitude : ℤ) := rfl

lemma cast_signed (p : Bool) (n : ℤ) : ((signed p n : ℤ) : ℚ) = signed p (n : ℚ) := by
  cases p
  · rfl
  · exact Int.cast_neg n

lemma value_eq_signed (d : Decimal) :
    d.value = signed d.negative (d.magnitude / 10 ^ d.scale : ℚ) := by
  rw [value, coeff_eq_signed, cast_signed]
  cases d.negative
  · rfl
  · exact neg_div _ _

lemma value_eq_zero_iff : d.value = 0 ↔ d.magnitude = 0 := by
  rw [value, div_eq_zero_iff, Int.cast_eq_zero, ← natAbs_coeff, Int.natAbs_eq_zero]
  exact or_iff_left (by positivity)

lemma value_neg (d : Decimal) : d.neg.value = -d.value := by
  rw [value, scale_neg, coeff_neg, value, Int.cast_neg, neg_div]

lemma held_signed_iff {p : Bool} {x : ℚ} : Held (signed p x) ↔ Held x := by
  cases p with
  | false => rfl
  | true =>
    constructor
    · rintro ⟨d, hd⟩
      exact ⟨d.neg, by rw [value_neg, hd]; exact neg_neg x⟩
    · rintro ⟨d, rfl⟩
      exact ⟨d.neg, value_neg d⟩

lemma exists_magnitude_of_held {x : ℚ} (h : Held x) (hx : 0 ≤ x) :
    ∃ m s, m < coeffBound ∧ s ≤ 28 ∧ x = m / 10 ^ s := by
  obtain ⟨d, rfl⟩ := h
  refine ⟨d.magnitude, d.scale, d.magnitude_lt, d.scale_le, ?_⟩
  have hnonneg : (0 : ℚ) ≤ d.magnitude / 10 ^ d.scale := by positivity
  rw [value_eq_signed] at hx ⊢
  cases hn : d.negative with
  | false => rfl
  | true =>
    rw [hn] at hx
    have hneg : 0 ≤ -(d.magnitude / 10 ^ d.scale : ℚ) := hx
    rw [le_antisymm (neg_nonneg.mp hneg) hnonneg]
    exact neg_zero

lemma value_of_signed? {p : Bool} {m s : Nat} (h : signed? p m s = some d) :
    d.value = signed p (m / 10 ^ s : ℚ) := by
  obtain ⟨hb, hd⟩ := Option.dite_none_right_eq_some.mp h
  cases hd
  exact value_eq_signed _

lemma value_of_of? {n : ℤ} {s : Nat} (h : of? n s = some d) : d.value = n / 10 ^ s := by
  rw [value_of_signed? h]
  by_cases hn : n < 0
  · have habs : (n.natAbs : ℤ) = -n := Int.ofNat_natAbs_of_nonpos hn.le
    have hq : (n.natAbs : ℚ) = -n := by rw [← Int.cast_natCast, habs, Int.cast_neg]
    rw [decide_eq_true hn, hq, neg_div]
    exact neg_neg _
  · have habs : (n.natAbs : ℤ) = n := Int.natAbs_of_nonneg (not_lt.mp hn)
    have hq : (n.natAbs : ℚ) = n := by rw [← Int.cast_natCast, habs]
    rw [decide_eq_false hn, hq]
    rfl

lemma stripFrom_mul (s m : Nat) :
    (stripFrom s m).1 * 10 ^ (s - (stripFrom s m).2) = m := by
  induction s generalizing m with
  | zero => simp [stripFrom]
  | succ s ih =>
    rw [stripFrom]
    split
    · rename_i hm
      have hle := stripFrom_snd_le s (m / 10)
      rw [Nat.succ_sub hle, pow_succ, ← mul_assoc, ih]
      exact Nat.div_mul_cancel (Nat.dvd_of_mod_eq_zero hm)
    · simp

lemma stripFrom_stripped (s m : Nat) : (stripFrom s m).2 = 0 ∨ (stripFrom s m).1 % 10 ≠ 0 := by
  induction s generalizing m with
  | zero => exact Or.inl rfl
  | succ s ih =>
    rw [stripFrom]
    split
    · exact ih (m / 10)
    · rename_i hm
      exact Or.inr hm

lemma magnitude_strip (d : Decimal) :
    d.strip.magnitude * 10 ^ (d.scale - d.strip.scale) = d.magnitude :=
  stripFrom_mul d.scale d.magnitude

lemma magnitude_strip_eq_zero_iff : d.strip.magnitude = 0 ↔ d.magnitude = 0 := by
  rw [← magnitude_strip d, Nat.mul_eq_zero]
  exact (or_iff_left (by positivity)).symm

lemma value_strip (d : Decimal) : d.strip.value = d.value := by
  by_cases hz : d.magnitude = 0
  · rw [value_eq_zero_iff.mpr hz, value_eq_zero_iff, magnitude_strip_eq_zero_iff, hz]
  have hn : d.strip.negative = d.negative := by simp [strip, isZero, hz]
  have hle : d.strip.scale ≤ d.scale := stripFrom_snd_le _ _
  have hm := magnitude_strip d
  rw [value_eq_signed, value_eq_signed, hn]
  congr 1
  rw [← hm, div_eq_div_iff (by positivity) (by positivity), Nat.cast_mul, Nat.cast_pow, mul_assoc,
    Nat.cast_ofNat, ← pow_add, Nat.sub_add_cancel hle]

lemma isCanonical_strip (d : Decimal) : d.strip.IsCanonical where
  stripped := stripFrom_stripped _ _
  zero_unsigned h := by
    have hz := magnitude_strip_eq_zero_iff.mp h
    simp [strip, isZero, hz]

lemma value_neg_iff (h : d.magnitude ≠ 0) : d.value < 0 ↔ d.negative = true := by
  have hpos : (0 : ℚ) < d.magnitude / 10 ^ d.scale := by positivity
  rw [value_eq_signed]
  cases d.negative with
  | false => exact iff_of_false (not_lt.mpr hpos.le) Bool.false_ne_true
  | true => exact iff_of_true (neg_neg_of_pos hpos) rfl

lemma negative_eq_of_value_eq (ha : a.IsCanonical) (hb : b.IsCanonical) (h : a.value = b.value) :
    a.negative = b.negative := by
  by_cases hz : a.magnitude = 0
  · have hbz : b.magnitude = 0 := by rwa [← value_eq_zero_iff, ← h, value_eq_zero_iff]
    rw [ha.zero_unsigned hz, hb.zero_unsigned hbz]
  · have hbz : b.magnitude ≠ 0 := by rwa [ne_eq, ← value_eq_zero_iff, ← h, value_eq_zero_iff]
    rw [Bool.eq_iff_iff, ← value_neg_iff hz, ← value_neg_iff hbz, h]

lemma magnitude_mul_of_value_eq (hn : a.negative = b.negative) (h : a.value = b.value) :
    a.magnitude * 10 ^ b.scale = b.magnitude * 10 ^ a.scale := by
  have hq : (a.magnitude / 10 ^ a.scale : ℚ) = b.magnitude / 10 ^ b.scale := by
    rw [value_eq_signed, value_eq_signed, hn] at h
    cases hb : b.negative with
    | false => rwa [hb] at h
    | true =>
      rw [hb] at h
      exact neg_injective h
  rw [div_eq_div_iff (by positivity) (by positivity)] at hq
  exact_mod_cast hq

lemma IsCanonical.scale_le (hb : b.IsCanonical)
    (h : a.magnitude * 10 ^ b.scale = b.magnitude * 10 ^ a.scale) : b.scale ≤ a.scale := by
  by_contra hlt
  -- `b` would have a zero at its end for each place more than `a`
  have hsplit : b.scale = a.scale + (b.scale - a.scale - 1) + 1 := by omega
  rw [hsplit, pow_succ, pow_add] at h
  have hm : b.magnitude = a.magnitude * 10 ^ (b.scale - a.scale - 1) * 10 := by
    refine Nat.eq_of_mul_eq_mul_right (show 0 < 10 ^ a.scale by positivity) ?_
    rw [← h]
    ring
  rcases hb.stripped with hz | hne
  · omega
  · exact hne (by omega)

theorem IsCanonical.eq_of_value_eq (ha : a.IsCanonical) (hb : b.IsCanonical)
    (h : a.value = b.value) : a = b := by
  have hn := negative_eq_of_value_eq ha hb h
  have hm := magnitude_mul_of_value_eq hn h
  have hs : a.scale = b.scale := le_antisymm (ha.scale_le hm.symm) (hb.scale_le hm)
  rw [hs] at hm
  have hmag := Nat.eq_of_mul_eq_mul_right (show 0 < 10 ^ b.scale by positivity) hm
  cases a
  cases b
  simp_all

end MarketFeed.Decimal
